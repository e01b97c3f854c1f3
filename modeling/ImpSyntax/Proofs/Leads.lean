import Mathlib
import ImpSyntax.Proofs.RuleInduction
import ImpSyntax.Proofs.Reading

/-!
# How far a check goes between two tokens

No rule of the grammar reads the empty word (`Rule.nullable_body`), so a rule the check
enters accepts a token before it is left, unless the check stops inside it. And before its
first token a rule calls only rules that *lead* less far (`Rule.lead`): a statement list
enters a statement, which enters the kind of statement its first token names, which accepts
that token; an expression enters a term, which enters a factor, which accepts a token. So
the rules a check enters between two tokens have decreasing leads: there are at most three
of them, and none is entered twice. Every cycle through the rules of the grammar (a
statement list inside an `if`, an expression inside a factor) accepts a token on the way
round.

The lead of an expression of the grammar bounds the lead of what a piece reading it enters
before its first token (`Ebnf.lead`), and a piece that finishes without a token reads an
expression that may be empty (`Ebnf.nullable`). Both are computed from the grammar as data,
and every kind of piece keeps what they promise (`shallow_closed`), by the one rule
induction of the checker.
-/

namespace ImpSyntax

/-! ## Leads of the grammar -/

mutual
/-- **Whether an expression may read nothing**, a rule counted as reading something. -/
def Ebnf.nullable : Ebnf → Bool
  | .sym _ => false
  | .rule _ => false
  | .seq es => Ebnf.allNullable es
  | .alt es => Ebnf.anyNullable es
  | .opt _ => true
  | .many _ => true

/-- Whether every expression of a list may read nothing. -/
def Ebnf.allNullable : List Ebnf → Bool
  | [] => true
  | e :: es => e.nullable && Ebnf.allNullable es

/-- Whether some expression of a list may read nothing. -/
def Ebnf.anyNullable : List Ebnf → Bool
  | [] => false
  | e :: es => e.nullable || Ebnf.anyNullable es
end

/-- **The lead of a rule**: how many rules, itself included, are open at most before it
accepts its first token. -/
def Rule.lead : Rule → Nat
  | .statementList => 3
  | .expression => 3
  | .statement => 2
  | .term => 2
  | _ => 1

mutual
/-- **The lead of an expression**: how many rules a piece reading it has open at most
before its first token. A sequence leads with its first part, and with the parts after
those that may read nothing; a choice with any of its choices. -/
def Ebnf.lead : Ebnf → Nat
  | .sym _ => 0
  | .rule r => r.lead
  | .seq es => Ebnf.seqLead es
  | .alt es => Ebnf.altLead es
  | .opt e => e.lead
  | .many e => e.lead

/-- The lead of a sequence. -/
def Ebnf.seqLead : List Ebnf → Nat
  | [] => 0
  | e :: es => if e.nullable then max e.lead (Ebnf.seqLead es) else e.lead

/-- The lead of a choice. -/
def Ebnf.altLead : List Ebnf → Nat
  | [] => 0
  | e :: es => max e.lead (Ebnf.altLead es)
end

namespace Rule

/-- **A rule leads one further than its body**: the body's rules are opened inside it. -/
theorem lead_body (r : Rule) : r.lead = r.body.lead + 1 := by
  cases r <;> rfl

/-- **No rule of the grammar reads nothing.** -/
theorem nullable_body (r : Rule) : r.body.nullable = false := by
  cases r <;> rfl

theorem lead_le_three (r : Rule) : r.lead ≤ 3 := by
  cases r <;> decide

theorem one_le_lead (r : Rule) : 1 ≤ r.lead := by
  rw [lead_body]
  exact Nat.le_add_left 1 _

end Rule

namespace Ebnf

variable {e e₁ e₂ : Ebnf} {es : List Ebnf}

@[simp] theorem nullable_seq_cons : (seq (e :: es)).nullable = (e.nullable && (seq es).nullable) :=
  rfl

theorem lead_seq_cons :
    (seq (e :: es)).lead = if e.nullable then max e.lead (seq es).lead else e.lead :=
  rfl

theorem lead_le_seq_cons : e.lead ≤ (seq (e :: es)).lead := by
  rw [lead_seq_cons]
  split <;> omega

/-- After a part that may read nothing, the rest of a sequence leads it. -/
theorem lead_seq_le_of_nullable (h : e.nullable = true) : (seq es).lead ≤ (seq (e :: es)).lead := by
  rw [lead_seq_cons, if_pos h]
  omega

theorem lead_seq_singleton : (seq [e]).lead = e.lead := by
  rw [lead_seq_cons]
  split <;> simp [lead, seqLead]

theorem nullable_seq_singleton : (seq [e]).nullable = e.nullable := by
  simp [nullable, allNullable]

theorem lead_le_alt (he : e ∈ es) : e.lead ≤ (alt es).lead := by
  induction es with
  | nil => cases he
  | cons e' es ih =>
    show e.lead ≤ max e'.lead (alt es).lead
    rcases List.mem_cons.1 he with rfl | he
    · omega
    · have := ih he
      omega

theorem nullable_alt (he : e ∈ es) (h : e.nullable = true) : (alt es).nullable = true := by
  induction es with
  | nil => cases he
  | cons e' es ih =>
    show (e'.nullable || (alt es).nullable) = true
    rcases List.mem_cons.1 he with rfl | he
    · simp [h]
    · simp [ih he]

/-- **One more item of a repetition leads no further than the repetition.** -/
theorem lead_more : (seq [e₁, e₂, many (seq [e₁, e₂])]).lead ≤ (many (seq [e₁, e₂])).lead := by
  simp only [lead, seqLead, nullable]
  cases e₁.nullable <;> cases e₂.nullable <;> simp

end Ebnf

/-! ## Splitting events -/

section Splitting

variable {α : Type} {p s l₁ l₂ : List α} {a b : α}

/-- **An element of two lists put together** is in the first or in the second. -/
theorem append_cons_eq_append (h : p ++ a :: s = l₁ ++ l₂) :
    (∃ s₁, l₁ = p ++ a :: s₁ ∧ s = s₁ ++ l₂) ∨ ∃ p', p = l₁ ++ p' ∧ l₂ = p' ++ a :: s := by
  rcases List.append_eq_append_iff.1 h with ⟨a', rfl, h'⟩ | ⟨c', rfl, rfl⟩
  · cases a' with
    | nil => exact .inr ⟨[], by simp, by simpa using h'.symm⟩
    | cons x a' =>
      obtain ⟨rfl, rfl⟩ := List.cons.inj h'
      exact .inl ⟨a', rfl, rfl⟩
  · exact .inr ⟨c', rfl, rfl⟩

/-- An element other than the last of a list with a last element is in the rest. -/
theorem append_cons_eq_append_singleton (h : p ++ a :: s = l₁ ++ [b]) (hab : a ≠ b) :
    ∃ s₁, l₁ = p ++ a :: s₁ ∧ s = s₁ ++ [b] := by
  rcases append_cons_eq_append h with h₁ | ⟨p', -, hp'⟩
  · exact h₁
  · cases p' with
    | nil => exact absurd (List.cons.inj hp').1.symm hab
    | cons x p' => simp at hp'

end Splitting

/-! ## Tokens and entries between them -/

namespace Event

/-- **The tokens events accept**, the end of input left out. -/
def consumed (evs : List Event) : Nat := (accepted evs).countP fun t => t.symbol != .eof

@[simp] theorem consumed_nil : consumed [] = 0 := rfl

@[simp] theorem consumed_append (evs evs' : List Event) :
    consumed (evs ++ evs') = consumed evs + consumed evs' := by
  simp [consumed]

@[simp] theorem consumed_cons_enter (r : Rule) (evs : List Event) :
    consumed (.enter r :: evs) = consumed evs := rfl

@[simp] theorem consumed_cons_exit (r : Rule) (evs : List Event) :
    consumed (.exit r :: evs) = consumed evs := rfl

@[simp] theorem consumed_cons_reject (t : Token) (x : Expected) (evs : List Event) :
    consumed (.reject t x :: evs) = consumed evs := rfl

@[simp] theorem consumed_cons_success (evs : List Event) :
    consumed (.success :: evs) = consumed evs := rfl

@[simp] theorem consumed_cons_accept (t : Token) (evs : List Event) :
    consumed (.accept t :: evs) = consumed evs + if t.symbol = .eof then 0 else 1 := by
  by_cases h : t.symbol = .eof <;> simp [consumed, h]

/-- **Fed events**: after entering each rule, they accept a token. -/
def Fed (evs : List Event) : Prop := ∀ p r s, evs = p ++ .enter r :: s → 0 < consumed s

/-- **Events that descend between tokens**, from a lead at most `m`: the rules they enter
before their first token lead at most `m` far, and a rule entered with no token since the
last rule entered leads less far than it. -/
structure Descending (m : Nat) (evs : List Event) : Prop where
  starts : ∀ p r s, evs = p ++ .enter r :: s → consumed p = 0 → r.lead ≤ m
  descends : ∀ p r q r' s, evs = p ++ .enter r :: (q ++ .enter r' :: s) → consumed q = 0 →
    r'.lead < r.lead

variable {evs evs₁ evs₂ : List Event} {m m₁ m₂ : Nat} {r : Rule}

theorem Fed.of_noEnter (h : ∀ r, .enter r ∉ evs) : Fed evs := by
  rintro p r s rfl
  exact absurd (by simp) (h r)

theorem Descending.of_noEnter (h : ∀ r, .enter r ∉ evs) : Descending m evs where
  starts p r s hs _ := absurd (by simp [hs]) (h r)
  descends p r q r' s hs _ := absurd (by simp [hs]) (h r)

theorem Descending.mono (h : Descending m₁ evs) (hm : m₁ ≤ m) : Descending m evs :=
  ⟨fun p r s hs hp => (h.starts p r s hs hp).trans hm, h.descends⟩

theorem Fed.append (h₁ : Fed evs₁) (h₂ : Fed evs₂) : Fed (evs₁ ++ evs₂) := by
  intro p r s hs
  rcases append_cons_eq_append hs.symm with ⟨s₁, rfl, rfl⟩ | ⟨p', rfl, rfl⟩
  · have := h₁ p r s₁ rfl
    simp only [consumed_append]
    omega
  · exact h₂ p' r s rfl

/-- **Fed events inside a rule**, that accept a token, are fed. -/
theorem Fed.inRule (h : Fed evs) (hpos : 0 < consumed evs) (r : Rule) :
    Fed (.enter r :: evs ++ [.exit r]) := by
  intro p r' s hs
  cases p with
  | nil =>
    obtain ⟨-, rfl⟩ := List.cons.inj hs
    simpa using hpos
  | cons x p =>
    rw [List.cons_append, List.cons_append, List.cons.injEq] at hs
    obtain ⟨s₁, rfl, rfl⟩ := append_cons_eq_append_singleton hs.2.symm (by simp)
    simpa using h p r' s₁ rfl

/-- **Descending events one after another**: the first ones fed, the second lead at most `m`
far once the first accepted no token. -/
theorem Descending.append (h₁ : Descending m₁ evs₁) (hfed : Fed evs₁) (h₂ : Descending m₂ evs₂)
    (hm₁ : m₁ ≤ m) (hm₂ : consumed evs₁ = 0 → m₂ ≤ m) : Descending m (evs₁ ++ evs₂) where
  starts p r s hs hp := by
    rcases append_cons_eq_append hs.symm with ⟨s₁, rfl, -⟩ | ⟨p', rfl, rfl⟩
    · exact (h₁.starts p r s₁ rfl hp).trans hm₁
    · rw [consumed_append] at hp
      exact (h₂.starts p' r s rfl (by omega)).trans (hm₂ (by omega))
  descends p r q r' s hs hq := by
    rcases append_cons_eq_append hs.symm with ⟨s₁, rfl, hs₁⟩ | ⟨p', rfl, rfl⟩
    · rcases append_cons_eq_append hs₁ with ⟨s₂, rfl, -⟩ | ⟨q', rfl, rfl⟩
      · exact h₁.descends p r q r' s₂ rfl hq
      · -- the rule entered in the first events accepts a token in them
        have := hfed p r s₁ rfl
        rw [consumed_append] at hq
        omega
    · exact h₂.descends p' r q r' s rfl hq

/-- **A rule around descending events** that lead less far than it. -/
theorem Descending.inRule (h : Descending m evs) (hm : m < r.lead) :
    Descending r.lead (.enter r :: evs ++ [.exit r]) where
  starts p r' s hs hp := by
    cases p with
    | nil =>
      obtain ⟨h₁, -⟩ := List.cons.inj hs
      rw [Event.enter.inj h₁]
    | cons x p =>
      rw [List.cons_append, List.cons_append, List.cons.injEq] at hs
      obtain ⟨rfl, hs⟩ := hs
      obtain ⟨s₁, rfl, -⟩ := append_cons_eq_append_singleton hs.symm (by simp)
      exact (h.starts p r' s₁ rfl (by simpa using hp)).trans (Nat.le_of_lt hm)
  descends p r₀ q r' s hs hq := by
    cases p with
    | nil =>
      -- the rule itself, and a rule its body enters before its first token
      obtain ⟨h₀, hs⟩ := List.cons.inj hs
      rw [← Event.enter.inj h₀]
      obtain ⟨s₁, rfl, -⟩ := append_cons_eq_append_singleton hs.symm (by simp)
      exact Nat.lt_of_le_of_lt (h.starts q r' s₁ rfl hq) hm
    | cons x p =>
      rw [List.cons_append, List.cons_append, List.cons.injEq] at hs
      rw [show p ++ .enter r₀ :: (q ++ .enter r' :: s) = (p ++ .enter r₀ :: q) ++ .enter r' :: s
        by simp] at hs
      obtain ⟨s₁, hevs, -⟩ := append_cons_eq_append_singleton hs.2.symm (by simp)
      exact h.descends p r₀ q r' s₁ (by simp [hevs]) hq

end Event

/-! ## Pieces that stay shallow -/

namespace Outcome

open Event

@[simp] theorem events_after (evs : List Event) (o : Outcome) :
    (o.after evs).events = evs ++ o.events := by
  cases o <;> rfl

@[simp] theorem events_inRule (r : Rule) (o : Outcome) :
    (o.inRule r).events = .enter r :: o.events ++ [.exit r] := by
  cases o <;> rfl

theorem after_eq_done {evs evs' : List Event} {o : Outcome} {c' : Cursor}
    (h : o.after evs = .done evs' c') : ∃ evs₂, o = .done evs₂ c' ∧ evs' = evs ++ evs₂ := by
  cases o with
  | done evs₂ d => cases h; exact ⟨evs₂, rfl, rfl⟩
  | halted => cases h

theorem inRule_eq_done {r : Rule} {evs' : List Event} {o : Outcome} {c' : Cursor}
    (h : o.inRule r = .done evs' c') :
    ∃ evs, o = .done evs c' ∧ evs' = .enter r :: evs ++ [.exit r] := by
  cases o with
  | done evs d => cases h; exact ⟨evs, rfl, rfl⟩
  | halted => cases h

/-- **A piece that goes no further than its expression leads**, as a piece meant to read
`e`: it accepts no end of input; finishing, it read something or `e` may read nothing,
and it accepted a token after entering each rule; and its rules descend in lead between
tokens, from the lead of `e`. -/
structure Shallow (e : Ebnf) (o : Outcome) : Prop where
  noEof : ∀ t ∈ accepted o.events, t.symbol ≠ .eof
  empty : ∀ evs c', o = .done evs c' → consumed evs = 0 → e.nullable = true
  fed : ∀ evs c', o = .done evs c' → Fed evs
  descending : Descending e.lead o.events

variable {e e' : Ebnf} {o : Outcome}

/-- A piece that enters no rule, accepts no end of input and, finishing without a token,
reads an expression that may be empty, is shallow. -/
theorem Shallow.of_noEnter (hno : ∀ r, .enter r ∉ o.events)
    (hnoEof : ∀ t ∈ accepted o.events, t.symbol ≠ .eof)
    (hempty : ∀ evs c', o = .done evs c' → consumed evs = 0 → e.nullable = true) :
    o.Shallow e where
  noEof := hnoEof
  empty := hempty
  fed evs c' ho := Fed.of_noEnter (by subst ho; exact hno)
  descending := Descending.of_noEnter hno

theorem Shallow.mono (h : o.Shallow e) (hlead : e.lead ≤ e'.lead)
    (hnull : e.nullable = true → e'.nullable = true) : o.Shallow e' where
  noEof := h.noEof
  empty evs c' ho hc := hnull (h.empty evs c' ho hc)
  fed := h.fed
  descending := h.descending.mono hlead

/-- Finishing at once is shallow for an expression that may read nothing. -/
theorem Shallow.stay (c : Cursor) (he : e.nullable = true) : (Step.stay c).1.Shallow e :=
  Shallow.of_noEnter (by simp [Step.stay, events]) (by simp [Step.stay, events])
    fun _ _ _ _ => he

/-- **A sequence is shallow** when its first part is, and, where the first part finishes,
the rest after it. -/
theorem Shallow.seq {o₁ : Outcome} {es : List Ebnf} (h₁ : o₁.Shallow e)
    (hdone : ∀ evs c', o₁ = .done evs c' → ∃ o₂ : Outcome, o₂.Shallow (.seq es) ∧ o = o₂.after evs)
    (hhalt : ∀ evs fr cause, o₁ = .halted evs fr cause → o = o₁) :
    o.Shallow (.seq (e :: es)) := by
  cases o₁ with
  | halted evs fr cause =>
    rw [hhalt evs fr cause rfl]
    exact ⟨h₁.noEof, (fun _ _ h => by cases h), (fun _ _ h => by cases h),
      h₁.descending.mono Ebnf.lead_le_seq_cons⟩
  | done evs₁ c₁ =>
    obtain ⟨o₂, h₂, rfl⟩ := hdone evs₁ c₁ rfl
    have hfed₁ := h₁.fed evs₁ c₁ rfl
    refine ⟨?_, ?_, ?_, ?_⟩
    · intro t ht
      rw [events_after, accepted_append, List.mem_append] at ht
      exact ht.elim (h₁.noEof t) (h₂.noEof t)
    · intro evs c' ho hc
      obtain ⟨evs₂, rfl, rfl⟩ := after_eq_done ho
      rw [consumed_append] at hc
      rw [Ebnf.nullable_seq_cons, h₁.empty evs₁ c₁ rfl (by omega),
        h₂.empty evs₂ c' rfl (by omega)]
      rfl
    · intro evs c' ho
      obtain ⟨evs₂, rfl, rfl⟩ := after_eq_done ho
      exact hfed₁.append (h₂.fed evs₂ c' rfl)
    · -- the rest leads only after a first part that accepted no token
      rw [events_after]
      exact h₁.descending.append hfed₁ h₂.descending Ebnf.lead_le_seq_cons
        fun hc => Ebnf.lead_seq_le_of_nullable (h₁.empty evs₁ c₁ rfl hc)

/-- **A rule around a piece reading its body** is shallow. -/
theorem Shallow.inRule {r : Rule} (h : o.Shallow r.body) : (o.inRule r).Shallow (.rule r) := by
  -- a body that finished accepted a token: no rule reads nothing
  have hpos : ∀ evs c', o = .done evs c' → 0 < consumed evs := fun evs c' ho =>
    Nat.pos_of_ne_zero fun hc => by simpa [Rule.nullable_body] using h.empty evs c' ho hc
  refine ⟨?_, ?_, ?_, ?_⟩
  · intro t ht
    exact h.noEof t (by simpa using ht)
  · intro evs' c' hin hc
    obtain ⟨evs, ho, rfl⟩ := inRule_eq_done hin
    have := hpos evs c' ho
    simp at hc
    omega
  · intro evs' c' hin
    obtain ⟨evs, ho, rfl⟩ := inRule_eq_done hin
    exact (h.fed evs c' ho).inRule (hpos evs c' ho) r
  · rw [events_inRule]
    exact h.descending.inRule (by rw [Rule.lead_body r]; omega)

end Outcome

open Outcome

/-- **Every piece of the check stays shallow**: what it enters before a token descends in
lead from that of its expression. -/
theorem shallow_closed : Check.ExprClosed (fun e _ _ o => o.Shallow e) where
  take c h _ _ _ := by
    rcases Cursor.take_cases h with ⟨t, f, -, ht⟩ | ⟨x, f, -, ht⟩ <;> rw [ht] <;>
      refine Shallow.of_noEnter (by simp [events]) (by simpa [events] using h) ?_
    · intro _ _ ho hc
      cases ho
      simp [h] at hc
    · intro _ _ ho
      cases ho
  stay c _ := Shallow.stay c rfl
  reject c x _ _ _ _ _ _ :=
    Shallow.of_noEnter (by simp [Step.reject, events]) (by simp [Step.reject, events])
      fun _ _ ho => by cases ho
  seq _ _ _ _ _ _ _ _ _ h₁ hdone hhalt := Shallow.seq h₁ hdone hhalt
  last _ _ _ _ h := h.mono Ebnf.lead_seq_singleton.ge Ebnf.nullable_seq_singleton.trans
  inRule _ _ _ _ h := h.inRule
  choose _ _ _ _ _ he _ h := h.mono (Ebnf.lead_le_alt he) (Ebnf.nullable_alt he)
  optNone c _ _ _ := Shallow.stay c rfl
  optSome _ _ _ _ _ h := h.mono le_rfl fun _ => rfl
  more _ _ _ _ _ _ h := h.mono Ebnf.lead_more fun _ => rfl
  stop c _ _ _ _ _ := Shallow.stay c rfl
  shrink _ _ _ _ _ _ h := h

end ImpSyntax
