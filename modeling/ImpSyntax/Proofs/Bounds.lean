import Mathlib
import ImpSyntax.Proofs.Leads
import ImpSyntax.Proofs.Nesting
import ImpSyntax.Proofs.Acceptance
import ImpSyntax.Proofs.Tracing

/-!
# What a check costs

A check ends on every feed: its rules are total functions, each call made at a lighter
cursor or to a rule of lower rank. What it does is bounded by the tokens it accepts.
Between two tokens it enters at most three rules and none twice, so a rule is entered
again inside itself only after a token; before its first token it enters only the
statement part (`check_descending`, from `shallow_closed`). After accepting `n` tokens other
than the end of input it has entered at most `3 * n + 1` rules, and no more are open. The
end of input is accepted at most once, and outside every rule (`check_eof`), and a check
accepts at most one token more than its feed holds items (`check_terminals_le`).

Open rules do not stay within the number of tokens and a constant: a factor that starts
with a parenthesis enters an expression, which enters a term, which enters a factor, three
rules for one token (`expression_parens`). So nested parentheses open rules three times as
fast as they add tokens (`open_rules_outgrow_tokens`), and three per token is the bound.
-/

namespace ImpSyntax

open Event

/-! ## Counting entries -/

namespace Event

/-- **The rules events enter**: the calls of rules a check makes. -/
def entered (evs : List Event) : Nat := evs.countP isEnter

@[simp] theorem entered_nil : entered [] = 0 := rfl

@[simp] theorem entered_cons (e : Event) (evs : List Event) :
    entered (e :: evs) = entered evs + if e.isEnter then 1 else 0 :=
  List.countP_cons

@[simp] theorem entered_append (evs evs' : List Event) :
    entered (evs ++ evs') = entered evs + entered evs' :=
  List.countP_append

/-- **Only rules entered are open**: after events, at most the rules open before them and
the rules they entered. -/
theorem length_openAfter_le {stk stk' : List Rule} {evs : List Event}
    (h : openAfter stk evs = some stk') : stk'.length ≤ stk.length + entered evs := by
  induction evs generalizing stk with
  | nil =>
    cases h
    simp
  | cons ev evs ih =>
    cases ev with
    | enter r =>
      have := ih h
      simp only [List.length_cons] at this
      simp only [entered_cons, isEnter, if_true]
      omega
    | exit r =>
      cases stk with
      | nil => cases h
      | cons r' stk =>
        simp only [openAfter] at h
        split at h
        · have := ih h
          simp only [entered_cons, isEnter, List.length_cons]
          omega
        · cases h
    | accept t => simpa [isEnter] using ih h
    | reject t x => simpa [isEnter] using ih h
    | success => simpa [isEnter] using ih h

/-- Events that enter and leave no rule leave the open rules as they are. -/
theorem openAfter_of_noRule {evs : List Event} (h : ∀ r, .enter r ∉ evs ∧ .exit r ∉ evs)
    (stk : List Rule) : openAfter stk evs = some stk := by
  induction evs with
  | nil => rfl
  | cons ev evs ih =>
    have ih' := ih fun r => ⟨fun hr => (h r).1 (.tail _ hr), fun hr => (h r).2 (.tail _ hr)⟩
    cases ev with
    | enter r => exact absurd (.head _) (h r).1
    | exit r => exact absurd (.head _) (h r).2
    | accept t => exact ih'
    | reject t x => exact ih'
    | success => exact ih'

theorem openAfter_prefix {stk stk' : List Rule} {evs pre : List Event}
    (h : openAfter stk evs = some stk') (hp : pre <+: evs) : ∃ s, openAfter stk pre = some s := by
  obtain ⟨t, rfl⟩ := hp
  rw [openAfter_append] at h
  cases hpre : openAfter stk pre with
  | none => simp [hpre] at h
  | some s => exact ⟨s, rfl⟩

variable {m : Nat} {ev : Event} {evs pre : List Event}

theorem Descending.initial (h : Descending m evs) (hp : pre <+: evs) : Descending m pre := by
  obtain ⟨s, rfl⟩ := hp
  exact ⟨fun p r s' hs hp => h.starts p r (s' ++ s) (by rw [hs]; simp) hp,
    fun p r q r' s' hs hq => h.descends p r q r' (s' ++ s) (by rw [hs]; simp) hq⟩

/-- Any stretch of descending events descends from the greatest lead. -/
theorem Descending.stretch {p q s : List Event} (h : Descending m (p ++ q ++ s)) :
    Descending 3 q where
  starts _ r _ _ _ := r.lead_le_three
  descends p' r q' r' s' hs hq := h.descends (p ++ p') r q' r' (s' ++ s) (by rw [hs]; simp) hq

/-- Descending events after one that accepts no token still descend. -/
theorem Descending.tail (h : Descending m (ev :: evs)) (hev : consumed [ev] = 0) :
    Descending m evs where
  starts p r s hs hp := h.starts (ev :: p) r s (by rw [hs]; rfl)
    (by rw [show ev :: p = [ev] ++ p from rfl, consumed_append, hev, hp])
  descends p r q r' s hs hq := h.descends (ev :: p) r q r' s (by rw [hs]; rfl) hq

/-- **Entries of descending events**: at most `m` before the first token, and three after
each token. -/
theorem Descending.entered_le (h : Descending m evs) : entered evs ≤ m + 3 * consumed evs := by
  induction evs generalizing m with
  | nil => simp
  | cons ev evs ih =>
    have hdesc : ∀ p r q r' s, evs = p ++ .enter r :: (q ++ .enter r' :: s) → consumed q = 0 →
        r'.lead < r.lead :=
      fun p r q r' s hs hq => h.descends (ev :: p) r q r' s (by rw [hs]; rfl) hq
    cases ev with
    | enter r =>
      -- the rules entered next, before a token, lead less far than `r`
      have hr : r.lead ≤ m := h.starts [] r evs rfl rfl
      have hnext := ih (show Descending (r.lead - 1) evs from ⟨fun p r' s hs hp =>
        Nat.le_sub_one_of_lt (h.descends [] r p r' s (by rw [hs]; rfl) hp), hdesc⟩)
      have := r.one_le_lead
      simp only [entered_cons, isEnter, if_true, consumed_cons_enter]
      omega
    | accept t =>
      by_cases ht : t.symbol = .eof
      · simpa [isEnter, ht] using ih (h.tail (by simp [ht]))
      · -- after a token, the rules entered lead at most three far
        have := ih (show Descending 3 evs from ⟨fun _ r _ _ _ => r.lead_le_three, hdesc⟩)
        simp [isEnter, ht]
        omega
    | exit r => simpa [isEnter] using ih (h.tail rfl)
    | reject t x => simpa [isEnter] using ih (h.tail rfl)
    | success => simpa [isEnter] using ih (h.tail rfl)

end Event

/-! ## Tokens of a feed -/

namespace Feed

/-- Whether an answer of a feed is a token other than the end of input. -/
def givesToken : Except Fault Token → Bool
  | .ok t => t.symbol != .eof
  | .error _ => false

/-- **The answers of a feed** are its items, then its ending's answer again and again. -/
theorem pulls_eq_take (f : Feed) (n : Nat) :
    f.pulls n = (f.items ++ List.replicate n f.ending.answer).take n := by
  induction n generalizing f with
  | zero => simp
  | succ n ih =>
    obtain ⟨items, e⟩ := f
    rw [pulls_succ, ih]
    cases items with
    | nil => simp [pull, List.replicate_succ]
    | cons x rest =>
      -- the answer past `n` of the longer repetition is not among the first `n`
      have hlen : n ≤ (rest ++ List.replicate n e.answer).length := by simp
      simp only [pull, List.cons_append, List.take_succ_cons, List.replicate_succ',
        ← List.append_assoc, List.take_append_of_le_length hlen]

end Feed

/-! ## The bounds -/

/-- **The events of a check**: none, when the first pull fails; or those of a finished
statement part, shallow and balanced, then events that enter and leave no rule and accept
at most one token; or those of a stopped statement part, shallow. -/
theorem check_events_cases (f : Feed) :
    (check f).events = [] ∨
    (∃ evs c' tail, (Outcome.done evs c').Shallow (.rule .statementPart) ∧ Balanced evs ∧
      (check f).events = evs ++ tail ∧ (accepted tail).length ≤ 1 ∧
      ∀ r, .enter r ∉ tail ∧ .exit r ∉ tail) ∨
    ∃ evs fr cause, (Outcome.halted evs fr cause).Shallow (.rule .statementPart) ∧
      (check f).events = evs := by
  rcases check_cases f with ⟨e, -, hf⟩ | ⟨c, evs, c', -, hsp, hf⟩ |
    ⟨c, evs, fr, cause, -, hsp, hf⟩
  · exact .inl (by rw [hf])
  · have hs : (Check.statementPart c).1.Shallow (.rule .statementPart) :=
      shallow_closed.step .statementPart c
    have hfr : (Check.statementPart c).1.Framed := framed_closed.step .statementPart c
    rw [hsp] at hs hfr
    rw [hf]
    -- after the statement part: the end of input, then success or a fault; or a mismatch
    rcases finish_cases evs c' with ⟨-, t, f', -, hfin⟩ | ⟨-, e, f', -, hfin⟩ | ⟨-, hfin⟩ <;>
      rw [hfin] <;> exact .inr (.inl ⟨evs, c', _, hs, hfr.1, rfl, by simp, by simp⟩)
  · have hs : (Check.statementPart c).1.Shallow (.rule .statementPart) :=
      shallow_closed.step .statementPart c
    rw [hsp] at hs
    exact .inr (.inr ⟨evs, fr, cause, hs, by rw [hf]⟩)

/-- **A check descends between tokens from the statement part**. -/
theorem check_descending (f : Feed) : Descending 1 (check f).events := by
  rcases check_events_cases f with hevs | ⟨evs, c', tail, hs, -, hevs, -, hquiet⟩ |
    ⟨evs, fr, cause, hs, hevs⟩ <;> rw [hevs]
  · exact Descending.of_noEnter (by simp)
  · exact hs.descending.append (hs.fed evs c' rfl) (Descending.of_noEnter fun r => (hquiet r).1)
      le_rfl fun _ => Nat.zero_le 1
  · exact hs.descending

/-- A shallow piece accepts no end of input. -/
theorem Outcome.Shallow.countP_eof {e : Ebnf} {o : Outcome} (h : o.Shallow e) :
    (accepted o.events).countP (fun t => t.symbol = .eof) = 0 :=
  List.countP_eq_zero.2 fun t ht => by simpa using h.noEof t ht

/-- **The end of input is accepted at most once, and outside every rule.** -/
theorem check_eof (f : Feed) :
    (accepted (check f).events).countP (fun t => t.symbol = .eof) ≤ 1 ∧
      ∀ pre t post, (check f).events = pre ++ .accept t :: post → t.symbol = .eof →
        openAfter [] pre = some [] := by
  rcases check_events_cases f with hevs | ⟨evs, c', tail, hs, hbal, hevs, htail, hquiet⟩ |
    ⟨evs, fr, cause, hs, hevs⟩ <;> rw [hevs]
  · refine ⟨by simp, fun pre t post h _ => ?_⟩
    simp at h
  · refine ⟨?_, fun pre t post h ht => ?_⟩
    · have hnone : (accepted evs).countP (fun t => t.symbol = .eof) = 0 := hs.countP_eof
      rw [accepted_append, List.countP_append, hnone, Nat.zero_add]
      exact List.countP_le_length.trans htail
    · rcases append_cons_eq_append h.symm with ⟨s₁, rfl, -⟩ | ⟨p', rfl, hp'⟩
      · exact absurd ht (hs.noEof t (by simp [Outcome.events]))
      · -- the statement part is balanced, and what follows it enters no rule
        have hquiet' : ∀ r, .enter r ∉ p' ∧ .exit r ∉ p' := fun r =>
          ⟨fun hr => (hquiet r).1 (by simp [hp', hr]), fun hr => (hquiet r).2 (by simp [hp', hr])⟩
        rw [openAfter_append, hbal [], Option.bind_some]
        exact openAfter_of_noRule hquiet' []
  · refine ⟨hs.countP_eof.le.trans (Nat.zero_le 1), fun pre t post h ht => ?_⟩
    exact absurd ht (hs.noEof t (by simp [Outcome.events, h]))

/-- **A check accepts at most one token more than its feed holds items**: past the items
the feed gives the end of input, and nothing is accepted after it. -/
theorem check_terminals_le (f : Feed) : (check f).terminals.length ≤ f.items.length + 1 := by
  obtain ⟨next, hpulls, hviable, -⟩ := check_pulls f
  by_contra hlt
  rw [not_le] at hlt
  set ts := (check f).terminals
  set k := f.items.length
  -- the answer just past the items is the ending's, and it was accepted
  have hk : (f.pulls (ts.length + 1))[k]? = some (.ok ts[k]) := by
    rw [hpulls, List.getElem?_append_left (by simp; omega), List.getElem?_map,
      List.getElem?_eq_getElem (by omega)]
    rfl
  have hend : (f.pulls (ts.length + 1))[k]? = some f.ending.answer := by
    rw [Feed.pulls_eq_take, List.getElem?_take_of_lt (by omega),
      List.getElem?_append_right (le_refl _), Nat.sub_self, List.getElem?_replicate]
    simp
  have heof : ts[k].symbol = .eof := by
    rw [hk, Option.some.injEq] at hend
    cases he : f.ending with
    | eof l c =>
      rw [he, Ending.answer, Except.ok.injEq] at hend
      rw [hend]
    | fault x =>
      rw [he, Ending.answer] at hend
      cases hend
  -- so the end of input stands before the last accepted token
  refine Viable.eof_not_mem_dropLast hviable (List.mem_iff_getElem.2 ⟨k, ?_, ?_⟩)
  · simp
    omega
  · simp [heof]

/-- **A check accepts no more tokens than its feed holds**, the end of input left out. -/
theorem consumed_check_le (f : Feed) :
    consumed (check f).events ≤ f.items.countP Feed.givesToken := by
  obtain ⟨next, hpulls, -, -⟩ := check_pulls f
  rw [Feed.pulls_eq_take] at hpulls
  have hsub : List.Sublist ((check f).terminals.map Except.ok)
      (f.items ++ List.replicate ((check f).terminals.length + 1) f.ending.answer) :=
    (List.sublist_append_left _ [next]).trans (hpulls ▸ List.take_sublist _ _)
  calc consumed (check f).events
      = ((check f).terminals.map Except.ok).countP Feed.givesToken := by
        rw [consumed, ← Run.terminals_eq, List.countP_map]
        rfl
    _ ≤ (f.items ++ List.replicate _ f.ending.answer).countP Feed.givesToken :=
        hsub.countP_le
    _ = f.items.countP Feed.givesToken := by
        rw [List.countP_append, List.countP_replicate]
        cases f.ending <;> simp [Ending.answer, Feed.givesToken]

/-- **What a check costs.** It accepts the end of input at most once, and outside every
rule. Between two tokens it enters no rule twice, so every cycle through the rules accepts
a token, and at most three rules. After `n` tokens other than the end of input it has
entered at most `3 * n + 1` rules, and no more are open: at most three per token of its
feed and one. It accepts no more tokens than its feed holds, and at most one more token
than its feed holds items. -/
theorem check_costs (f : Feed) :
    ((accepted (check f).events).countP (fun t => t.symbol = .eof) ≤ 1 ∧
      ∀ pre t post, (check f).events = pre ++ .accept t :: post → t.symbol = .eof →
        openAfter [] pre = some []) ∧
    (∀ p r q s, (check f).events = p ++ .enter r :: (q ++ .enter r :: s) → 0 < consumed q) ∧
    (∀ p q s, (check f).events = p ++ q ++ s → consumed q = 0 → entered q ≤ 3) ∧
    (∀ pre, pre <+: (check f).events → ∃ stk, openAfter [] pre = some stk ∧
      stk.length ≤ entered pre ∧ entered pre ≤ 3 * consumed pre + 1) ∧
    (∀ pre stk, pre <+: (check f).events → openAfter [] pre = some stk →
      stk.length ≤ 3 * f.items.countP Feed.givesToken + 1) ∧
    consumed (check f).events ≤ f.items.countP Feed.givesToken ∧
    (check f).terminals.length ≤ f.items.length + 1 := by
  have hdesc := check_descending f
  have hnested : openAfter [] (check f).events = some [] := (check_nested f "" "").1
  -- open rules after a prefix: at most those entered, at most three per token and one
  have hopen : ∀ pre, pre <+: (check f).events → ∃ stk, openAfter [] pre = some stk ∧
      stk.length ≤ entered pre ∧ entered pre ≤ 3 * consumed pre + 1 := by
    intro pre hpre
    obtain ⟨stk, hstk⟩ := openAfter_prefix hnested hpre
    have := (hdesc.initial hpre).entered_le
    exact ⟨stk, hstk, by simpa using length_openAfter_le hstk, by omega⟩
  refine ⟨check_eof f, ?_, ?_, hopen, ?_, consumed_check_le f, check_terminals_le f⟩
  · intro p r q s hevs
    exact Nat.pos_of_ne_zero fun hq => lt_irrefl _ (hdesc.descends p r q r s hevs hq)
  · intro p q s hevs hq
    have := (hevs ▸ hdesc).stretch.entered_le
    omega
  · intro pre stk hpre hstk
    obtain ⟨stk', hstk', hlen, hent⟩ := hopen pre hpre
    obtain ⟨rest, hrest⟩ := hpre
    have hle : consumed pre ≤ consumed (check f).events := by
      rw [← hrest, consumed_append]
      omega
    have := consumed_check_le f
    rw [hstk] at hstk'
    cases hstk'
    omega

/-! ## Nesting that outgrows the tokens -/

namespace Outcome

/-- **A piece that stops with the rules `fr` open**, outermost first. -/
def HaltsIn (fr : List Rule) (o : Outcome) : Prop := ∃ evs cause, o = .halted evs fr cause

variable {fr : List Rule} {o : Outcome}

theorem HaltsIn.inRule (h : o.HaltsIn fr) (r : Rule) : (o.inRule r).HaltsIn (r :: fr) := by
  obtain ⟨evs, cause, rfl⟩ := h
  exact ⟨_, cause, rfl⟩

theorem HaltsIn.after (h : o.HaltsIn fr) (evs : List Event) : (o.after evs).HaltsIn fr := by
  obtain ⟨evs', cause, rfl⟩ := h
  exact ⟨_, cause, rfl⟩

end Outcome

open Outcome

variable {c : Cursor} {fr : List Rule} {t t' : Token} {f f' : Feed}

theorem Step.bind_haltsIn {s : Step c} {k : (c' : Cursor) → c'.weight ≤ c.weight → Step c'}
    (h : s.1.HaltsIn fr) : (s.bind k).1.HaltsIn fr := by
  obtain ⟨evs, cause, hs⟩ := h
  exact ⟨evs, cause, Step.bind_of_halted s k hs⟩

/-- Accepting the lookahead, when the pull after it gives a token, finishes there. -/
theorem Cursor.take_of_pull (hp : c.feed.pull = (.ok t, f)) (h : c.look.symbol ≠ .eof) :
    (c.take h).1 = .done [.accept c.look] ⟨t, f⟩ := by
  rcases Cursor.take_cases h with ⟨t₁, f₁, hp₁, ht⟩ | ⟨e, f₁, hp₁, -⟩ <;> rw [hp] at hp₁
  · cases hp₁
    exact ht
  · cases hp₁

namespace Check

theorem expression_haltsIn (h : (term c).1.HaltsIn fr) :
    (expression c).1.HaltsIn (.expression :: fr) := by
  rw [expression, Step.bracket_val]
  exact (Step.bind_haltsIn h).inRule _

theorem term_haltsIn (h : (factor c).1.HaltsIn fr) : (term c).1.HaltsIn (.term :: fr) := by
  rw [term, Step.bracket_val]
  exact (Step.bind_haltsIn h).inRule _

theorem factor_haltsIn_eof (hc : c.look.symbol = .eof) : (factor c).1.HaltsIn [.factor] := by
  rw [factor, Step.bracket_val]
  refine HaltsIn.inRule ?_ _
  split
  · rename_i h
    rw [hc] at h
    cases h
  · rename_i h
    rw [hc] at h
    cases h
  · rename_i h
    rw [hc] at h
    cases h
  · exact ⟨_, _, rfl⟩

/-- **A parenthesis opens three rules**: the factor, then the expression inside it, which
opens its first term and that term's first factor. -/
theorem factor_haltsIn_leftParen (hc : c.look.symbol = .leftParen) (hp : c.feed.pull = (.ok t, f))
    (h : (expression ⟨t, f⟩).1.HaltsIn fr) : (factor c).1.HaltsIn (.factor :: fr) := by
  rw [factor, Step.bracket_val]
  refine HaltsIn.inRule ?_ _
  split
  · rename_i h'
    rw [hc] at h'
    cases h'
  · rename_i h'
    rw [hc] at h'
    cases h'
  · rw [Move.andThen_of_done _ _ (Cursor.take_of_pull hp _)]
    exact (Step.bind_haltsIn h).after _
  · rename_i h₁ h₂ h₃
    exact absurd hc h₃

theorem assignment_haltsIn (hc : c.look.symbol = .ident) (hp : c.feed.pull = (.ok t, f))
    (ht : t.symbol = .becomes) (hp' : f.pull = (.ok t', f')) (ht' : t'.symbol ≠ .string)
    (h : (expression ⟨t', f'⟩).1.HaltsIn fr) : (assignment c).1.HaltsIn (.assignment :: fr) := by
  rw [assignment, Step.bracket_val]
  refine HaltsIn.inRule ?_ _
  rw [Move.andThen_of_done _ _ ((Cursor.expect_of_eq _ hc).trans (Cursor.take_of_pull hp _))]
  refine HaltsIn.after ?_ _
  rw [Move.andThen_of_done _ _ ((Cursor.expect_of_eq _ ht).trans (Cursor.take_of_pull hp' _))]
  refine HaltsIn.after ?_ _
  rw [if_neg ht']
  exact h

theorem statement_haltsIn (hc : c.look.symbol = .ident) (h : (assignment c).1.HaltsIn fr) :
    (statement c).1.HaltsIn (.statement :: fr) := by
  rw [statement, Step.bracket_val, hc]
  exact h.inRule _

theorem statementList_haltsIn (h : (statement c).1.HaltsIn fr) :
    (statementList c).1.HaltsIn (.statementList :: fr) := by
  rw [statementList, Step.bracket_val]
  exact (Step.bind_haltsIn h).inRule _

theorem statementPart_haltsIn (hc : c.look.symbol = .kwBegin) (hp : c.feed.pull = (.ok t, f))
    (h : (statementList ⟨t, f⟩).1.HaltsIn fr) :
    (statementPart c).1.HaltsIn (.statementPart :: fr) := by
  rw [statementPart, Step.bracket_val,
    Move.andThen_of_done _ _ ((Cursor.expect_of_eq _ hc).trans (Cursor.take_of_pull hp _))]
  exact ((Step.bind_haltsIn h).after _).inRule _

end Check

/-- An opening parenthesis. -/
def leftParenToken : Token := ⟨.leftParen, "(", 1, 1⟩

/-- **An expression on `k + 1` opening parentheses** stops at the end of input after them
with `3 * k + 6` rules open: three for each parenthesis, and the expression, term and factor
that meet the end. -/
theorem expression_parens (k : Nat) (l col : Int) :
    ∃ fr, (Check.expression
        ⟨leftParenToken, ⟨List.replicate k (.ok leftParenToken), .eof l col⟩⟩).1.HaltsIn fr ∧
      fr.length = 3 * k + 6 := by
  induction k with
  | zero =>
    exact ⟨_, Check.expression_haltsIn <| Check.term_haltsIn <|
      Check.factor_haltsIn_leftParen rfl rfl <| Check.expression_haltsIn <|
        Check.term_haltsIn <| Check.factor_haltsIn_eof rfl, rfl⟩
  | succ k ih =>
    obtain ⟨fr, hfr, hlen⟩ := ih
    refine ⟨_, Check.expression_haltsIn <| Check.term_haltsIn <|
      Check.factor_haltsIn_leftParen rfl rfl hfr, ?_⟩
    simp only [List.length_cons, hlen]
    omega

/-- **A program cut off after `m + 1` opening parentheses**: `begin x := ((…(`. -/
def openParens (m : Nat) : List (Except Fault Token) :=
  [.ok ⟨.kwBegin, "begin", 1, 1⟩, .ok ⟨.ident, "x", 1, 1⟩, .ok ⟨.becomes, ":=", 1, 1⟩] ++
    List.replicate (m + 1) (.ok leftParenToken)

theorem countP_openParens (m : Nat) : (openParens m).countP Feed.givesToken = m + 4 := by
  simp [openParens, Feed.givesToken, leftParenToken, List.countP_cons, List.countP_replicate]

/-- The check of `begin x := ((…(` with `m + 1` parentheses stops with `3 * m + 10` rules
open. -/
theorem check_openParens (m : Nat) :
    ∃ h : Halt, (check (Feed.ofItems (openParens m))).halt = some h ∧
      h.frames.length = 3 * m + 10 := by
  obtain ⟨fr, hfr, hlen⟩ := expression_parens m (Feed.lastLine (openParens m)) 1
  -- the first cursor stands on begin, and the statement part stops in the expression
  have hstart : Cursor.start (Feed.ofItems (openParens m)) = .ok ⟨⟨.kwBegin, "begin", 1, 1⟩,
      ⟨(openParens m).tail, .eof (Feed.lastLine (openParens m)) 1⟩⟩ := rfl
  have hsp : (Check.statementPart ⟨⟨.kwBegin, "begin", 1, 1⟩,
      ⟨(openParens m).tail, .eof (Feed.lastLine (openParens m)) 1⟩⟩).1.HaltsIn
      (.statementPart :: .statementList :: .statement :: .assignment :: fr) :=
    Check.statementPart_haltsIn rfl rfl <| Check.statementList_haltsIn <|
      Check.statement_haltsIn rfl <| Check.assignment_haltsIn rfl rfl rfl rfl (by decide) hfr
  obtain ⟨evs', cause', h'⟩ := hsp
  rcases check_cases (Feed.ofItems (openParens m)) with ⟨e, hs, -⟩ | ⟨c, evs, c', hs, hdone, -⟩ |
    ⟨c, evs, fr', cause, hs, hhalt, hf⟩ <;> rw [hstart] at hs <;> cases hs
  · rw [h'] at hdone
    cases hdone
  · rw [h'] at hhalt
    cases hhalt
    refine ⟨_, by rw [hf], ?_⟩
    simp only [List.length_cons, hlen]

/-- **Open rules outgrow tokens**: no constant bounds the rules open at some point of a
check by the tokens of its feed and the constant. Nested parentheses open three rules per
token. -/
theorem open_rules_outgrow_tokens :
    ¬ ∃ C, ∀ items : List (Except Fault Token), ∀ pre, pre <+: (check (Feed.ofItems items)).events →
      ∀ stk, openAfter [] pre = some stk → stk.length ≤ items.countP Feed.givesToken + C := by
  rintro ⟨C, hC⟩
  obtain ⟨h, hh, hlen⟩ := check_openParens C
  obtain ⟨pre, hevs, hpre, -⟩ := check_framed hh
  have hbound := hC (openParens C) pre ⟨_, hevs.symm⟩ _ hpre
  rw [List.length_reverse, hlen, countP_openParens] at hbound
  omega

end ImpSyntax
