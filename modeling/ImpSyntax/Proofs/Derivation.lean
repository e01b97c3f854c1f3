import Mathlib
import ImpSyntax.Proofs.Grammar
import ImpSyntax.Proofs.Reading

/-!
# Derivation trees

A derivation tree has a token at each leaf and a rule at each inner node. The children of a
node are what the body of its rule derives, flattened (`Derives`): the parts of a sequence
one after another, the choice taken, the optional part when it is there, and every item of
a repetition. A rule that is a list (a statement list, an argument list, an expression, a
term) is therefore one node, whose children are its items and the separators between them,
in order.

A tree is written as events (`ParseTree.events`): entering its rule, the events of its
children, leaving its rule; a leaf is the acceptance of its token. These are events a
recorder keeps, and the tokens they accept are the leaves. The leaves of a derived forest
spell a word of the expression (`Derives.generates`), and the events of a forest determine
it (`forestEvents_inj`): entering and leaving are brackets around each node.
-/

namespace ImpSyntax

/-- **A derivation tree**: a token, or a rule with the trees its body derives. -/
inductive ParseTree where
  | leaf (t : Token)
  | node (r : Rule) (children : List ParseTree)
  deriving Inhabited

namespace ParseTree

mutual
/-- **The events of a tree**: accepting the token of a leaf; entering the rule of a node,
the events of its children, and leaving the rule. -/
def events : ParseTree → List Event
  | leaf t => [.accept t]
  | node r cs => .enter r :: forestEvents cs ++ [.exit r]

/-- The events of trees, one tree after another. -/
def forestEvents : List ParseTree → List Event
  | [] => []
  | t :: ts => t.events ++ forestEvents ts
end

mutual
/-- **The leaves of a tree**, left to right. -/
def leaves : ParseTree → List Token
  | leaf t => [t]
  | node _ cs => forestLeaves cs

/-- The leaves of trees, one tree after another. -/
def forestLeaves : List ParseTree → List Token
  | [] => []
  | t :: ts => t.leaves ++ forestLeaves ts
end

@[simp] theorem events_leaf (t : Token) : (leaf t).events = [.accept t] := by
  rw [events]

@[simp] theorem events_node (r : Rule) (cs : List ParseTree) :
    (node r cs).events = .enter r :: forestEvents cs ++ [.exit r] := by
  rw [events]

@[simp] theorem forestEvents_nil : forestEvents [] = [] := by
  rw [forestEvents]

@[simp] theorem forestEvents_cons (t : ParseTree) (ts : List ParseTree) :
    forestEvents (t :: ts) = t.events ++ forestEvents ts := by
  rw [forestEvents]

@[simp] theorem forestEvents_append (ts ts' : List ParseTree) :
    forestEvents (ts ++ ts') = forestEvents ts ++ forestEvents ts' := by
  induction ts with
  | nil => simp
  | cons t ts ih => simp [ih]

@[simp] theorem forestEvents_singleton (t : ParseTree) : forestEvents [t] = t.events := by
  simp

@[simp] theorem leaves_leaf (t : Token) : (leaf t).leaves = [t] := by
  rw [leaves]

@[simp] theorem leaves_node (r : Rule) (cs : List ParseTree) :
    (node r cs).leaves = forestLeaves cs := by
  rw [leaves]

@[simp] theorem forestLeaves_nil : forestLeaves [] = [] := by
  rw [forestLeaves]

@[simp] theorem forestLeaves_cons (t : ParseTree) (ts : List ParseTree) :
    forestLeaves (t :: ts) = t.leaves ++ forestLeaves ts := by
  rw [forestLeaves]

@[simp] theorem forestLeaves_append (ts ts' : List ParseTree) :
    forestLeaves (ts ++ ts') = forestLeaves ts ++ forestLeaves ts' := by
  induction ts with
  | nil => simp
  | cons t ts ih => simp [ih]

/-! ## What the events say -/

mutual
/-- **A recorder keeps every event of a tree.** -/
theorem events_recorded : ∀ t : ParseTree, t.events.filter Event.isRecorded = t.events
  | leaf _ => rfl
  | node r cs => by
    rw [events_node, List.filter_append, List.filter_cons_of_pos rfl, forestEvents_recorded cs]
    rfl

theorem forestEvents_recorded :
    ∀ ts : List ParseTree, (forestEvents ts).filter Event.isRecorded = forestEvents ts
  | [] => rfl
  | t :: ts => by simp [events_recorded t, forestEvents_recorded ts]
end

mutual
/-- **The tokens the events of a tree accept are its leaves.** -/
theorem accepted_events : ∀ t : ParseTree, accepted t.events = t.leaves
  | leaf _ => rfl
  | node r cs => by simp [accepted_forestEvents cs]

theorem accepted_forestEvents : ∀ ts : List ParseTree, accepted (forestEvents ts) = forestLeaves ts
  | [] => rfl
  | t :: ts => by simp [accepted_events t, accepted_forestEvents ts]
end

/-- **What may follow the events of a forest inside a larger run**: nothing, or the exit
from the rule around it. -/
def Closing (rest : List Event) : Prop := ∀ ev ∈ rest.head?, ∃ r, ev = .exit r

theorem closing_nil : Closing [] := by
  simp [Closing]

theorem closing_exit (r : Rule) (rest : List Event) : Closing (.exit r :: rest) := by
  simp [Closing]

/-- The events of a tree start by entering or accepting, never by leaving. -/
theorem not_closing_events_append (t : ParseTree) (rest : List Event) :
    ¬ Closing (t.events ++ rest) := by
  cases t <;> simp [Closing]

mutual
/-- **The events of a forest, then a closing rest, determine the forest and the rest**: the
first event tells a leaf from a node, and a node's exit is the first closing event after its
children. -/
theorem forestEvents_append_inj : ∀ (ts ts' : List ParseTree) {rest rest' : List Event},
    Closing rest → Closing rest' → forestEvents ts ++ rest = forestEvents ts' ++ rest' →
    ts = ts' ∧ rest = rest'
  | [], [], _, _, _, _, h => ⟨rfl, by simpa using h⟩
  | [], t' :: ts', _, _, hc, _, h => by
    simp only [forestEvents_nil, forestEvents_cons, List.nil_append, List.append_assoc] at h
    exact absurd (h ▸ hc) (not_closing_events_append t' _)
  | t :: ts, [], _, _, _, hc', h => by
    simp only [forestEvents_nil, forestEvents_cons, List.nil_append, List.append_assoc] at h
    exact absurd (h ▸ hc') (not_closing_events_append t _)
  | t :: ts, t' :: ts', _, _, hc, hc', h => by
    simp only [forestEvents_cons, List.append_assoc] at h
    obtain ⟨rfl, hrest⟩ := events_append_inj t t' h
    obtain ⟨rfl, rfl⟩ := forestEvents_append_inj ts ts' hc hc' hrest
    exact ⟨rfl, rfl⟩

/-- The events of a tree, then any events, determine the tree and what follows it. -/
theorem events_append_inj : ∀ (t t' : ParseTree) {rest rest' : List Event},
    t.events ++ rest = t'.events ++ rest' → t = t' ∧ rest = rest'
  | leaf a, leaf a', _, _, h => by
    simp only [events_leaf, List.singleton_append, List.cons.injEq, Event.accept.injEq] at h
    exact ⟨h.1 ▸ rfl, h.2⟩
  | leaf _, node _ _, _, _, h => by simp at h
  | node _ _, leaf _, _, _, h => by simp at h
  | node r cs, node r' cs', _, _, h => by
    simp only [events_node, List.cons_append, List.nil_append, List.append_assoc,
      List.cons.injEq, Event.enter.injEq] at h
    obtain ⟨rfl, hchildren⟩ := h
    -- the children's events end where the first closing event comes
    obtain ⟨rfl, hrest⟩ :=
      forestEvents_append_inj cs cs' (closing_exit _ _) (closing_exit _ _) hchildren
    exact ⟨rfl, (List.cons.inj hrest).2⟩
end

/-- **The events of a forest determine it.** -/
theorem forestEvents_inj {ts ts' : List ParseTree} (h : forestEvents ts = forestEvents ts') :
    ts = ts' :=
  (forestEvents_append_inj ts ts' closing_nil closing_nil (by simpa using h)).1

end ParseTree

open ParseTree

/-- **What an expression derives**: a forest of trees, each rule standing for a node whose
children its body derives. -/
inductive Derives : Ebnf → List ParseTree → Prop where
  | sym {s : Symbol} {t : Token} : t.symbol = s → Derives (.sym s) [.leaf t]
  | rule {r : Rule} {cs : List ParseTree} : Derives r.body cs → Derives (.rule r) [.node r cs]
  | seqNil : Derives (.seq []) []
  | seqCons {e : Ebnf} {es : List Ebnf} {ts ts' : List ParseTree} :
      Derives e ts → Derives (.seq es) ts' → Derives (.seq (e :: es)) (ts ++ ts')
  | alt {e : Ebnf} {es : List Ebnf} {ts : List ParseTree} :
      e ∈ es → Derives e ts → Derives (.alt es) ts
  | optNone {e : Ebnf} : Derives (.opt e) []
  | optSome {e : Ebnf} {ts : List ParseTree} : Derives e ts → Derives (.opt e) ts
  | manyNil {e : Ebnf} : Derives (.many e) []
  | manyCons {e : Ebnf} {ts ts' : List ParseTree} :
      Derives e ts → Derives (.many e) ts' → Derives (.many e) (ts ++ ts')

namespace Derives

variable {e : Ebnf} {es : List Ebnf} {ts : List ParseTree}

/-! Each kind of expression derives in one way; these open a derivation. -/

theorem sym_iff {s : Symbol} : Derives (.sym s) ts ↔ ∃ t, ts = [.leaf t] ∧ t.symbol = s := by
  constructor
  · rintro ⟨⟩
    exact ⟨_, rfl, by assumption⟩
  · rintro ⟨t, rfl, ht⟩
    exact .sym ht

theorem rule_iff {r : Rule} : Derives (.rule r) ts ↔ ∃ cs, ts = [.node r cs] ∧ Derives r.body cs := by
  constructor
  · rintro ⟨⟩
    exact ⟨_, rfl, by assumption⟩
  · rintro ⟨cs, rfl, h⟩
    exact .rule h

theorem seq_nil_iff : Derives (.seq []) ts ↔ ts = [] := by
  constructor
  · rintro ⟨⟩
    rfl
  · rintro rfl
    exact .seqNil

theorem seq_cons_iff :
    Derives (.seq (e :: es)) ts ↔
      ∃ ts₁ ts₂, ts = ts₁ ++ ts₂ ∧ Derives e ts₁ ∧ Derives (.seq es) ts₂ := by
  constructor
  · rintro ⟨⟩
    exact ⟨_, _, rfl, by assumption, by assumption⟩
  · rintro ⟨ts₁, ts₂, rfl, h₁, h₂⟩
    exact .seqCons h₁ h₂

theorem alt_iff : Derives (.alt es) ts ↔ ∃ e ∈ es, Derives e ts := by
  constructor
  · rintro ⟨⟩
    exact ⟨_, by assumption, by assumption⟩
  · rintro ⟨e, he, h⟩
    exact .alt he h

theorem opt_iff : Derives (.opt e) ts ↔ ts = [] ∨ Derives e ts := by
  constructor
  · intro h
    cases h with
    | optNone => exact .inl rfl
    | optSome h => exact .inr h
  · rintro (rfl | h)
    · exact .optNone
    · exact .optSome h

theorem many_iff :
    Derives (.many e) ts ↔
      ts = [] ∨ ∃ ts₁ ts₂, ts = ts₁ ++ ts₂ ∧ Derives e ts₁ ∧ Derives (.many e) ts₂ := by
  constructor
  · intro h
    cases h with
    | manyNil => exact .inl rfl
    | manyCons h₁ h₂ => exact .inr ⟨_, _, rfl, h₁, h₂⟩
  · rintro (rfl | ⟨ts₁, ts₂, rfl, h₁, h₂⟩)
    · exact .manyNil
    · exact .manyCons h₁ h₂

/-- A sequence of one part derives what the part derives. -/
theorem seq_singleton_iff : Derives (.seq [e]) ts ↔ Derives e ts := by
  simp [seq_cons_iff, seq_nil_iff]

/-- **A repetition of pairs derives nothing, or a first pair and then the repetition**, as
one sequence of three parts. -/
theorem many_pair_iff {e₁ e₂ : Ebnf} :
    Derives (.many (.seq [e₁, e₂])) ts ↔
      ts = [] ∨ Derives (.seq [e₁, e₂, .many (.seq [e₁, e₂])]) ts := by
  rw [many_iff]
  refine or_congr_right ⟨?_, ?_⟩
  · rintro ⟨ts₁₂, ts₃, rfl, h₁₂, h₃⟩
    obtain ⟨ts₁, ts₂, rfl, h₁, h₂⟩ := seq_cons_iff.1 h₁₂
    rw [seq_singleton_iff] at h₂
    simpa using Derives.seqCons h₁ (.seqCons h₂ (.seqCons h₃ .seqNil))
  · intro h
    obtain ⟨ts₁, ts₂₃, rfl, h₁, h₂₃⟩ := seq_cons_iff.1 h
    obtain ⟨ts₂, ts₃, rfl, h₂, h₃⟩ := seq_cons_iff.1 h₂₃
    rw [seq_singleton_iff] at h₃
    exact ⟨ts₁ ++ ts₂, ts₃, by simp, by simpa using Derives.seqCons h₁ (.seqCons h₂ .seqNil), h₃⟩

/-- **The leaves of a derived forest spell a word of the expression.** -/
theorem generates (h : Derives e ts) : Generates e ((forestLeaves ts).map Token.symbol) := by
  induction h with
  | sym ht => simpa [ht] using Generates.sym _
  | rule _ ih => simpa using Generates.rule ih
  | seqNil => exact .seqNil
  | seqCons _ _ ih₁ ih₂ => simpa using Generates.seqCons ih₁ ih₂
  | alt he _ ih => exact .alt he ih
  | optNone => exact .optNone
  | optSome _ ih => exact .optSome ih
  | manyNil => exact .manyNil
  | manyCons _ _ ih₁ ih₂ => simpa using Generates.manyCons ih₁ ih₂

theorem mem_lang (h : Derives e ts) : (forestLeaves ts).map Token.symbol ∈ e.lang :=
  h.generates

end Derives

end ImpSyntax
