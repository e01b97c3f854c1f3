import Mathlib
import ImpSyntax.Proofs.Derivation
import ImpSyntax.Proofs.Acceptance

/-!
# The derivation a check records

A check that accepts its input records the derivation tree of the tokens before the end of
input, from the statement part, and then the acceptance of the end of input; the tree is
the only one of those tokens (`check_records_derivation`).

Two rule inductions give it. A piece that finishes reported the events of a forest that its
expression derives (`derived_closed`). A piece started at a cursor that reads the leaves of
a forest its expression derives, followed by a symbol that may come after it, finishes
there with the events of that forest (`completes_closed`): the lookahead chooses as the
forest does. The second makes the tree unique, since the events of a forest determine it.
-/

namespace ImpSyntax

open Cursor ParseTree

/-! ## Readings and the lookahead -/

theorem Cursor.Reads.eq_of_nil {c d : Cursor} (h : Reads c [] d) : d = c := by
  cases h
  rfl

/-- **A reading, followed by the lookahead it reaches, starts with the lookahead it starts
from.** -/
theorem Cursor.Reads.headD_symbol {c d : Cursor} {ws : List Token} (h : Reads c ws d) :
    (ws.map Token.symbol).headD d.look.symbol = c.look.symbol := by
  obtain ⟨R, hR⟩ := h.symbols_head
  cases ws with
  | nil =>
    simp only [List.nil_append, List.map_cons, List.map_nil, List.cons.injEq] at hR
    simpa using hR.1
  | cons w ws =>
    simp only [List.cons_append, List.map_cons, List.cons.injEq] at hR
    simpa using hR.1

namespace Derives

variable {e : Ebnf} {ts : List ParseTree} {S : List Symbol} {c d : Cursor}

/-- **The lookahead at a derived forest can start it**: a reading of its leaves followed by
a symbol of `S` starts with the lookahead. -/
theorem not_avoids (h : Derives e ts) (hr : Reads c (forestLeaves ts) d)
    (hd : d.look.symbol ∈ S) : ¬ Avoids e.lang S c.look.symbol :=
  fun havoid => havoid _ h.mem_lang _ hd hr.headD_symbol

end Derives

/-! ## The events of a finished piece are a derivation -/

namespace Outcome

/-- **A derivation was reported**: a finished piece reported the events of a forest that
`e` derives. -/
def Derived (e : Ebnf) : Outcome → Prop
  | .done evs _ => ∃ ts, Derives e ts ∧ evs = forestEvents ts
  | .halted .. => True

/-- A derivation of one expression is one of another that derives more. -/
theorem Derived.mono {e e' : Ebnf} {o : Outcome} (h : o.Derived e)
    (himp : ∀ ts, Derives e ts → Derives e' ts) : o.Derived e' := by
  cases o with
  | done evs d =>
    obtain ⟨ts, hd, rfl⟩ := h
    exact ⟨ts, himp ts hd, rfl⟩
  | halted => trivial

end Outcome

open Outcome

/-- **Every piece reports a derivation of its expression** when it finishes. -/
theorem derived_closed : Check.ExprClosed (fun e _ _ o => o.Derived e) where
  take c h s S hs := by
    rcases Cursor.take_cases h with ⟨t, f, -, ht⟩ | ⟨x, f, -, hx⟩
    · rw [ht]
      exact ⟨[.leaf c.look], .sym hs, by simp⟩
    · rw [hx]
      trivial
  stay c S := ⟨[], .seqNil, rfl⟩
  reject c x e S _ _ _ _ := trivial
  seq c o₁ o e es S S₁ _ _ h₁ hdone hhalt := by
    cases o₁ with
    | done evs c' =>
      obtain ⟨ts₁, hd₁, rfl⟩ := h₁
      obtain ⟨o₂, h₂, rfl⟩ := hdone _ c' rfl
      cases o₂ with
      | done evs₂ d =>
        obtain ⟨ts₂, hd₂, rfl⟩ := h₂
        exact ⟨ts₁ ++ ts₂, .seqCons hd₁ hd₂, by simp⟩
      | halted => trivial
    | halted evs fr cause =>
      rw [hhalt evs fr cause rfl]
      trivial
  last c o e S h := h.mono fun _ hd => Derives.seq_singleton_iff.2 hd
  inRule r c o S h := by
    cases o with
    | done evs d =>
      obtain ⟨ts, hd, rfl⟩ := h
      exact ⟨[.node r ts], .rule hd, by simp⟩
    | halted => trivial
  choose c o e es S he _ h := h.mono fun _ hd => .alt he hd
  optNone c e S _ := ⟨[], .optNone, rfl⟩
  optSome c o e S _ h := h.mono fun _ hd => .optSome hd
  more c o e₁ e₂ S _ h := h.mono fun _ hd => Derives.many_pair_iff.2 (.inr hd)
  stop c e X S _ _ := ⟨[], .manyNil, rfl⟩
  shrink c o e S S' _ h := h

/-! ## A piece reads every derivation before what may follow -/

/-- **A piece completes every derivation**: started at `c`, meant to read a word of `e`
before a symbol of `S`, it finishes with the events of any forest that `e` derives whose
leaves `c` reads, followed by a symbol of `S`, at the cursor after them. -/
def Outcome.Completes (e : Ebnf) (S : List Symbol) (c : Cursor) (o : Outcome) : Prop :=
  ∀ ts d, Derives e ts → Reads c (forestLeaves ts) d → d.look.symbol ∈ S →
    o = .done (forestEvents ts) d

/-- **Every piece completes every derivation**: where the grammar allows a forest, the
lookahead chose it. -/
theorem completes_closed : Check.ExprClosed Outcome.Completes where
  take c h s S hs := by
    intro ts d hd hr _
    obtain ⟨t, rfl, -⟩ := Derives.sym_iff.1 hd
    obtain ⟨rfl, hp⟩ := Cursor.Reads.of_singleton (by simpa using hr)
    rcases Cursor.take_cases h with ⟨t', f, hp', ht⟩ | ⟨x, f, hp', -⟩
    · rw [hp] at hp'
      simp only [Prod.mk.injEq, Except.ok.injEq] at hp'
      obtain ⟨hlook, hfeed⟩ := hp'
      rw [ht, ← hlook, ← hfeed]
      simp
    · rw [hp] at hp'
      simp at hp'
  stay c S := by
    intro ts d hd hr _
    obtain rfl := Derives.seq_nil_iff.1 hd
    obtain rfl := Cursor.Reads.eq_of_nil hr
    rfl
  reject c x e S _ _ havoid _ := by
    intro ts d hd hr hS
    exact absurd havoid (hd.not_avoids hr hS)
  seq c o₁ o e es S S₁ _ hlead h₁ hdone _ := by
    intro ts d hd hr hS
    obtain ⟨ts₁, ts₂, rfl, hd₁, hd₂⟩ := Derives.seq_cons_iff.1 hd
    rw [forestLeaves_append] at hr
    obtain ⟨d₁, hr₁, hr₂⟩ := hr.split
    -- the rest starts with a symbol the first part may be followed by
    have hS₁ : d₁.look.symbol ∈ S₁ := by
      rw [← hr₂.headD_symbol]
      exact hlead _ hd₂.mem_lang _ hS
    obtain ⟨o₂, h₂, rfl⟩ := hdone _ d₁ (h₁ ts₁ d₁ hd₁ hr₁ hS₁)
    rw [h₂ ts₂ d hd₂ hr₂ hS]
    simp [Outcome.after]
  last c o e S h := by
    intro ts d hd hr hS
    exact h ts d (Derives.seq_singleton_iff.1 hd) hr hS
  inRule r c o S h := by
    intro ts d hd hr hS
    obtain ⟨cs, rfl, hcs⟩ := Derives.rule_iff.1 hd
    rw [h cs d hcs (by simpa using hr) hS]
    simp [Outcome.inRule]
  choose c o e es S _ hothers h := by
    intro ts d hd hr hS
    obtain ⟨e', he', hd'⟩ := Derives.alt_iff.1 hd
    -- a forest of another choice would start with a symbol the lookahead is not
    by_cases hne : e' = e
    · exact h ts d (hne ▸ hd') hr hS
    · exact absurd (hothers e' he' hne) (hd'.not_avoids hr hS)
  optNone c e S havoid := by
    intro ts d hd hr hS
    rcases Derives.opt_iff.1 hd with rfl | hd'
    · obtain rfl := Cursor.Reads.eq_of_nil hr
      rfl
    · exact absurd havoid (hd'.not_avoids hr hS)
  optSome c o e S hx h := by
    intro ts d hd hr hS
    rcases Derives.opt_iff.1 hd with rfl | hd'
    · obtain rfl := Cursor.Reads.eq_of_nil hr
      exact absurd hS hx
    · exact h ts d hd' hr hS
  more c o e₁ e₂ S hx h := by
    intro ts d hd hr hS
    rcases Derives.many_pair_iff.1 hd with rfl | hd'
    · obtain rfl := Cursor.Reads.eq_of_nil hr
      exact absurd hS hx
    · exact h ts d hd' hr hS
  stop c e X S hstart hx := by
    intro ts d hd hr hS
    rcases Derives.many_iff.1 hd with rfl | ⟨ts₁, ts₂, rfl, hd₁, -⟩
    · obtain rfl := Cursor.Reads.eq_of_nil hr
      rfl
    · -- an item starts with a symbol of `X`, and the lookahead is none of them
      rw [forestLeaves_append] at hr
      obtain ⟨d₁, hr₁, -⟩ := hr.split
      exact absurd (hstart.avoids hx) (hd₁.not_avoids hr₁ (List.mem_singleton_self _))
  shrink c o e S S' hS h := by
    intro ts d hd hr hd'
    exact h ts d hd hr (hS hd')

/-! ## The derivation of an accepted program -/

/-- **How a check accepts**: the statement part finished at the end of input, which was
accepted with one more pull. -/
theorem check_of_succeeds {f : Feed} (h : (check f).halt = none) :
    ∃ c evs c', (Check.statementPart c).1 = .done evs c' ∧ c'.look.symbol = .eof ∧
      check f = ⟨evs ++ [.accept c'.look, .success], none⟩ := by
  rcases check_cases f with ⟨x, -, hcheck⟩ | ⟨c, evs, c', -, hsp, hcheck⟩ |
    ⟨c, evs, fr, cause, -, -, hcheck⟩
  · simp [hcheck] at h
  · rcases finish_cases evs c' with ⟨heof, _, _, _, hfin⟩ | ⟨_, _, _, _, hfin⟩ | ⟨_, hfin⟩
    · exact ⟨c, evs, c', hsp, heof, hcheck.trans hfin⟩
    · simp [hcheck, hfin] at h
    · simp [hcheck, hfin] at h
  · simp [hcheck] at h

/-- **An accepting check records the derivation of what it accepted**: the tokens it
accepted are the leaves of a derivation tree from the statement part, then the end of
input; it records the events of the tree, then the acceptance of the end of input; and no
other tree from the statement part has those leaves. -/
theorem check_records_derivation (f : Feed) (h : (check f).halt = none) :
    ∃ (T : ParseTree) (e : Token), Derives (.rule .statementPart) [T] ∧ e.symbol = .eof ∧
      (check f).terminals = T.leaves ++ [e] ∧ (check f).recorded = T.events ++ [.accept e] ∧
      ∀ T', Derives (.rule .statementPart) [T'] → T'.leaves = T.leaves → T' = T := by
  obtain ⟨c, evs, c', hsp, heof, hcheck⟩ := check_of_succeeds h
  -- the statement part finished with the events of a derivation, reading its leaves
  obtain ⟨ts, hts, hevs⟩ : (Outcome.done evs c').Derived (.rule .statementPart) :=
    hsp ▸ derived_closed.step .statementPart c
  obtain ⟨cs, rfl, hcs⟩ := Derives.rule_iff.1 hts
  have hread : Reads c (node .statementPart cs).leaves c' := by
    have hsound := (statementPart_decides c).1
    rw [hsp] at hsound
    simpa [hevs, accepted_forestEvents] using hsound.1
  refine ⟨node .statementPart cs, c'.look, .rule hcs, heof, ?_, ?_, ?_⟩
  · rw [hcheck, Run.terminals_eq]
    simp [hevs, accepted_forestEvents]
  · rw [hcheck]
    simp only [Run.recorded]
    rw [hevs, List.filter_append, forestEvents_recorded, forestEvents_singleton]
    rfl
  · -- another tree with those leaves would have been read the same way
    intro T' hT' hleaves
    have hdone := completes_closed.step .statementPart c [T'] c' hT'
      (by simpa [hleaves] using hread) (by simp [heof, Rule.follow])
    have hsame : forestEvents [T'] = forestEvents [node .statementPart cs] := by
      rw [← hevs]
      exact (Outcome.done.inj (hsp ▸ hdone)).1.symm
    exact List.head_eq_of_cons_eq (forestEvents_inj hsame)

/-- The tokens of the program `begin x := y end`, on its first line. -/
def assignmentProgram : List Token :=
  [⟨.kwBegin, "begin", 1, 1⟩, ⟨.ident, "x", 1, 7⟩, ⟨.becomes, ":=", 1, 9⟩,
    ⟨.ident, "y", 1, 12⟩, ⟨.kwEnd, "end", 1, 14⟩]

theorem check_assignmentProgram_succeeds :
    (check (Feed.ofItems (assignmentProgram.map .ok))).halt = none :=
  (check_succeeds_iff_pulls _).2 ⟨assignmentProgram ++ [⟨.eof, "", 1, 1⟩], ⟨.eof, "", 1, 1⟩,
    mem_sentences.2 ⟨_, Rule.mem_statementPart, rfl⟩, rfl⟩

theorem assignmentProgram_records_derivation :
    (check (Feed.ofItems (assignmentProgram.map .ok))).halt = none ∧
    ∃ (T : ParseTree) (e : Token), Derives (.rule .statementPart) [T] ∧ e.symbol = .eof ∧
      (check (Feed.ofItems (assignmentProgram.map .ok))).terminals = T.leaves ++ [e] ∧
      (check (Feed.ofItems (assignmentProgram.map .ok))).recorded = T.events ++ [.accept e] ∧
      ∀ T', Derives (.rule .statementPart) [T'] → T'.leaves = T.leaves → T' = T :=
  ⟨check_assignmentProgram_succeeds,
    check_records_derivation _ check_assignmentProgram_succeeds⟩

end ImpSyntax
