import Mathlib
import ImpSyntax.Proofs.Acceptance

/-!
# What a mismatch expects is a way on

A check that stops at a mismatch says what it expected there: one symbol, or one of the
few that start a statement, a comparison's operator, its right operand or a factor. None
of them misleads: after the tokens the check accepted, every symbol it names can come next
in some sentence (`check_mismatch_expected_viable`). The token it found instead can not
(`check_terminals_earliest`), so the message names ways on, and only ways on.

Each place of the checker where a mismatch can happen names symbols that start the words
that place is meant to read (`Expected.Starts`, a hypothesis the rule induction carries to
every mismatch). What holds of the piece that met the mismatch holds of every piece around
it: what a sequence read before it is a whole word of the parts before, and any word of
the parts after completes a word begun (`Outcome.Continues`, `continues_closed`). At the top
the words are those of the statement part; a mismatch after a whole statement part names
only the end of input, which makes it a sentence.
-/

namespace ImpSyntax

namespace Outcome

/-- **A mismatch names ways on**, for a piece meant to read a word of `L`: every symbol it
names as expected, after the tokens the piece accepted, starts a word of `L`. -/
def Continues (L : Language Symbol) : Outcome → Prop
  | .halted evs _ (.mismatch _ x) =>
    ∀ s ∈ x.symbols, ∃ v, (accepted evs).map Token.symbol ++ s :: v ∈ L
  | _ => True

variable {L L₁ L₂ : Language Symbol} {c c' : Cursor} {evs : List Event} {o : Outcome}

/-- What a piece names after a finished one is named after what that one read. -/
theorem Continues.after (h₁ : (Outcome.done evs c').Sound L₁ c) (h₂ : o.Continues L₂) :
    (o.after evs).Continues (L₁ * L₂) := by
  cases o with
  | done => trivial
  | halted evs' fr cause =>
    cases cause with
    | mismatch t x =>
      intro s hs
      obtain ⟨v, hv⟩ := h₂ s hs
      refine ⟨v, ?_⟩
      rw [accepted_append, List.map_append, List.append_assoc]
      exact Language.append_mem_mul h₁.2 hv
    | fault => trivial

/-- A piece that stopped names ways on in any sequence it starts, if the rest has words. -/
theorem Continues.halted_mul {fr : List Rule} {cause : Cause}
    (h : (Outcome.halted evs fr cause).Continues L₁) (hL₂ : L₂ ≠ 0) :
    (Outcome.halted evs fr cause).Continues (L₁ * L₂) := by
  obtain ⟨u, hu⟩ := Set.nonempty_iff_ne_empty.2 hL₂
  cases cause with
  | mismatch t x =>
    intro s hs
    obtain ⟨v, hv⟩ := h s hs
    refine ⟨v ++ u, ?_⟩
    -- the word begun is completed by a word of the rest
    have hword := Language.append_mem_mul hv hu
    simpa only [List.append_assoc, List.cons_append] using hword
  | fault => trivial

theorem Continues.mono (h : o.Continues L) (hL : L ≤ L₂) : o.Continues L₂ := by
  cases o with
  | done => trivial
  | halted evs fr cause =>
    cases cause with
    | mismatch t x =>
      intro s hs
      obtain ⟨v, hv⟩ := h s hs
      exact ⟨v, hL hv⟩
    | fault => trivial

theorem Continues.inRule (h : o.Continues L) (r : Rule) : (o.inRule r).Continues L := by
  cases o with
  | done => trivial
  | halted evs fr cause =>
    cases cause with
    | mismatch t x => simpa [Outcome.inRule, Continues] using h
    | fault => trivial

end Outcome

open Outcome

/-- **Every piece of the check names ways on** where it meets a mismatch. -/
theorem continues_closed : Check.Closed (fun L _ c o => o.Sound L c ∧ o.Continues L) where
  take c h s S hs := by
    refine ⟨sound_closed.take c h s S hs, ?_⟩
    rcases Cursor.take_cases h with ⟨t, f, -, ht⟩ | ⟨e, f, -, he⟩
    · rw [ht]
      trivial
    · rw [he]
      trivial
  stay c S := ⟨sound_closed.stay c S, trivial⟩
  reject c x L S hx hL havoid hstarts := by
    refine ⟨sound_closed.reject c x L S hx hL havoid hstarts, ?_⟩
    -- nothing was accepted yet: what is named starts a word of the piece
    simpa [Continues, Step.reject, Expected.Starts] using hstarts
  seq c o₁ o L₁ L₂ S S₁ hL₂ hlead h₁ hdone hhalt := by
    refine ⟨sound_closed.seq c o₁ o L₁ L₂ S S₁ hL₂ hlead h₁.1 (fun evs c' h => ?_) hhalt, ?_⟩
    · obtain ⟨o₂, h₂, ho⟩ := hdone evs c' h
      exact ⟨o₂, h₂.1, ho⟩
    · cases o₁ with
      | done evs c' =>
        obtain ⟨o₂, h₂, rfl⟩ := hdone evs c' rfl
        exact Continues.after h₁.1 h₂.2
      | halted evs fr cause =>
        rw [hhalt evs fr cause rfl]
        exact h₁.2.halted_mul hL₂
  inRule r c o L S h := ⟨h.1.inRule r, h.2.inRule r⟩
  choose c o L L' S hL _ h := ⟨h.1.mono hL, h.2.mono hL⟩
  shrink _ _ _ _ _ _ h := h

/-- **A mismatch never names a symbol that could not come next.** For every feed on which
the check stops at a mismatch, each symbol the mismatch names as expected, after the tokens
the check accepted, starts a sentence. -/
theorem check_mismatch_expected_viable (f : Feed) {fr : List Rule} {t : Token} {x : Expected}
    (h : (check f).halt = some ⟨fr, .mismatch t x⟩) :
    ∀ s ∈ x.symbols, Viable ((check f).terminals.map Token.symbol ++ [s]) := by
  intro s hs
  rcases check_cases f with ⟨e, -, hcheck⟩ | ⟨c, evs, c', -, hsp, hcheck⟩ |
    ⟨c, evs, fr', cause, -, hsp, hcheck⟩
  · rw [hcheck] at h
    cases h
  · -- after a whole statement part only the end of input is named, and it ends a sentence
    have hpart : (Check.statementPart c).1.Sound Rule.statementPart.lang c :=
      (continues_closed.step .statementPart c).1
    rw [hsp] at hpart
    rcases finish_cases evs c' with ⟨-, _, _, _, hfin⟩ | ⟨-, _, _, _, hfin⟩ | ⟨-, hfin⟩ <;>
      rw [hcheck, hfin] at h
    · cases h
    · cases h
    · cases h
      rw [List.mem_singleton.1 hs, hcheck, hfin, Run.terminals_eq, accepted_append,
        accepted_cons_reject, accepted_nil, List.append_nil]
      exact Viable.of_mem (mem_sentences.2 ⟨_, hpart.2, rfl⟩)
  · -- a mismatch inside the statement part names ways into one of its words
    have hpart : (Check.statementPart c).1.Continues Rule.statementPart.lang :=
      (continues_closed.step .statementPart c).2
    rw [hsp] at hpart
    rw [hcheck] at h ⊢
    cases h
    obtain ⟨v, hv⟩ := hpart s hs
    have hword : (accepted evs).map Token.symbol ++ [s] ++ v ∈ Rule.statementPart.lang := by
      simpa using hv
    exact viable_of_mem hword

/-- A program cut off where the right side of an assignment should start: the check stops
inside a factor, which names an identifier, a number or an opening parenthesis, and each of
them can follow `begin x :=`. -/
theorem cutOffAssignment_expected_viable :
    (checkText "begin x := end").halt = some ⟨[.statementPart, .statementList, .statement,
      .assignment, .expression, .term, .factor], .mismatch ⟨.kwEnd, "end", 1, 12⟩ .factor⟩ ∧
    ∀ s ∈ Expected.factor.symbols,
      Viable ((checkText "begin x := end").terminals.map Token.symbol ++ [s]) :=
  have h : (checkText "begin x := end").halt = some ⟨[.statementPart, .statementList,
      .statement, .assignment, .expression, .term, .factor],
      .mismatch ⟨.kwEnd, "end", 1, 12⟩ .factor⟩ := by decide +kernel
  ⟨h, check_mismatch_expected_viable _ h⟩

end ImpSyntax
