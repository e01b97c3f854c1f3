import ImpSyntax.Proofs.RuleInduction
import ImpSyntax.Proofs.Reading

/-!
# What a piece of the check reads

The tokens a piece of the check accepts are the next tokens of its feed, in order, each
once. Where the piece finishes, their symbols form a word of the language it is meant to
read, and it stands at the token after them. Where it stops at a mismatch, their symbols
start such a word, and the mismatch is at the token after them. Where it stops at a fault,
the fault is the answer of the pull after the last token it accepted (`Outcome.Sound`).

Every kind of piece keeps this, so every rule has it (`sound_closed`). The first half is
the soundness of the check: what it accepts is in the grammar. The second half, a stop
only after the start of a word, is half of the statement that the check stops at the
earliest token it can.
-/

namespace ImpSyntax

open Cursor

namespace Outcome

/-- **What a piece read** from cursor `c`, as a piece meant to read a word of `L`. -/
def Sound (L : Language Symbol) (c : Cursor) : Outcome → Prop
  | .done evs d => Reads c (accepted evs) d ∧ (accepted evs).map Token.symbol ∈ L
  | .halted evs _ (.mismatch t _) =>
    (∃ d, Reads c (accepted evs) d ∧ d.look = t) ∧
      ∃ v, (accepted evs).map Token.symbol ++ v ∈ L
  | .halted evs _ (.fault e) =>
    (∃ ws d, accepted evs = ws ++ [d.look] ∧ Reads c ws d ∧ d.feed.pull.1 = .error e) ∧
      ∃ v, (accepted evs).map Token.symbol ++ v ∈ L

variable {L L₁ L₂ : Language Symbol} {c c' : Cursor} {evs : List Event} {o : Outcome}

/-- What a piece reads after a finished one is read after what that one read. -/
theorem Sound.after (h₁ : (Outcome.done evs c').Sound L₁ c) (h₂ : o.Sound L₂ c') :
    (o.after evs).Sound (L₁ * L₂) c := by
  obtain ⟨hr₁, hw₁⟩ := h₁
  cases o with
  | done evs' d =>
    obtain ⟨hr₂, hw₂⟩ := h₂
    refine ⟨?_, ?_⟩
    · rw [accepted_append]
      exact hr₁.append hr₂
    · rw [accepted_append, List.map_append]
      exact Language.append_mem_mul hw₁ hw₂
  | halted evs' fr cause =>
    cases cause with
    | mismatch t x =>
      obtain ⟨⟨d, hr₂, hd⟩, v, hv⟩ := h₂
      refine ⟨⟨d, ?_, hd⟩, v, ?_⟩
      · rw [accepted_append]
        exact hr₁.append hr₂
      · rw [accepted_append, List.map_append, List.append_assoc]
        exact Language.append_mem_mul hw₁ hv
    | fault e =>
      obtain ⟨⟨ws, d, hws, hr₂, he⟩, v, hv⟩ := h₂
      refine ⟨⟨accepted evs ++ ws, d, ?_, hr₁.append hr₂, he⟩, v, ?_⟩
      · rw [accepted_append, hws, List.append_assoc]
      · rw [accepted_append, List.map_append, List.append_assoc]
        exact Language.append_mem_mul hw₁ hv

/-- A piece that stopped stopped inside any sequence it starts, if the rest has words. -/
theorem Sound.halted_mul {evs : List Event} {fr : List Rule} {cause : Cause}
    (h : (Outcome.halted evs fr cause).Sound L₁ c) (hL₂ : L₂ ≠ 0) :
    (Outcome.halted evs fr cause).Sound (L₁ * L₂) c := by
  obtain ⟨u, hu⟩ := Set.nonempty_iff_ne_empty.2 hL₂
  -- what was read starts a word of the first part, and any word of the second completes it
  have extend : ∀ v, (accepted evs).map Token.symbol ++ v ∈ L₁ →
      (accepted evs).map Token.symbol ++ (v ++ u) ∈ L₁ * L₂ := fun v hv => by
    rw [← List.append_assoc]
    exact Language.append_mem_mul hv hu
  cases cause with
  | mismatch t x =>
    obtain ⟨hd, v, hv⟩ := h
    exact ⟨hd, v ++ u, extend v hv⟩
  | fault e =>
    obtain ⟨hd, v, hv⟩ := h
    exact ⟨hd, v ++ u, extend v hv⟩

theorem Sound.mono (h : o.Sound L c) (hL : L ≤ L₂) : o.Sound L₂ c := by
  cases o with
  | done evs d => exact ⟨h.1, hL h.2⟩
  | halted evs fr cause =>
    cases cause with
    | mismatch t x =>
      obtain ⟨hd, v, hv⟩ := h
      exact ⟨hd, v, hL hv⟩
    | fault e =>
      obtain ⟨hd, v, hv⟩ := h
      exact ⟨hd, v, hL hv⟩

theorem Sound.inRule (h : o.Sound L c) (r : Rule) : (o.inRule r).Sound L c := by
  cases o with
  | done evs d => simpa [Outcome.inRule, Sound] using h
  | halted evs fr cause =>
    cases cause <;> simpa [Outcome.inRule, Sound] using h

end Outcome

open Outcome

/-- **Every piece of the check reads as it should.** -/
theorem sound_closed : Check.Closed (fun L _ c o => o.Sound L c) where
  take c h s _ hs := by
    rcases Cursor.take_cases h with ⟨t, f, hp, ht⟩ | ⟨e, f, hp, he⟩
    · rw [ht]
      refine ⟨Reads.single hp, ?_⟩
      simp [hs, Rule.mem_word]
    · rw [he]
      exact ⟨⟨[], c, rfl, .nil c, by rw [hp]⟩, [], by simp [hs, Rule.mem_word]⟩
  stay c _ := ⟨.nil c, Language.nil_mem_one⟩
  reject c x L _ _ hL _ _ := by
    obtain ⟨u, hu⟩ := Set.nonempty_iff_ne_empty.2 hL
    exact ⟨⟨c, .nil c, rfl⟩, u, hu⟩
  seq c o₁ o _ _ _ _ hL₂ _ h₁ hdone hhalt := by
    cases o₁ with
    | done evs c' =>
      obtain ⟨o₂, h₂, rfl⟩ := hdone evs c' rfl
      exact h₁.after h₂
    | halted evs fr cause =>
      rw [hhalt evs fr cause rfl]
      exact h₁.halted_mul hL₂
  inRule r _ _ _ _ h := h.inRule r
  choose _ _ _ _ _ hL _ h := h.mono hL
  shrink _ _ _ _ _ _ h := h

end ImpSyntax
