import ImpSyntax.Proofs.Soundness

/-!
# The lookahead decides

The checker never looks further than one token ahead, and the grammar is such that one
token is enough. Here that is said of what a piece of the check *saw*: the symbols of the
tokens it accepted, and of the lookahead where it finished or met a mismatch.

Take any word `u` the piece is meant to read and any symbol `y` that may follow it: the
input could be `u`, then `y`. If what the piece saw agrees with that input as far as both
go, the piece finished, having read exactly `u`, with `y` as its lookahead. So a piece never
stops at a mismatch while the input could still be such a word, and never reads past one
(`Outcome.Decides`). Every kind of piece keeps this, given what the rest of a sequence may
start with and what a choice is made on (`decides_closed`).

This is the completeness of the check, and the other half of the statement that it stops at
the earliest token it can: it needs no lemma saying that a run depends only on the tokens
it read, since it compares what was seen with every possible input at once.
-/

namespace ImpSyntax

open Cursor

/-! ## Words and the symbols after them -/

theorem append_singleton_headD (u : List Symbol) (y : Symbol) :
    ∃ R, u ++ [y] = u.headD y :: R := by
  cases u with
  | nil => exact ⟨[], rfl⟩
  | cons x u => exact ⟨u ++ [y], rfl⟩

/-- A word `u₁` followed by the first symbol after it, in `u₁ ++ u₂ ++ [y]`. -/
theorem prefix_headD (u₁ u₂ : List Symbol) (y : Symbol) :
    u₁ ++ [u₂.headD y] <+: u₁ ++ u₂ ++ [y] := by
  rw [List.append_assoc, List.prefix_append_right_inj]
  cases u₂ with
  | nil => exact List.prefix_refl _
  | cons x u₂ => exact List.cons_prefix_cons.2 ⟨rfl, List.nil_prefix⟩

theorem not_agree_of_head_ne {a b : Symbol} {u v : List Symbol} (h : a ≠ b) :
    ¬ Agree (a :: u) (b :: v) :=
  fun hab => h hab.head_eq

/-- **What was seen before a symbol `x`** agrees with a word `u₁` before the first symbol
of what follows it, when all of it agrees with the whole. -/
theorem agree_split {A R u₁ u₂ : List Symbol} {x y : Symbol}
    (h : Agree (A ++ x :: R) (u₁ ++ u₂ ++ [y])) : Agree (A ++ [x]) (u₁ ++ [u₂.headD y]) :=
  h.of_prefix (List.prefix_append_right_inj _ |>.2 (List.cons_prefix_cons.2 ⟨rfl, List.nil_prefix⟩))
    (prefix_headD u₁ u₂ y)

/-- The symbols of tokens read, then of the lookahead reached, start with the symbol of the
first lookahead. -/
theorem Cursor.Reads.symbols_head {c d : Cursor} {ws : List Token} (h : Reads c ws d) :
    ∃ R, (ws ++ [d.look]).map Token.symbol = c.look.symbol :: R := by
  obtain ⟨R, hR⟩ := h.head
  exact ⟨R.map Token.symbol, by rw [hR, List.map_cons]⟩

namespace Outcome

/-- **What a piece saw**: the symbols of the tokens it accepted, then the symbol of its
lookahead where it finished or met a mismatch. -/
def seen : Outcome → List Symbol
  | .done evs d => (accepted evs).map Token.symbol ++ [d.look.symbol]
  | .halted evs _ (.mismatch t _) => (accepted evs).map Token.symbol ++ [t.symbol]
  | .halted evs _ (.fault _) => (accepted evs).map Token.symbol

/-- **The lookahead decides**, for a piece meant to read a word of `L` before a symbol of
`S`: where what it saw agrees with such a word `u` and symbol `y`, it finished after
reading exactly `u`, at `y`. A piece stopped at a mismatch saw what agrees with no such
input; a piece stopped at a fault had not read a whole such input. -/
def Decides (L : Language Symbol) (S : List Symbol) : Outcome → Prop
  | o@(.done ..) => ∀ u ∈ L, ∀ y ∈ S, Agree o.seen (u ++ [y]) → o.seen = u ++ [y]
  | o@(.halted _ _ (.mismatch ..)) => ∀ u ∈ L, ∀ y ∈ S, ¬ Agree o.seen (u ++ [y])
  | o@(.halted _ _ (.fault _)) => ∀ u ∈ L, ∀ y ∈ S, ¬ u ++ [y] <+: o.seen

variable {L L₁ L₂ : Language Symbol} {S S₁ : List Symbol} {c c' : Cursor}
  {evs : List Event} {o : Outcome}

theorem seen_after (o : Outcome) (evs : List Event) :
    (o.after evs).seen = (accepted evs).map Token.symbol ++ o.seen := by
  cases o with
  | done evs' d => simp [after, seen]
  | halted evs' fr cause => cases cause <;> simp [after, seen]

/-- **What a piece saw starts with the lookahead it started at.** -/
theorem Sound.seen_head (h : o.Sound L c) : ∃ R, o.seen = c.look.symbol :: R := by
  cases o with
  | done evs d =>
    obtain ⟨R, hR⟩ := h.1.symbols_head
    exact ⟨R, by simpa [seen] using hR⟩
  | halted evs fr cause =>
    cases cause with
    | mismatch t x =>
      obtain ⟨⟨d, hd, rfl⟩, -⟩ := h
      obtain ⟨R, hR⟩ := hd.symbols_head
      exact ⟨R, by simpa [seen] using hR⟩
    | fault e =>
      obtain ⟨⟨ws, d, hws, hd, -⟩, -⟩ := h
      obtain ⟨R, hR⟩ := hd.symbols_head
      exact ⟨R, by simpa [seen, hws] using hR⟩

/-- **After a finished piece**: a second piece decides for the rest of a sequence when the
first decides for its own part before what the rest starts with. -/
theorem Decides.after (hlead : Leads L₂ S S₁) (h₁ : (Outcome.done evs c').Decides L₁ S₁)
    (hs₂ : o.Sound L₂ c') (h₂ : o.Decides L₂ S) : (o.after evs).Decides (L₁ * L₂) S := by
  obtain ⟨R, hR⟩ := hs₂.seen_head
  have hseen := seen_after o evs
  -- what the whole saw agrees with `u₁ ++ u₂` before `y` only if the first part read `u₁`
  -- and the second saw what agrees with `u₂` before `y`
  have key : ∀ u₁ ∈ L₁, ∀ u₂ ∈ L₂, ∀ y ∈ S,
      Agree ((accepted evs).map Token.symbol ++ o.seen) (u₁ ++ u₂ ++ [y]) →
        (accepted evs).map Token.symbol = u₁ ∧ Agree o.seen (u₂ ++ [y]) := by
    intro u₁ hu₁ u₂ hu₂ y hy hagree
    rw [hR] at hagree
    have hfirst := h₁ u₁ hu₁ _ (hlead u₂ hu₂ y hy) (agree_split hagree)
    have hu : (accepted evs).map Token.symbol = u₁ := (List.append_inj' hfirst rfl).1
    refine ⟨hu, ?_⟩
    rw [hu, List.append_assoc, Agree.append_left_iff, ← hR] at hagree
    exact hagree
  cases o with
  | done evs' d =>
    intro w hw y hy hagree
    obtain ⟨u₁, hu₁, u₂, hu₂, rfl⟩ := Language.mem_mul.1 hw
    simp only [after] at hseen
    rw [hseen] at hagree ⊢
    obtain ⟨hu, hrest⟩ := key u₁ hu₁ u₂ hu₂ y hy hagree
    rw [hu, h₂ u₂ hu₂ y hy hrest, List.append_assoc]
  | halted evs' fr cause =>
    cases cause with
    | mismatch t x =>
      intro w hw y hy hagree
      obtain ⟨u₁, hu₁, u₂, hu₂, rfl⟩ := Language.mem_mul.1 hw
      simp only [after] at hseen
      rw [hseen] at hagree
      exact h₂ u₂ hu₂ y hy (key u₁ hu₁ u₂ hu₂ y hy hagree).2
    | fault e =>
      intro w hw y hy hprefix
      obtain ⟨u₁, hu₁, u₂, hu₂, rfl⟩ := Language.mem_mul.1 hw
      simp only [after] at hseen
      rw [hseen] at hprefix
      obtain ⟨hu, -⟩ := key u₁ hu₁ u₂ hu₂ y hy (.inr hprefix)
      rw [hu, List.append_assoc, List.prefix_append_right_inj] at hprefix
      exact h₂ u₂ hu₂ y hy hprefix

/-- A piece that stopped decides for any sequence it starts. -/
theorem Decides.halted_mul {fr : List Rule} {cause : Cause} (hlead : Leads L₂ S S₁)
    (h : (Outcome.halted evs fr cause).Decides L₁ S₁) :
    (Outcome.halted evs fr cause).Decides (L₁ * L₂) S := by
  cases cause with
  | mismatch t x =>
    intro w hw y hy hagree
    obtain ⟨u₁, hu₁, u₂, hu₂, rfl⟩ := Language.mem_mul.1 hw
    exact h u₁ hu₁ _ (hlead u₂ hu₂ y hy) (hagree.of_prefix (List.prefix_refl _)
      (prefix_headD u₁ u₂ y))
  | fault e =>
    intro w hw y hy hprefix
    obtain ⟨u₁, hu₁, u₂, hu₂, rfl⟩ := Language.mem_mul.1 hw
    exact h u₁ hu₁ _ (hlead u₂ hu₂ y hy) ((prefix_headD u₁ u₂ y).trans hprefix)

theorem Decides.inRule (h : o.Decides L S) (r : Rule) : (o.inRule r).Decides L S := by
  cases o with
  | done evs d => simpa [Outcome.inRule, Decides, seen] using h
  | halted evs fr cause => cases cause <;> simpa [Outcome.inRule, Decides, seen] using h

/-- **A choice made on the lookahead decides**, since what was seen starts with it. -/
theorem Decides.choose {L' : Language Symbol} (hs : o.Sound L c) (h : o.Decides L S)
    (hpick : Picks L L' S c.look.symbol) : o.Decides L' S := by
  obtain ⟨R, hR⟩ := hs.seen_head
  -- a word that does not start with the lookahead agrees with nothing the piece saw
  have other : ∀ u y, u.headD y ≠ c.look.symbol → ¬ Agree o.seen (u ++ [y]) := by
    intro u y hne hagree
    obtain ⟨R', hR'⟩ := append_singleton_headD u y
    rw [hR, hR'] at hagree
    exact not_agree_of_head_ne (Ne.symm hne) hagree
  cases o with
  | done evs d =>
    intro u hu y hy hagree
    by_cases hx : u.headD y = c.look.symbol
    · exact h u (hpick u hu y hy hx) y hy hagree
    · exact absurd hagree (other u y hx)
  | halted evs fr cause =>
    cases cause with
    | mismatch t x =>
      intro u hu y hy
      by_cases hx : u.headD y = c.look.symbol
      · exact h u (hpick u hu y hy hx) y hy
      · exact other u y hx
    | fault e =>
      intro u hu y hy hprefix
      by_cases hx : u.headD y = c.look.symbol
      · exact h u (hpick u hu y hy hx) y hy hprefix
      · exact other u y hx (.inr hprefix)

theorem Decides.shrink {S' : List Symbol} (h : o.Decides L S) (hS : S' ⊆ S) :
    o.Decides L S' := by
  cases o with
  | done evs d => exact fun u hu y hy => h u hu y (hS hy)
  | halted evs fr cause =>
    cases cause with
    | mismatch t x => exact fun u hu y hy => h u hu y (hS hy)
    | fault e => exact fun u hu y hy => h u hu y (hS hy)

end Outcome

open Outcome

/-- **Every piece of the check is decided by its lookahead.** -/
theorem decides_closed : Check.Closed (fun L S c o => o.Sound L c ∧ o.Decides L S) where
  take c h s S hs := by
    refine ⟨sound_closed.take c h s S hs, ?_⟩
    rcases Cursor.take_cases h with ⟨t, f, -, ht⟩ | ⟨e, f, -, he⟩
    · -- the token taken, then the next lookahead: exactly `[s]` before `y`, or no agreement
      rw [ht]
      intro u hu y _ hagree
      rw [mem_singleton_language] at hu
      subst hu
      exact hagree.eq_of_length (by simp [seen])
    · rw [he]
      intro u hu y _ hprefix
      rw [mem_singleton_language] at hu
      subst hu
      have := hprefix.length_le
      simp [seen] at this
  stay c S := by
    refine ⟨sound_closed.stay c S, ?_⟩
    intro u hu y _ hagree
    rw [Language.mem_one] at hu
    subst hu
    exact hagree.eq_of_length (by simp [seen])
  reject c x L S hx hL havoid hstarts := by
    refine ⟨sound_closed.reject c x L S hx hL havoid hstarts, ?_⟩
    intro u hu y hy hagree
    obtain ⟨R, hR⟩ := append_singleton_headD u y
    rw [hR] at hagree
    exact not_agree_of_head_ne (Ne.symm (havoid u hu y hy))
      (by simpa [seen, Step.reject] using hagree)
  seq c o₁ o L₁ L₂ S S₁ hL₂ hlead h₁ hdone hhalt := by
    refine ⟨sound_closed.seq c o₁ o L₁ L₂ S S₁ hL₂ hlead h₁.1 (fun evs c' h => ?_) hhalt, ?_⟩
    · obtain ⟨o₂, h₂, ho⟩ := hdone evs c' h
      exact ⟨o₂, h₂.1, ho⟩
    · cases o₁ with
      | done evs c' =>
        obtain ⟨o₂, h₂, rfl⟩ := hdone evs c' rfl
        exact Decides.after hlead h₁.2 h₂.1 h₂.2
      | halted evs fr cause =>
        rw [hhalt evs fr cause rfl]
        exact Decides.halted_mul hlead h₁.2
  inRule r c o L S h := ⟨h.1.inRule r, h.2.inRule r⟩
  choose c o L L' S hL hpick h := ⟨h.1.mono hL, h.2.choose h.1 hpick⟩
  shrink c o L S S' hS h := ⟨h.1, h.2.shrink hS⟩

end ImpSyntax
