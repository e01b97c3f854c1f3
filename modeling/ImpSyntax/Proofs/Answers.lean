import Mathlib
import ImpSyntax.Proofs.LexerStream
import ImpSyntax.Proofs.Nesting

/-!
# What a check sees of its feed

A check sees its feed only through the answers of its pulls, and it asks for as long as its
lookahead is not the end of input, then once more to finish. Two feeds behind the same
lookahead are *alike* when they answer the same as long as that goes on, and the pull after
the end of input gives a token from both or the same fault from both (`Feed.Alike`).

Every piece of the check started at alike cursors reports the same events, and stops the
same way or finishes at alike cursors (`Check.statementPart_alike`); so feeds that answer alike are
checked alike (`check_eq_of_alike`).

The feed of a text that lexes without a fault and the feed of its token list answer alike:
the same tokens through the end of input, after which one repeats the end-of-input token and
the other gives one on the line of the last token. The lexer, as a cursor over its stream,
therefore checks a text as its token list is checked (`lexer_cursor_refines`).
-/

namespace ImpSyntax

/-- **Feeds that answer alike** behind the lookahead `t`: while `t` is not the end of input,
the next pull answers the same from both, and the feeds after it answer alike behind the
token it gave; at the end of input, the one pull left gives a token from both, or the same
fault. -/
inductive Feed.Alike : Token → Feed → Feed → Prop where
  | atEnd {t : Token} {f₁ f₂ : Feed} : t.symbol = .eof →
      ((∃ t₁ t₂, f₁.pull.1 = .ok t₁ ∧ f₂.pull.1 = .ok t₂) ∨ f₁.pull.1 = f₂.pull.1) →
      Feed.Alike t f₁ f₂
  | next {t : Token} {f₁ f₂ : Feed} : t.symbol ≠ .eof → f₁.pull.1 = f₂.pull.1 →
      (∀ t', f₁.pull.1 = .ok t' → Feed.Alike t' f₁.pull.2 f₂.pull.2) → Feed.Alike t f₁ f₂

/-- **Feeds that answer alike from their first pull**: it answers the same from both, and
the feeds after a token answer alike behind it. -/
def Feed.AlikeFrom (f₁ f₂ : Feed) : Prop :=
  f₁.pull.1 = f₂.pull.1 ∧ ∀ t, f₁.pull.1 = .ok t → Feed.Alike t f₁.pull.2 f₂.pull.2

/-- **Alike cursors**: the same lookahead, with feeds that answer alike behind it. -/
structure Cursor.Alike (c₁ c₂ : Cursor) : Prop where
  look_eq : c₁.look = c₂.look
  feed : Feed.Alike c₁.look c₁.feed c₂.feed

/-- **Alike outcomes**: the same events, and the same stop or alike cursors where the two
pieces finished. -/
def Outcome.Alike : Outcome → Outcome → Prop
  | .done evs₁ d₁, .done evs₂ d₂ => evs₁ = evs₂ ∧ d₁.Alike d₂
  | .halted evs₁ fr₁ cause₁, .halted evs₂ fr₂ cause₂ => evs₁ = evs₂ ∧ fr₁ = fr₂ ∧ cause₁ = cause₂
  | _, _ => False

namespace Feed.Alike

variable {t t' : Token} {f₁ f₂ g₁ : Feed}

/-- A token pulled from one of two alike feeds is pulled from the other, and the feeds after
it answer alike. -/
theorem pull_ok (h : Feed.Alike t f₁ f₂) (ht : t.symbol ≠ .eof) (hp : f₁.pull = (.ok t', g₁)) :
    ∃ g₂, f₂.pull = (.ok t', g₂) ∧ Feed.Alike t' g₁ g₂ := by
  cases h with
  | atEnd heof _ => exact absurd heof ht
  | next _ hpull hnext =>
    refine ⟨f₂.pull.2, Prod.ext (by rw [← hpull, hp]) rfl, ?_⟩
    have := hnext t' (by rw [hp])
    rwa [hp] at this

/-- A fault pulled from one of two alike feeds is pulled from the other. -/
theorem pull_error {e : Fault} (h : Feed.Alike t f₁ f₂) (ht : t.symbol ≠ .eof)
    (hp : f₁.pull = (.error e, g₁)) : ∃ g₂, f₂.pull = (.error e, g₂) := by
  cases h with
  | atEnd heof _ => exact absurd heof ht
  | next _ hpull _ => exact ⟨f₂.pull.2, Prod.ext (by rw [← hpull, hp]) rfl⟩

end Feed.Alike

namespace Outcome.Alike

variable {o₁ o₂ : Outcome}

theorem after (h : o₁.Alike o₂) (evs : List Event) : (o₁.after evs).Alike (o₂.after evs) := by
  cases o₁ <;> cases o₂
  · exact ⟨congrArg _ h.1, h.2⟩
  · exact h.elim
  · exact h.elim
  · exact ⟨congrArg _ h.1, h.2⟩

theorem inRule (h : o₁.Alike o₂) (r : Rule) : (o₁.inRule r).Alike (o₂.inRule r) := by
  cases o₁ <;> cases o₂
  · exact ⟨by rw [h.1], h.2⟩
  · exact h.elim
  · exact h.elim
  · exact ⟨by rw [h.1], by rw [h.2.1], h.2.2⟩

end Outcome.Alike

/-- Alike cursors are the same lookahead with two feeds. -/
theorem Cursor.Alike.cases {c₁ c₂ : Cursor} (hc : c₁.Alike c₂) :
    ∃ l f₁ f₂, c₁ = ⟨l, f₁⟩ ∧ c₂ = ⟨l, f₂⟩ := by
  obtain ⟨l, f₁⟩ := c₁
  obtain ⟨l₂, f₂⟩ := c₂
  obtain rfl : l = l₂ := hc.look_eq
  exact ⟨l, f₁, f₂, rfl, rfl⟩

/-! ## The pieces -/

namespace Check

variable {c₁ c₂ : Cursor}

theorem take_alike (hc : c₁.Alike c₂) (h₁ : c₁.look.symbol ≠ .eof) (h₂ : c₂.look.symbol ≠ .eof) :
    (c₁.take h₁).1.Alike (c₂.take h₂).1 := by
  rcases Cursor.take_cases h₁ with ⟨t, g₁, hp, ht⟩ | ⟨e, g₁, hp, he⟩
  · obtain ⟨g₂, hp₂, hg⟩ := hc.feed.pull_ok h₁ hp
    rcases Cursor.take_cases h₂ with ⟨t', g₂', hp₂', ht₂⟩ | ⟨e', g₂', hp₂', -⟩
    · rw [hp₂] at hp₂'
      simp only [Prod.mk.injEq, Except.ok.injEq] at hp₂'
      obtain ⟨rfl, rfl⟩ := hp₂'
      rw [ht, ht₂]
      exact ⟨by rw [hc.look_eq], ⟨rfl, hg⟩⟩
    · rw [hp₂] at hp₂'
      simp at hp₂'
  · obtain ⟨g₂, hp₂⟩ := hc.feed.pull_error h₁ hp
    rcases Cursor.take_cases h₂ with ⟨t', g₂', hp₂', -⟩ | ⟨e', g₂', hp₂', he₂⟩
    · rw [hp₂] at hp₂'
      simp at hp₂'
    · rw [hp₂] at hp₂'
      simp only [Prod.mk.injEq, Except.error.injEq] at hp₂'
      obtain ⟨rfl, rfl⟩ := hp₂'
      rw [he, he₂]
      exact ⟨by rw [hc.look_eq], rfl, rfl⟩

theorem reject_alike (hc : c₁.Alike c₂) (x : Expected) :
    (Step.reject c₁ x).1.Alike (Step.reject c₂ x).1 := by
  simp only [Step.reject, hc.look_eq]
  exact ⟨rfl, rfl, rfl⟩

theorem stay_alike (hc : c₁.Alike c₂) : (Step.stay c₁).1.Alike (Step.stay c₂).1 := ⟨rfl, hc⟩

theorem expect_alike (hc : c₁.Alike c₂) (s : Symbol) (hs : s ≠ .eof) :
    (c₁.expect s hs).1.Alike (c₂.expect s hs).1 := by
  have hsym : c₂.look.symbol = c₁.look.symbol := by rw [hc.look_eq]
  by_cases h : c₁.look.symbol = s
  · rw [Cursor.expect_of_eq hs h, Cursor.expect_of_eq hs (hsym.trans h)]
    exact take_alike hc _ _
  · rw [Cursor.expect_of_ne hs h, Cursor.expect_of_ne hs (hsym ▸ h)]
    exact reject_alike hc _

theorem bind_alike {s₁ : Step c₁} {s₂ : Step c₂}
    {k₁ : (c' : Cursor) → c'.weight ≤ c₁.weight → Step c'}
    {k₂ : (c' : Cursor) → c'.weight ≤ c₂.weight → Step c'} (h : s₁.1.Alike s₂.1)
    (hk : ∀ evs d₁ d₂ h₁ h₂, s₁.1 = .done evs d₁ → s₂.1 = .done evs d₂ → d₁.Alike d₂ →
      (k₁ d₁ h₁).1.Alike (k₂ d₂ h₂).1) :
    (s₁.bind k₁).1.Alike (s₂.bind k₂).1 := by
  rcases hs₁ : s₁.1 with ⟨evs, d₁⟩ | ⟨evs, fr, cause⟩ <;>
    rcases hs₂ : s₂.1 with ⟨evs', d₂⟩ | ⟨evs', fr', cause'⟩ <;> rw [hs₁, hs₂] at h
  · obtain ⟨rfl, hd⟩ := h
    rw [Step.bind_of_done s₁ k₁ hs₁, Step.bind_of_done s₂ k₂ hs₂]
    exact (hk evs d₁ d₂ _ _ hs₁ hs₂ hd).after evs
  · exact h.elim
  · exact h.elim
  · obtain ⟨rfl, rfl, rfl⟩ := h
    rw [Step.bind_of_halted s₁ k₁ hs₁, Step.bind_of_halted s₂ k₂ hs₂]
    exact ⟨rfl, rfl, rfl⟩

theorem andThen_alike {m₁ : Move c₁} {m₂ : Move c₂}
    {k₁ : (c' : Cursor) → c'.weight < c₁.weight → Step c'}
    {k₂ : (c' : Cursor) → c'.weight < c₂.weight → Step c'} (h : m₁.1.Alike m₂.1)
    (hk : ∀ evs d₁ d₂ h₁ h₂, m₁.1 = .done evs d₁ → m₂.1 = .done evs d₂ → d₁.Alike d₂ →
      (k₁ d₁ h₁).1.Alike (k₂ d₂ h₂).1) :
    (m₁.andThen k₁).1.Alike (m₂.andThen k₂).1 := by
  rcases hm₁ : m₁.1 with ⟨evs, d₁⟩ | ⟨evs, fr, cause⟩ <;>
    rcases hm₂ : m₂.1 with ⟨evs', d₂⟩ | ⟨evs', fr', cause'⟩ <;> rw [hm₁, hm₂] at h
  · obtain ⟨rfl, hd⟩ := h
    rw [Move.andThen_of_done m₁ k₁ hm₁, Move.andThen_of_done m₂ k₂ hm₂]
    exact (hk evs d₁ d₂ _ _ hm₁ hm₂ hd).after evs
  · exact h.elim
  · exact h.elim
  · obtain ⟨rfl, rfl, rfl⟩ := h
    rw [Move.andThen_of_halted m₁ k₁ hm₁, Move.andThen_of_halted m₂ k₂ hm₂]
    exact ⟨rfl, rfl, rfl⟩

theorem bracket_alike (r : Rule) {s₁ : Step c₁} {s₂ : Step c₂} (h : s₁.1.Alike s₂.1) :
    (Step.bracket r s₁).1.Alike (Step.bracket r s₂).1 := by
  rw [Step.bracket_val, Step.bracket_val]
  exact h.inRule r

/-! ## The rules -/

theorem moreArguments_alike (c₁ c₂ : Cursor) (h : c₁.Alike c₂) :
    (moreArguments c₁).1.Alike (moreArguments c₂).1 := by
  induction c₁ using Check.moreArguments.induct generalizing c₂ with
  | case1 c hc ih =>
    have hc₂ : c₂.look.symbol = .comma := by rw [← h.look_eq]; exact hc
    rw [moreArguments, if_pos hc, moreArguments, if_pos hc₂]
    exact andThen_alike (expect_alike h _ _) fun _ a₁ a₂ ha _ _ _ hA =>
      andThen_alike (expect_alike hA _ _) fun _ b₁ b₂ hb _ _ _ hB => ih a₁ ha b₁ hb b₂ hB
  | case2 c hc =>
    have hc₂ : ¬ c₂.look.symbol = .comma := by rw [← h.look_eq]; exact hc
    rw [moreArguments, if_neg hc, moreArguments, if_neg hc₂]
    exact stay_alike h

theorem argumentList_alike (h : c₁.Alike c₂) :
    (argumentList c₁).1.Alike (argumentList c₂).1 := by
  rw [argumentList, argumentList]
  exact bracket_alike _ <| andThen_alike (expect_alike h _ _) fun _ a₁ a₂ _ _ _ _ hA =>
    moreArguments_alike a₁ a₂ hA

theorem comparison_alike (h : c₁.Alike c₂) : (comparison c₁).1.Alike (comparison c₂).1 := by
  obtain ⟨l, f₁, f₂, rfl, rfl⟩ := h.cases
  rw [comparison, comparison]
  refine bracket_alike _ ?_
  dsimp only
  split
  · exact take_alike h _ _
  · exact reject_alike h _

theorem condition_alike (h : c₁.Alike c₂) : (condition c₁).1.Alike (condition c₂).1 := by
  rw [condition, condition]
  refine bracket_alike _ <| andThen_alike (expect_alike h _ _) fun _ a₁ a₂ _ _ _ _ hA =>
    bind_alike (comparison_alike hA) fun _ b₁ b₂ _ _ _ _ hB => ?_
  -- the right operand, chosen by the same lookahead on both sides
  obtain ⟨l, g₁, g₂, rfl, rfl⟩ := hB.cases
  dsimp only
  split
  · exact take_alike hB _ _
  · exact reject_alike hB _

/-- **Expressions, terms and factors** give alike outcomes at alike cursors. -/
theorem expressionBlock_alike :
    (∀ c₁ c₂, c₁.Alike c₂ → (expression c₁).1.Alike (expression c₂).1) ∧
    (∀ c₁ c₂, c₁.Alike c₂ → (moreTerms c₁).1.Alike (moreTerms c₂).1) ∧
    (∀ c₁ c₂, c₁.Alike c₂ → (term c₁).1.Alike (term c₂).1) ∧
    (∀ c₁ c₂, c₁.Alike c₂ → (moreFactors c₁).1.Alike (moreFactors c₂).1) ∧
    (∀ c₁ c₂, c₁.Alike c₂ → (factor c₁).1.Alike (factor c₂).1) := by
  apply Check.expression.mutual_induct
  case case1 =>
    intro c hterm hmore c₂ h
    rw [expression, expression]
    exact bracket_alike _ <| bind_alike (hterm c₂ h) fun _ a₁ a₂ ha _ _ _ hA =>
      hmore a₁ ha a₂ hA
  case case2 =>
    intro c hc hterm hmore c₂ h
    have hc₂ : c₂.look.symbol.isAdding = true := by rw [← h.look_eq]; exact hc
    rw [moreTerms, dif_pos hc, moreTerms, dif_pos hc₂]
    exact andThen_alike (take_alike h _ _) fun _ a₁ a₂ ha _ _ _ hA =>
      bind_alike (hterm a₁ ha a₂ hA) fun _ b₁ b₂ hb _ _ _ hB => hmore a₁ ha b₁ hb b₂ hB
  case case3 =>
    intro c hc c₂ h
    have hc₂ : ¬ c₂.look.symbol.isAdding = true := by rw [← h.look_eq]; exact hc
    rw [moreTerms, dif_neg hc, moreTerms, dif_neg hc₂]
    exact stay_alike h
  case case4 =>
    intro c hfactor hmore c₂ h
    rw [term, term]
    exact bracket_alike _ <| bind_alike (hfactor c₂ h) fun _ a₁ a₂ ha _ _ _ hA =>
      hmore a₁ ha a₂ hA
  case case5 =>
    intro c hc hfactor hmore c₂ h
    have hc₂ : c₂.look.symbol.isMultiplying = true := by rw [← h.look_eq]; exact hc
    rw [moreFactors, dif_pos hc, moreFactors, dif_pos hc₂]
    exact andThen_alike (take_alike h _ _) fun _ a₁ a₂ ha _ _ _ hA =>
      bind_alike (hfactor a₁ ha a₂ hA) fun _ b₁ b₂ hb _ _ _ hB => hmore a₁ ha b₁ hb b₂ hB
  case case6 =>
    intro c hc c₂ h
    have hc₂ : ¬ c₂.look.symbol.isMultiplying = true := by rw [← h.look_eq]; exact hc
    rw [moreFactors, dif_neg hc, moreFactors, dif_neg hc₂]
    exact stay_alike h
  case case7 =>
    intro c hexpr c₂ h
    obtain ⟨l, f₁, f₂, rfl, rfl⟩ := h.cases
    rw [factor, factor]
    refine bracket_alike _ ?_
    dsimp only
    split
    · exact take_alike h _ _
    · exact take_alike h _ _
    · exact andThen_alike (take_alike h _ _) fun _ a₁ a₂ ha _ _ _ hA =>
        bind_alike (hexpr a₁ ha a₂ hA) fun _ b₁ b₂ _ _ _ _ hB => expect_alike hB _ _
    · exact reject_alike h _

theorem assignment_alike (h : c₁.Alike c₂) : (assignment c₁).1.Alike (assignment c₂).1 := by
  rw [assignment, assignment]
  refine bracket_alike _ <| andThen_alike (expect_alike h _ _) fun _ a₁ a₂ _ _ _ _ hA =>
    andThen_alike (expect_alike hA _ _) fun _ b₁ b₂ _ _ _ _ hB => ?_
  -- a string constant or an expression, chosen by the same lookahead on both sides
  obtain ⟨l, g₁, g₂, rfl, rfl⟩ := hB.cases
  dsimp only
  split
  · exact expect_alike hB _ _
  · exact expressionBlock_alike.1 _ _ hB

theorem procedureStatement_alike (h : c₁.Alike c₂) :
    (procedureStatement c₁).1.Alike (procedureStatement c₂).1 := by
  rw [procedureStatement, procedureStatement]
  refine bracket_alike _ <| andThen_alike (expect_alike h _ _) fun _ a₁ a₂ _ _ _ _ hA =>
    andThen_alike (expect_alike hA _ _) fun _ b₁ b₂ _ _ _ _ hB =>
    andThen_alike (expect_alike hB _ _) fun _ d₁ d₂ _ _ _ _ hD => ?_
  exact bind_alike (argumentList_alike hD) fun _ e₁ e₂ _ _ _ _ hE => expect_alike hE _ _

/-- **Statement lists, statements, and the statements that hold lists** give alike outcomes
at alike cursors. -/
theorem statementBlock_alike :
    (∀ c₁ c₂, c₁.Alike c₂ → (statementList c₁).1.Alike (statementList c₂).1) ∧
    (∀ c₁ c₂, c₁.Alike c₂ → (moreStatements c₁).1.Alike (moreStatements c₂).1) ∧
    (∀ c₁ c₂, c₁.Alike c₂ → (statement c₁).1.Alike (statement c₂).1) ∧
    (∀ c₁ c₂, c₁.Alike c₂ → (forStatement c₁).1.Alike (forStatement c₂).1) ∧
    (∀ c₁ c₂, c₁.Alike c₂ → (untilStatement c₁).1.Alike (untilStatement c₂).1) ∧
    (∀ c₁ c₂, c₁.Alike c₂ → (whileStatement c₁).1.Alike (whileStatement c₂).1) ∧
    (∀ c₁ c₂, c₁.Alike c₂ → (ifStatement c₁).1.Alike (ifStatement c₂).1) := by
  apply Check.statementList.mutual_induct
  case case1 =>
    intro c hstmt hrest c₂ h
    rw [statementList, statementList]
    exact bracket_alike _ <| bind_alike (hstmt c₂ h) fun _ a₁ a₂ ha _ _ _ hA =>
      hrest a₁ ha a₂ hA
  case case2 =>
    intro c hc hstmt hrest c₂ h
    have hc₂ : c₂.look.symbol = .semicolon := by rw [← h.look_eq]; exact hc
    rw [moreStatements, if_pos hc, moreStatements, if_pos hc₂]
    exact andThen_alike (expect_alike h _ _) fun _ a₁ a₂ ha _ _ _ hA =>
      bind_alike (hstmt a₁ ha a₂ hA) fun _ b₁ b₂ hb _ _ _ hB => hrest a₁ ha b₁ hb b₂ hB
  case case3 =>
    intro c hc c₂ h
    have hc₂ : ¬ c₂.look.symbol = .semicolon := by rw [← h.look_eq]; exact hc
    rw [moreStatements, if_neg hc, moreStatements, if_neg hc₂]
    exact stay_alike h
  case case4 =>
    intro c hif hwhile huntil hfor c₂ h
    obtain ⟨l, f₁, f₂, rfl, rfl⟩ := h.cases
    rw [statement, statement]
    refine bracket_alike _ ?_
    dsimp only
    split
    · exact assignment_alike h
    · exact hif _ h
    · exact hwhile _ h
    · exact procedureStatement_alike h
    · exact huntil _ h
    · exact hfor _ h
    · exact reject_alike h _
  case case5 =>
    intro c hbody c₂ h
    rw [forStatement, forStatement]
    refine bracket_alike _ <| andThen_alike (expect_alike h _ _) fun _ a₁ a₂ ha _ _ _ hA =>
      andThen_alike (expect_alike hA _ _) fun _ b₁ b₂ hb _ _ _ hB => ?_
    refine bind_alike (assignment_alike hB) fun _ d₁ d₂ hd _ _ _ hD =>
      andThen_alike (expect_alike hD _ _) fun _ e₁ e₂ he _ _ _ hE => ?_
    refine bind_alike (condition_alike hE) fun _ g₁ g₂ hg _ _ _ hG =>
      andThen_alike (expect_alike hG _ _) fun _ i₁ i₂ hi _ _ _ hI => ?_
    refine bind_alike (assignment_alike hI) fun _ j₁ j₂ hj _ _ _ hJ =>
      andThen_alike (expect_alike hJ _ _) fun _ k₁ k₂ hk _ _ _ hK =>
      andThen_alike (expect_alike hK _ _) fun _ m₁ m₂ hm _ _ _ hM => ?_
    exact bind_alike (hbody a₁ ha b₁ hb d₁ hd e₁ he g₁ hg i₁ hi j₁ hj k₁ hk m₁ hm m₂ hM)
      fun _ n₁ n₂ _ _ _ _ hN => andThen_alike (expect_alike hN _ _) fun _ p₁ p₂ _ _ _ _ hP =>
        expect_alike hP _ _
  case case6 =>
    intro c hbody c₂ h
    rw [untilStatement, untilStatement]
    refine bracket_alike _ <| andThen_alike (expect_alike h _ _) fun _ a₁ a₂ ha _ _ _ hA => ?_
    exact bind_alike (hbody a₁ ha a₂ hA) fun _ b₁ b₂ _ _ _ _ hB =>
      andThen_alike (expect_alike hB _ _) fun _ d₁ d₂ _ _ _ _ hD => condition_alike hD
  case case7 =>
    intro c hbody c₂ h
    rw [whileStatement, whileStatement]
    refine bracket_alike _ <| andThen_alike (expect_alike h _ _) fun _ a₁ a₂ ha _ _ _ hA => ?_
    refine bind_alike (condition_alike hA) fun _ b₁ b₂ hb _ _ _ hB =>
      andThen_alike (expect_alike hB _ _) fun _ d₁ d₂ hd _ _ _ hD => ?_
    exact bind_alike (hbody a₁ ha b₁ hb d₁ hd d₂ hD) fun _ e₁ e₂ _ _ _ _ hE =>
      andThen_alike (expect_alike hE _ _) fun _ g₁ g₂ _ _ _ _ hG => expect_alike hG _ _
  case case8 =>
    intro c hthen helse c₂ h
    rw [ifStatement, ifStatement]
    refine bracket_alike _ <| andThen_alike (expect_alike h _ _) fun _ a₁ a₂ ha _ _ _ hA => ?_
    refine bind_alike (condition_alike hA) fun _ b₁ b₂ hb _ _ _ hB =>
      andThen_alike (expect_alike hB _ _) fun _ d₁ d₂ hd _ _ _ hD => ?_
    refine bind_alike (hthen a₁ ha b₁ hb d₁ hd d₂ hD) fun _ e₁ e₂ he _ _ _ hE => ?_
    refine bind_alike ?_ fun _ g₁ g₂ _ _ _ _ hG =>
      andThen_alike (expect_alike hG _ _) fun _ i₁ i₂ _ _ _ _ hI => expect_alike hI _ _
    -- the `else` part, taken on the same lookahead on both sides
    obtain ⟨l, k₁, k₂, rfl, rfl⟩ := hE.cases
    dsimp only
    split
    · exact andThen_alike (expect_alike hE _ _) fun _ j₁ j₂ hj _ _ _ hJ =>
        helse a₁ ha b₁ hb d₁ hd _ he j₁ hj j₂ hJ
    · exact stay_alike hE

theorem statementPart_alike (h : c₁.Alike c₂) :
    (statementPart c₁).1.Alike (statementPart c₂).1 := by
  rw [statementPart, statementPart]
  refine bracket_alike _ <| andThen_alike (expect_alike h _ _) fun _ a₁ a₂ _ _ _ _ hA => ?_
  exact bind_alike (statementBlock_alike.1 _ _ hA) fun _ b₁ b₂ _ _ _ _ hB => expect_alike hB _ _

/-- **Finishing at alike cursors** gives the same run: the end of input is accepted on both
sides with a token after it, or with the same fault, or both lookaheads are the same
mismatch. -/
theorem finish_alike (evs : List Event) {d₁ d₂ : Cursor} (h : d₁.Alike d₂) :
    finish evs d₁ = finish evs d₂ := by
  have hf := h.feed
  unfold finish
  rw [← h.look_eq]
  by_cases heof : d₁.look.symbol = .eof
  · rw [if_pos heof, if_pos heof]
    cases hf with
    | atEnd _ hans =>
      rcases hq₁ : d₁.feed.pull with ⟨x₁, g₁⟩
      rcases hq₂ : d₂.feed.pull with ⟨x₂, g₂⟩
      rw [hq₁, hq₂] at hans
      rcases hans with ⟨t₁, t₂, rfl, rfl⟩ | hsame
      · rfl
      · dsimp only at hsame
        subst hsame
        cases x₁ <;> rfl
    | next hne _ _ => exact absurd heof hne
  · rw [if_neg heof, if_neg heof]

end Check

/-- **Feeds that answer alike are checked alike.** -/
theorem check_eq_of_alike {f₁ f₂ : Feed} (h : Feed.AlikeFrom f₁ f₂) : check f₁ = check f₂ := by
  obtain ⟨hpull, hnext⟩ := h
  unfold check Cursor.start
  rcases hq₁ : f₁.pull with ⟨x, g₁⟩
  rcases hq₂ : f₂.pull with ⟨x₂, g₂⟩
  rw [hq₁, hq₂] at hpull
  dsimp only at hpull
  subst hpull
  cases x with
  | error e => rfl
  | ok t =>
    -- the first cursors are alike, and so are the outcomes of the statement part
    have hc : Cursor.Alike ⟨t, g₁⟩ ⟨t, g₂⟩ := by
      refine ⟨rfl, ?_⟩
      have := hnext t (by rw [hq₁])
      rwa [hq₁, hq₂] at this
    have ho := Check.statementPart_alike hc
    dsimp only
    rcases hs₁ : (Check.statementPart ⟨t, g₁⟩).1 with ⟨evs, d₁⟩ | ⟨evs, fr, cause⟩ <;>
      rcases hs₂ : (Check.statementPart ⟨t, g₂⟩).1 with ⟨evs', d₂⟩ | ⟨evs', fr', cause'⟩ <;>
      rw [hs₁, hs₂] at ho
    · obtain ⟨rfl, hd⟩ := ho
      exact Check.finish_alike evs hd
    · exact ho.elim
    · exact ho.elim
    · obtain ⟨rfl, rfl, rfl⟩ := ho
      rfl

/-! ## The feed of a text and the feed of its tokens -/

/-- **Tokens, then an end**: a feed of tokens other than the end of input, ending with the
end-of-input token `e`, answers alike with the feed of the same tokens followed by `e` and
then any ending that gives tokens. -/
theorem Feed.alikeFrom_append_eof {e : Token} {E₁ E₂ : Ending} (he : e.symbol = .eof)
    (hE₁ : E₁.answer = .ok e) (hE₂ : ∃ u, E₂.answer = .ok u) :
    ∀ (ts : List Token), (∀ t ∈ ts, t.symbol ≠ .eof) →
      Feed.AlikeFrom ⟨ts.map .ok, E₁⟩ ⟨(ts ++ [e]).map .ok, E₂⟩
  | [], _ => by
    refine ⟨by simp [Feed.pull, hE₁], fun t ht => ?_⟩
    simp only [List.map_nil, Feed.pull, hE₁, Except.ok.injEq] at ht
    subst ht
    -- after the end of input, both feeds give a token
    obtain ⟨u, hu⟩ := hE₂
    exact .atEnd he (.inl ⟨e, u, by simp [Feed.pull, hE₁], by simp [Feed.pull, hu]⟩)
  | a :: ts, hts => by
    refine ⟨by simp [Feed.pull], fun t ht => ?_⟩
    simp only [List.map_cons, Feed.pull, Except.ok.injEq] at ht
    subst ht
    obtain ⟨hpull, hnext⟩ := Feed.alikeFrom_append_eof he hE₁ hE₂ ts
      (fun t hm => hts t (List.mem_cons_of_mem _ hm))
    exact .next (hts _ List.mem_cons_self) hpull hnext

/-- **A text that lexes without a fault is checked as its token list is.** -/
theorem checkText_eq_check_tokens {s : String} (h : (lex s).toList.2 = none) :
    checkText s = check (Feed.ofItems ((lex s).toList.1.map .ok)) := by
  have hl := lex_wellEnded s
  cases hstop : (lex s).stop with
  | error e => simp [Lexing.toList, hstop] at h
  | ok e =>
    have htoList : (lex s).toList.1 = (lex s).tokens ++ [e] := by simp [Lexing.toList, hstop]
    have heof : Token.eofAt e.pos = e := hl.stop_eof e hstop
    have hfeed : Feed.ofText s = ⟨(lex s).tokens.map .ok, .eof e.line e.col⟩ := by
      rw [Feed.ofText, Feed.ofLexing, hstop]
    rw [checkText, hfeed, htoList, Feed.ofItems]
    refine check_eq_of_alike (Feed.alikeFrom_append_eof ?_ ?_ ⟨_, rfl⟩ _ hl.tokens_ne_eof)
    · rw [← heof]
      rfl
    · conv_rhs => rw [← heof]
      rfl

/-- **The feed of a stream pulls its head** and leaves the feed of its tail: a fault comes
as a lexical fault. -/
theorem Feed.ofLexing_pull {l : Lexing} (hl : l.WellEnded) :
    (Feed.ofLexing l).pull = (l.head.mapError .lexical, Feed.ofLexing l.tail) := by
  obtain ⟨ts, stop⟩ := l
  cases ts with
  | cons t ts => cases stop <;> rfl
  | nil =>
    cases stop with
    | ok e =>
      -- the end-of-input token of a well-ended stream is the one its feed repeats
      have heof : Token.eofAt e.pos = e := hl.stop_eof e rfl
      conv_rhs => rw [← heof]
      rfl
    | error e => rfl

/-- **The lexer is a cursor over the stream of its text.** The stream of a text read from
any place is its tokens, none of them the end of input, then the end-of-input token with
empty text or a fault; a lexer started there answers every sequence of calls as the cursor
over that stream does; the feed of the stream, which a check pulls from, gives its head and
then the feed of its tail; and a text that lexes without a fault is checked exactly as its
token list is. -/
theorem lexer_cursor_refines (s : String) (p : Pos) (ks : List Lexer.Call) :
    (lexAt s p).WellEnded ∧
    (Lexer.start s p).replies ks = (lexAt s p).replies ks ∧
    (Feed.ofLexing (lexAt s p)).pull =
      ((lexAt s p).head.mapError .lexical, Feed.ofLexing (lexAt s p).tail) ∧
    ((lex s).toList.2 = none → checkText s = check (Feed.ofItems ((lex s).toList.1.map .ok))) := by
  have hwell : (lexAt s p).WellEnded := Lexer.drainText_wellEnded _
  refine ⟨hwell, ?_, Feed.ofLexing_pull hwell, checkText_eq_check_tokens⟩
  -- a fresh lexer has nothing read ahead, and its stream is the stream of its text
  exact Lexer.replies_eq_of_coherent (Lexer.coherent_of_none rfl) ks

end ImpSyntax
