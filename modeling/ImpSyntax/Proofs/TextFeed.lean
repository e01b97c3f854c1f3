import ImpSyntax.Proofs.Grammar
import ImpSyntax.Proofs.Reading

/-!
# The feed of a text

The lexer reads a text to its end: tokens, then the end-of-input token or a fault. None of
its tokens is the end of input, and where no fault stops it, the token at its end is the
end-of-input token with empty text, at the place the text ends (`lex_wellEnded`). The feed
of the text answers the tokens, then that end-of-input token on every later pull, or the
fault on every later pull.

What a feed of prepared tokens gives up to its first end of input is therefore a prefix of
its tokens, or all of them and then the token of its ending (`Feed.prefix_of_pulls`). For
a text: a prefix of the tokens the lexer read, or the whole token list of a text that lexes
without a fault (`Lexing.WellEnded.prefix_of_pulls`).
-/

namespace ImpSyntax

namespace Lexer

/-- The search for the longest mark keeps what it started with, or a mark of the table
that the text starts with, with its symbol and its length. -/
theorem foldl_longerMark_mem (cs : List Char) (l : List (String × Symbol))
    (b : Option (Symbol × Nat)) (x : Symbol × Nat) (h : l.foldl (longerMark cs) b = some x) :
    b = some x ∨ ∃ p ∈ l, p.2 = x.1 ∧ p.1.toList <+: cs ∧ p.1.length = x.2 := by
  induction l generalizing b with
  | nil => exact .inl h
  | cons p l ih =>
    rcases ih _ h with hb | ⟨q, hq, hqx⟩
    · unfold longerMark at hb
      split at hb
      · rename_i hpre
        simp only [Bool.and_eq_true] at hpre
        simp only [Option.some.injEq] at hb
        subst hb
        exact .inr ⟨p, List.mem_cons_self, rfl, List.isPrefixOf_iff_prefix.1 hpre.1, rfl⟩
      · exact .inl hb
    · exact .inr ⟨q, List.mem_cons_of_mem _ hq, hqx⟩

theorem punctuationAt?_ne_eof {cs : List Char} {s : Symbol} {n : Nat}
    (h : punctuationAt? cs = some (s, n)) : s ≠ .eof := by
  rcases foldl_longerMark_mem cs _ none _ h with h | ⟨p, hp, hps, -⟩
  · cases h
  · have marks_ne_eof : ∀ p ∈ Symbol.marks, p.2 ≠ .eof := by decide
    exact fun hs => marks_ne_eof p hp (hps.trans hs)

theorem keyword?_ne_eof {w : String} {s : Symbol} (h : Symbol.keyword? w = some s) :
    s ≠ .eof := by
  have hk := List.find?_some h
  rintro rfl
  simp [Symbol.isKeyword] at hk

/-- **No lexeme is the end of input.** -/
theorem lexemeAt_ne_eof {c : Char} {cs : List Char} {s : Symbol} {n : Nat}
    (h : lexemeAt c cs = .ok (s, n)) : s ≠ .eof := by
  unfold lexemeAt at h
  split at h
  · rename_i hp
    cases h
    exact punctuationAt?_ne_eof hp
  · split at h
    · split at h
      · cases h
        decide
      · cases h
    · split at h
      · cases h
        decide
      · split at h
        · simp only [Except.ok.injEq, Prod.mk.injEq] at h
          obtain ⟨rfl, -⟩ := h
          cases hk : Symbol.keyword? _ with
          | none => decide
          | some k => exact keyword?_ne_eof hk
        · cases h

/-- **A read gives the end of input only at the end of the text**, as the end-of-input
token with empty text. -/
theorem read_eof {lx lx' : Lexer} {t : Token} (h : lx.read = (.ok t, lx'))
    (ht : t.symbol = .eof) : Token.eofAt t.pos = t := by
  unfold read at h
  dsimp only at h
  split at h
  · simp only [Prod.mk.injEq, Except.ok.injEq] at h
    obtain ⟨rfl, -⟩ := h
    rfl
  · split at h
    · simp at h
    · rename_i s n hl
      simp only [Prod.mk.injEq, Except.ok.injEq] at h
      obtain ⟨rfl, -⟩ := h
      exact absurd ht (lexemeAt_ne_eof hl)

end Lexer

/-- **A well-ended lexing**: none of its tokens is the end of input, and where no fault
stops it, it ends at the end-of-input token with empty text. -/
structure Lexing.WellEnded (l : Lexing) : Prop where
  tokens_ne_eof : ∀ t ∈ l.tokens, t.symbol ≠ .eof
  stop_eof : ∀ t, l.stop = .ok t → Token.eofAt t.pos = t

/-- Draining a text with nothing read ahead leaves a well-ended lexing. -/
theorem Lexer.drainText_wellEnded (lx : Lexer) : (drainText lx).1.WellEnded := by
  fun_induction drainText lx with
  | case1 lx e lx' h => exact ⟨by simp, by simp⟩
  | case2 lx t lx' h ht =>
    refine ⟨by simp, fun t' h' => ?_⟩
    cases h'
    exact read_eof h ht
  | case3 lx t lx' h ht r ih =>
    refine ⟨?_, ih.stop_eof⟩
    intro t' ht'
    rcases List.mem_cons.1 ht' with rfl | ht'
    · exact ht
    · exact ih.tokens_ne_eof t' ht'

/-- **The lexing of a text is well ended.** -/
theorem lex_wellEnded (s : String) : (lex s).WellEnded :=
  Lexer.drainText_wellEnded _

/-- The answer of an ending is the end of input, when it is a token. -/
theorem Ending.symbol_of_answer {e : Ending} {t : Token} (h : e.answer = .ok t) :
    t.symbol = .eof := by
  cases e with
  | eof l c =>
    cases h
    rfl
  | fault f => cases h

namespace Feed

theorem pulls_nil_items (e : Ending) (n : Nat) :
    (Feed.mk [] e).pulls n = List.replicate n e.answer := by
  induction n with
  | zero => rfl
  | succ n ih =>
    rw [pulls_succ, List.replicate_succ, ← ih]
    rfl

theorem pulls_append_items (xs ys : List (Except Fault Token)) (e : Ending) (n : Nat) :
    (Feed.mk (xs ++ ys) e).pulls (xs.length + n) = xs ++ (Feed.mk ys e).pulls n := by
  induction xs with
  | nil => simp
  | cons x xs ih =>
    rw [List.length_cons, Nat.add_right_comm, pulls_succ]
    show x :: (Feed.mk (xs ++ ys) e).pulls (xs.length + n) = _
    rw [ih]
    rfl

/-- **A feed of tokens, read up to its first end of input**, gives a prefix of its tokens,
or all of them and then the token its ending answers. -/
theorem prefix_of_pulls {tokens ws : List Token} {e : Ending}
    (htok : ∀ t ∈ tokens, t.symbol ≠ .eof) (hws : Symbol.eof ∉ (ws.map Token.symbol).dropLast)
    (h : (Feed.mk (tokens.map .ok) e).pulls ws.length = ws.map .ok) :
    ws <+: tokens ∨ ∃ t, ws = tokens ++ [t] ∧ e.answer = .ok t := by
  induction tokens generalizing ws with
  | nil =>
    rw [List.map_nil, pulls_nil_items] at h
    match ws, h, hws with
    | [], _, _ => exact .inl List.nil_prefix
    | [t], h, _ => exact .inr ⟨t, rfl, by simpa using h⟩
    | t :: t' :: ws, h, hws =>
      -- the ending answers the same token twice, an end of input before the last place
      simp only [List.length_cons, List.replicate_succ, List.map_cons, List.cons.injEq] at h
      have heof := Ending.symbol_of_answer h.1
      simp [heof] at hws
  | cons t₀ tokens ih =>
    cases ws with
    | nil => exact .inl List.nil_prefix
    | cons w ws =>
      rw [List.length_cons, pulls_succ] at h
      simp only [List.map_cons, List.cons.injEq] at h
      obtain ⟨h₁, h₂⟩ := h
      have hw : t₀ = w := by
        simpa [Feed.pull] using h₁
      have hws' : Symbol.eof ∉ (ws.map Token.symbol).dropLast := by
        cases ws with
        | nil => simp
        | cons a ws =>
          intro hm
          apply hws
          simp only [List.map_cons, List.dropLast_cons_cons] at hm ⊢
          exact List.mem_cons_of_mem _ hm
      rcases ih (fun t ht => htok t (List.mem_cons_of_mem _ ht)) hws' h₂ with hp | ⟨t, rfl, he⟩
      · exact .inl (hw ▸ List.cons_prefix_cons.2 ⟨rfl, hp⟩)
      · exact .inr ⟨t, by rw [hw]; rfl, he⟩

end Feed

/-- The tokens before the end start the token list. -/
theorem Lexing.tokens_prefix (l : Lexing) : l.tokens <+: l.toList.1 := by
  unfold toList
  split
  · exact List.prefix_append _ _
  · exact List.prefix_refl _

namespace Lexing.WellEnded

variable {l : Lexing}

/-- **The feed of a text, read up to its first end of input**, gives a prefix of the
tokens the lexer read, or its whole token list, when no fault stopped it. -/
theorem prefix_of_pulls (hl : l.WellEnded) {ws : List Token}
    (hws : Symbol.eof ∉ (ws.map Token.symbol).dropLast)
    (h : (Feed.ofLexing l).pulls ws.length = ws.map .ok) :
    ws <+: l.tokens ∨ l.toList = (ws, none) := by
  obtain ⟨tokens, stop⟩ := l
  cases stop with
  | error e =>
    have h' : (Feed.mk (tokens.map .ok) (.fault (.lexical e))).pulls ws.length =
        ws.map .ok := h
    rcases Feed.prefix_of_pulls hl.tokens_ne_eof hws h' with hp | ⟨t, -, he⟩
    · exact .inl hp
    · cases he
  | ok t =>
    have h' : (Feed.mk (tokens.map .ok) (.eof t.line t.col)).pulls ws.length = ws.map .ok := h
    rcases Feed.prefix_of_pulls hl.tokens_ne_eof hws h' with hp | ⟨t', rfl, he⟩
    · exact .inl hp
    · -- the ending answers the token the lexer ended at
      have ht : Token.eofAt t.pos = t' := by
        simpa [Ending.answer, Token.eofAt, Token.pos] using he
      rw [hl.stop_eof t rfl] at ht
      subst ht
      exact .inr rfl

/-- A word of tokens that is a sentence ends with the end of input, which the lexer's
tokens do not hold. -/
theorem not_prefix_of_sentence (hl : l.WellEnded) {ws : List Token}
    (hw : ws.map Token.symbol ∈ sentences) : ¬ ws <+: l.tokens := by
  intro hp
  obtain ⟨u, -, hu⟩ := mem_sentences.1 hw
  have heof : Symbol.eof ∈ ws.map Token.symbol := by simp [hu]
  obtain ⟨t, ht, hteof⟩ := List.mem_map.1 heof
  exact hl.tokens_ne_eof t (hp.subset ht) hteof

/-- **The feed of a text without a fault** gives its token list and then its last token
again. -/
theorem pulls_toList (hl : l.WellEnded) {t : Token} (h : l.stop = .ok t) :
    (Feed.ofLexing l).pulls (l.toList.1.length + 1) = l.toList.1.map .ok ++ [.ok t] := by
  obtain ⟨tokens, stop⟩ := l
  subst h
  have hfeed : Feed.ofLexing ⟨tokens, .ok t⟩ = Feed.mk (tokens.map .ok) (.eof t.line t.col) :=
    rfl
  have hanswer : (Ending.eof t.line t.col).answer = .ok t := by
    show Except.ok (Token.eofAt t.pos) = _
    rw [hl.stop_eof t rfl]
  have hpulls := Feed.pulls_append_items (tokens.map .ok) [] (.eof t.line t.col) 2
  rw [List.append_nil, Feed.pulls_nil_items, List.length_map, hanswer] at hpulls
  simp only [Lexing.toList, List.length_append, List.length_singleton, hfeed, Nat.add_assoc]
  rw [hpulls]
  simp

end Lexing.WellEnded

end ImpSyntax
