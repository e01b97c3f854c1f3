import Mathlib
import ImpSyntax.Proofs.LexerStream

/-!
# Where the lexer puts its tokens

The lexer counts places as it reads: a line feed starts a new line, any other character
moves one column on. Every token it reads and every fault it meets stands where its place
says, on one line: the text is `pre ++ x ++ post`, the place is the one after `pre`, and
`x`, the token's text or the fault's offending text, holds no line feed
(`Source.StandsAt`). The end-of-input token stands after the whole text.

The invariant that carries this is `Lexer.Inside`: the lexer's place is the place after
what it has consumed. One read keeps it and places what it gives (`read_placed`), so
draining a text places every token and its end (`lex_placed`). A lexeme holds no line
feed because the gap in front of it swallows every line feed, and no lexeme runs over one:
punctuation marks, numbers and words hold none, and a string constant stops at the end of
its line, open or closed.

The feed of a text answers only what the lexer read, so every answer it gives is placed
(`Feed.ofText_pulls_placed`).
-/

namespace ImpSyntax

namespace Source

/-- **`x` stands on one line of `src` at place `p`**: `src` is `pre ++ x ++ post`, `p` is
the place after `pre`, and `x` holds no line feed. -/
def StandsAt (src : List Char) (p : Pos) (x : List Char) : Prop :=
  ∃ pre post, src = pre ++ x ++ post ∧ p = Pos.origin.past pre ∧ '\n' ∉ x

/-- **What a read of `src` gives stands where it says**: a token at its place with its
text, and the end of input, with no text, after the whole text; a fault at its place with
its offending text. -/
def Placed (src : List Char) : Except LexError Token → Prop
  | .ok t =>
    StandsAt src t.pos t.text.toList ∧
      (t.symbol = .eof → t.text = "" ∧ t.pos = Pos.origin.past src)
  | .error e => StandsAt src ⟨e.line, e.col⟩ e.text.toList

end Source

namespace Lexer

/-- **A lexer inside the text `src`**: what it has left is the rest of `src` after some
`done`, and its place is the place after `done`. -/
def Inside (src : List Char) (lx : Lexer) : Prop :=
  ∃ done, src = done ++ lx.rest ∧ lx.pos = Pos.origin.past done

theorem start_inside (s : String) : (start s Pos.origin).Inside s.toList :=
  ⟨[], rfl, rfl⟩

/-! ## No lexeme runs over a line feed -/

/-- The character after a gap is no line feed: the gap takes every blank. -/
theorem ne_newline_of_gap {cs rest : List Char} {c : Char}
    (h : cs.drop (gapLength false cs) = c :: rest) : c ≠ '\n' := by
  have hgap : gapLength false (c :: rest) = 0 := h ▸ gapLength_drop false cs
  rintro rfl
  simp [gapLength, isBlank] at hgap

/-- A punctuation mark is one of the table's, and none of them holds a line feed. -/
theorem punctuationAt?_line {cs : List Char} {s : Symbol} {n : Nat}
    (h : punctuationAt? cs = some (s, n)) : '\n' ∉ cs.take n := by
  rcases foldl_longerMark_mem cs _ none _ h with h | ⟨p, hp, -, hpre, hlen⟩
  · cases h
  · have marks_line : ∀ p ∈ Symbol.marks, '\n' ∉ p.1.toList := by decide
    have htake : cs.take n = p.1.toList := by
      simp only at hlen
      rw [List.prefix_iff_eq_take.1 hpre, String.length_toList, hlen]
    rw [htake]
    exact marks_line p hp

/-- A number constant holds digits and at most one point. -/
theorem numberLength_line (cs : List Char) : '\n' ∉ cs.take (numberLength cs) := by
  have digits_line : ∀ l : List Char, '\n' ∉ l.takeWhile isAsciiDigit := fun l h => by
    simpa [isAsciiDigit] using List.mem_takeWhile_imp h
  have htake : ∀ l : List Char, l.take (l.takeWhile isAsciiDigit).length = l.takeWhile isAsciiDigit :=
    fun l => (List.prefix_iff_eq_take.1 (List.takeWhile_prefix isAsciiDigit)).symm
  unfold numberLength
  dsimp only
  split
  · rename_i d rest hd
    split
    · rename_i hdig
      obtain ⟨D, hD⟩ : ∃ D, cs.takeWhile isAsciiDigit = D := ⟨_, rfl⟩
      have hcs : cs = D ++ '.' :: d :: rest := by
        have := List.take_append_drop (cs.takeWhile isAsciiDigit).length cs
        rw [htake, hd, hD] at this
        exact this.symm
      have hDline : '\n' ∉ D := hD ▸ digits_line cs
      have hdline : d ≠ '\n' := by rintro rfl; simp [isAsciiDigit] at hdig
      rw [hD, hcs, show D.length + 2 + (rest.takeWhile isAsciiDigit).length =
          D.length + ((rest.takeWhile isAsciiDigit).length + 1 + 1) by omega,
        List.take_length_add_append, List.take_succ_cons, List.take_succ_cons, htake]
      simp [hDline, hdline.symm, digits_line rest]
    · rw [htake]
      exact digits_line cs
  · rw [htake]
    exact digits_line cs

/-- A closed string constant runs from its quote to the next one on its line. -/
theorem stringAt_line {cs : List Char} {n : Nat} (h : stringAt cs = .ok n) :
    '\n' ∉ ('"' :: cs).take n := by
  unfold stringAt at h
  dsimp only at h
  split at h
  · rename_i rest hd
    simp only [Except.ok.injEq] at h
    subst h
    obtain ⟨B, hB⟩ : ∃ B, cs.takeWhile (fun c => c != '"' && c != '\n') = B := ⟨_, rfl⟩
    have hcs : cs = B ++ '"' :: rest := by
      have := List.take_append_drop B.length cs
      rw [← hB, ← List.prefix_iff_eq_take.1 (List.takeWhile_prefix _), hB] at this
      rw [← this, ← hB, hd]
    have hBline : '\n' ∉ B := fun hm =>
      absurd (List.mem_takeWhile_imp (hB ▸ hm)) (by decide)
    rw [hB, hcs, List.take_succ_cons, show B.length + 1 = B.length + (0 + 1) from rfl,
      List.take_length_add_append, List.take_succ_cons]
    simp [hBline]
  · cases h

/-- An open string constant is reported with the rest of its line. -/
theorem stringAt_fault {cs : List Char} {r : String} (h : stringAt cs = .error r) :
    r.toList <+: '"' :: cs ∧ '\n' ∉ r.toList := by
  unfold stringAt at h
  dsimp only at h
  split at h
  · cases h
  · simp only [Except.error.injEq] at h
    subst h
    simp only [String.toList_ofList]
    refine ⟨List.cons_prefix_cons.2 ⟨rfl, List.takeWhile_prefix _⟩, ?_⟩
    intro hm
    rcases List.mem_cons.1 hm with hq | hm
    · cases hq
    · simpa using List.mem_takeWhile_imp hm

/-- A word is an identifier start and identifier characters, none of them a line feed. -/
theorem word_line {c : Char} (cs : List Char) (hc : c ≠ '\n') :
    '\n' ∉ (c :: cs).take ((cs.takeWhile Text.isIdentPart).length + 1) := by
  have newline_part : Text.isIdentPart '\n' = false := by decide
  rw [List.take_succ_cons, ← List.prefix_iff_eq_take.1 (List.takeWhile_prefix _)]
  intro hm
  rcases List.mem_cons.1 hm with hq | hm
  · exact hc hq.symm
  · have := List.mem_takeWhile_imp hm
    rw [newline_part] at this
    cases this

/-- **A lexeme holds no line feed.** -/
theorem lexemeAt_line {c : Char} {cs : List Char} {s : Symbol} {n : Nat}
    (h : lexemeAt c cs = .ok (s, n)) (hc : c ≠ '\n') : '\n' ∉ (c :: cs).take n := by
  unfold lexemeAt at h
  split at h
  · rename_i hp
    cases h
    exact punctuationAt?_line hp
  · split at h
    · rename_i hq
      split at h
      · rename_i m hm
        cases h
        rw [show c = '"' by simpa using hq]
        exact stringAt_line hm
      · cases h
    · split at h
      · cases h
        exact numberLength_line _
      · split at h
        · simp only [Except.ok.injEq, Prod.mk.injEq] at h
          obtain ⟨-, rfl⟩ := h
          exact word_line cs hc
        · cases h

/-- **A fault is reported with the text in front of the lexer**, which holds no line
feed: the character that starts nothing, or the rest of the line of an open string. -/
theorem lexemeAt_fault {c : Char} {cs : List Char} {f : LexFault}
    (h : lexemeAt c cs = .error f) (hc : c ≠ '\n') :
    f.text.toList <+: c :: cs ∧ '\n' ∉ f.text.toList := by
  unfold lexemeAt at h
  split at h
  · cases h
  · split at h
    · rename_i hq
      split at h
      · cases h
      · rename_i r hr
        cases h
        rw [show c = '"' by simpa using hq]
        exact stringAt_fault hr
    · split at h
      · cases h
      · split at h
        · cases h
        · cases h
          simp only [LexFault.text, String.toList_singleton]
          exact ⟨List.cons_prefix_cons.2 ⟨rfl, List.nil_prefix⟩, by simpa using hc.symm⟩

/-! ## Reading keeps the lexer inside its text -/

/-- **One read places what it gives and keeps the lexer inside its text**: the gap and the
lexeme move to what is consumed, and the place moves over them. -/
theorem read_placed {src : List Char} {lx : Lexer} (h : lx.Inside src) :
    lx.read.2.Inside src ∧ Source.Placed src lx.read.1 := by
  obtain ⟨done, hsrc, hpos⟩ := h
  -- after the gap: the text is `done'` and what is left, and the place is the one after `done'`
  obtain ⟨done', hsrc', hpos'⟩ : ∃ done', src = done' ++ lx.rest.drop (gapLength false lx.rest) ∧
      lx.pos.past (lx.rest.take (gapLength false lx.rest)) = Pos.origin.past done' :=
    ⟨done ++ lx.rest.take (gapLength false lx.rest), by simp [hsrc],
      by rw [hpos, Pos.past_append]⟩
  unfold read
  dsimp only
  split
  · -- the end of the text
    rename_i hd
    rw [hd, List.append_nil] at hsrc'
    refine ⟨⟨done', by simp [hsrc'], hpos'⟩, ⟨done', [], by simp [hsrc', Token.eofAt], ?_, ?_⟩,
      fun _ => ?_⟩ <;> simp [Token.eofAt, Token.pos, hpos', hsrc']
  · rename_i c cs hd
    have hc := ne_newline_of_gap hd
    rw [hd] at hsrc'
    split
    · -- a fault, in front of the offending text
      rename_i f hf
      obtain ⟨hpre, hline⟩ := lexemeAt_fault hf hc
      obtain ⟨post, hpost⟩ := hpre
      refine ⟨⟨done', hsrc', hpos'⟩, done', post, ?_, by rw [← hpos'], hline⟩
      rw [hsrc', ← hpost, List.append_assoc]
      rfl
    · -- a token, whose lexeme moves to what is consumed
      rename_i sym n hl
      refine ⟨⟨done' ++ (c :: cs).take n, ?_, ?_⟩, ⟨done', (c :: cs).drop n, ?_, ?_, ?_⟩,
        fun heof => absurd heof (lexemeAt_ne_eof hl)⟩
      · simp [hsrc']
      · simp [hpos', Pos.past_append]
      · simp [hsrc']
      · simp [Token.pos, hpos']
      · simpa using lexemeAt_line hl hc

/-- **Draining places every token and the end**, from a lexer inside its text; the
invariant passes from read to read. -/
theorem drainText_placed {src : List Char} {lx : Lexer} (h : lx.Inside src) :
    (∀ t ∈ (drainText lx).1.tokens, Source.Placed src (.ok t)) ∧
      Source.Placed src (drainText lx).1.stop := by
  fun_induction drainText lx with
  | case1 lx e lx' hr =>
    have hstep := read_placed h
    rw [hr] at hstep
    exact ⟨by simp, hstep.2⟩
  | case2 lx t lx' hr ht =>
    have hstep := read_placed h
    rw [hr] at hstep
    exact ⟨by simp, hstep.2⟩
  | case3 lx t lx' hr ht r ih =>
    have hstep := read_placed h
    rw [hr] at hstep
    obtain ⟨htokens, hstop⟩ := ih hstep.1
    refine ⟨fun t' ht' => ?_, hstop⟩
    rcases List.mem_cons.1 ht' with rfl | ht'
    · exact hstep.2
    · exact htokens t' ht'

end Lexer

/-- **Every token of a text and its end stand where their places say.** -/
theorem lex_placed (s : String) :
    (∀ t ∈ (lex s).tokens, Source.Placed s.toList (.ok t)) ∧
      Source.Placed s.toList (lex s).stop :=
  Lexer.drainText_placed (Lexer.start_inside s)

namespace Feed

/-- **A feed answers its items, then its ending.** -/
theorem mem_pulls {f : Feed} {n : Nat} {x : Except Fault Token} (h : x ∈ f.pulls n) :
    x ∈ f.items ∨ x = f.ending.answer := by
  induction n generalizing f with
  | zero => cases h
  | succ n ih =>
    obtain ⟨items, ending⟩ := f
    rw [pulls_succ] at h
    cases items with
    | nil =>
      rcases List.mem_cons.1 h with h | h
      · exact .inr h
      · exact ih h
    | cons y rest =>
      rcases List.mem_cons.1 h with h | h
      · exact .inl (h ▸ List.mem_cons_self)
      · exact (ih h).imp_left (List.mem_cons_of_mem y)

/-- **The feed of a text answers only what the lexer read**: every answer is a token or a
fault of the lexer, placed in the text. -/
theorem ofText_pulls_placed {s : String} {n : Nat} {x : Except Fault Token}
    (h : x ∈ (Feed.ofText s).pulls n) :
    ∃ y, Source.Placed s.toList y ∧ x = y.mapError .lexical := by
  obtain ⟨htokens, hstop⟩ := lex_placed s
  -- an answer of the items is a token of the lexer
  have of_items : x ∈ (lex s).tokens.map .ok → ∃ y, Source.Placed s.toList y ∧
      x = y.mapError .lexical := fun hx => by
    obtain ⟨t, ht, rfl⟩ := List.mem_map.1 hx
    exact ⟨.ok t, htokens t ht, rfl⟩
  cases hs : (lex s).stop with
  | ok t =>
    simp only [ofText, ofLexing, hs] at h
    rw [hs] at hstop
    rcases mem_pulls h with hx | hx
    · exact of_items hx
    · -- the ending answers the end-of-input token the lexer stopped at
      have heof : Token.eofAt t.pos = t := (lex_wellEnded s).stop_eof t hs
      exact ⟨.ok t, hstop, by rw [hx, ← heof]; rfl⟩
  | error e =>
    simp only [ofText, ofLexing, hs] at h
    rw [hs] at hstop
    rcases mem_pulls h with hx | hx
    · exact of_items hx
    · exact ⟨.error e, hstop, hx⟩

end Feed

end ImpSyntax
