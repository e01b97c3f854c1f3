import Mathlib
import ImpSyntax.Proofs.Tiling
import ImpSyntax.Proofs.TextFeed

/-!
# Tokens written apart lex as themselves

Write the tokens of a text one after another, with one space between each two and nothing
else. The new text lexes to the same tokens, symbol and text alike, and then to the end of
input; only their places change.

Two facts make it so. No lexeme holds a space, so a lexeme followed by a space or by the
end is still the longest of its class there (`Lexeme.spaced`). And a lexeme never starts a
gap: it starts with no blank, and with `--` only if it is longer than one character and so
in any text (`not_gapStart_spaced`). The space in front of a lexeme is then the whole gap,
and each tile of the new text is a space and a lexeme (`lexes_spaced`).
-/

namespace ImpSyntax

namespace Lexer

/-- The text is empty or starts with a space. -/
def AtSpace (r : List Char) : Prop := ∀ c ∈ r.head?, c = ' '

/-! ## No lexeme holds a space -/

theorem space_not_mem_of_isMark {w : List Char} (hw : IsMark w) : ' ' ∉ w := by
  have hall : Symbol.marks.all (fun p => !p.1.toList.contains ' ') = true := by decide
  obtain ⟨s, hkw, hsp⟩ := hw
  have hmem : (String.ofList w, s) ∈ Symbol.marks := mem_marks.2 ⟨hkw, hsp⟩
  simpa using List.all_eq_true.1 hall _ hmem

theorem space_not_mem_of_isWord {w : List Char} (hw : IsWord w) : ' ' ∉ w := by
  have hstart : Text.isIdentStart ' ' = false := by decide
  have hpart : Text.isIdentPart ' ' = false := by decide
  match w, hw with
  | c :: cs, ⟨hc, hcs⟩ =>
    rintro (_ | ⟨_, hmem⟩)
    · exact absurd hc (by simp [hstart])
    · exact absurd (hcs ' ' hmem) (by simp [hpart])

theorem space_not_mem_of_isNumber {w : List Char} (hw : IsNumber w) : ' ' ∉ w := by
  have digits : ∀ {d : List Char}, Digits d → ' ' ∉ d := fun hd hmem => by
    simpa using hd.2 ' ' hmem
  cases hw with
  | whole hd => exact digits hd
  | point hd he =>
    simp only [List.mem_append, List.mem_cons, not_or]
    exact ⟨digits hd, by decide, digits he⟩

/-! ## A lexeme before a space or the end -/

/-- **A member of a class without spaces is the longest one before a space or the end**: a
longer member would go on past the lexeme, into the space. -/
theorem Longest.of_atSpace {P : List Char → Prop} (hP : ∀ y, P y → ' ' ∉ y)
    {x r : List Char} (hx : P x) (hr : AtSpace r) : Longest P x r := by
  refine ⟨hx, fun y hy hPy => Nat.le_of_not_lt fun hlt => ?_⟩
  obtain ⟨z, rfl⟩ := List.prefix_of_prefix_length_le (List.prefix_append x r) hy hlt.le
  rw [List.prefix_append_right_inj] at hy
  obtain ⟨c, z', rfl⟩ := List.exists_cons_of_ne_nil (show z ≠ [] by rintro rfl; simp at hlt)
  -- the first character after the lexeme is the space that `r` starts with
  have hc : c = ' ' := by
    obtain ⟨t, rfl⟩ := hy
    exact hr c (by simp)
  exact hP _ hPy (List.mem_append_right x (hc ▸ List.mem_cons_self))

/-- **A lexeme stays one before a space or the end.** -/
theorem Lexeme.spaced {s : Symbol} {x r r' : List Char} (h : Lexeme s x r) (hnext : AtSpace r') :
    Lexeme s x r' := by
  cases h with
  | mark hkw hsp hl =>
    exact .mark hkw hsp (Longest.of_atSpace (fun _ => space_not_mem_of_isMark) hl.1 hnext)
  | keyword hkw hsp hl =>
    exact .keyword hkw hsp (Longest.of_atSpace (fun _ => space_not_mem_of_isWord) hl.1 hnext)
  | ident hkw hl =>
    exact .ident hkw (Longest.of_atSpace (fun _ => space_not_mem_of_isWord) hl.1 hnext)
  | number hl => exact .number (Longest.of_atSpace (fun _ => space_not_mem_of_isNumber) hl.1 hnext)
  | string hq hn => exact .string hq hn

/-! ## Gaps of spaces -/

/-- No gap starts where a whole gap ends. -/
theorem Gap.not_gapStart {g r : List Char} (h : Gap g r) : ¬ GapStart r := by
  induction h with
  | stop h => exact h
  | blank _ _ ih => exact ih
  | comment _ _ _ ih => exact ih

/-- **What starts no gap in front of one text starts none in front of a space or the end**:
the first character is the same, and a `--` at the front lies inside it unless it is one
`-` long, when a space or the end comes next. -/
theorem not_gapStart_spaced {x r r' : List Char} (hx : x ≠ []) (h : ¬ GapStart (x ++ r))
    (hnext : AtSpace r') : ¬ GapStart (x ++ r') := by
  obtain ⟨c, x', rfl⟩ := List.exists_cons_of_ne_nil hx
  rw [List.cons_append, gapStart_cons] at h ⊢
  rintro (hb | ⟨hc, hd⟩)
  · exact h (.inl hb)
  · cases x' with
    | nil =>
      rw [List.nil_append] at hd
      exact absurd (hnext '-' hd) (by decide)
    | cons d x'' => exact h (.inr ⟨hc, by simpa using hd⟩)

/-- Spaces in front of a text that starts no gap are the whole gap there. -/
theorem Gap.spaces {g r : List Char} (hg : ∀ c ∈ g, c = ' ') (hr : ¬ GapStart r) :
    Gap g r := by
  induction g with
  | nil => exact .stop hr
  | cons c g ih =>
    have hc : c = ' ' := hg c List.mem_cons_self
    exact .blank (by simp [hc, blanks]) (ih fun a ha => hg a (List.mem_cons_of_mem c ha))

end Lexer

open Lexer

/-! ## The tiling of a text written apart -/

/-- **A token read as a lexeme** in front of some text at which no gap starts: what every
token of a lexing is. -/
def Token.Lexed (t : Token) : Prop :=
  ∃ r, Lexeme t.symbol t.text.toList r ∧ ¬ GapStart (t.text.toList ++ r)

/-- **Every token of a tiling is a lexeme**, read where no gap starts. -/
theorem Lexes.lexed {place : List Char → Pos} {pre cs : List Char} {l : Lexing}
    (h : Lexes place pre cs l) : ∀ t ∈ l.tokens, t.Lexed := by
  induction h with
  | finish _ => simp
  | fault _ _ => simp
  | @token pre g x r s l hg hx _ ih =>
    intro t ht
    rcases List.mem_cons.1 ht with rfl | ht
    · exact ⟨r, by simpa using hx, by simpa using hg.not_gapStart⟩
    · exact ih t ht

/-- The symbol and the text of a token: what is left when its place is put aside. -/
def Token.lexeme (t : Token) : Symbol × String := (t.symbol, t.text)

/-- Texts written apart: the first, then a space and the next, and so on. -/
theorem intercalate_space_cons (x : List Char) (xs : List (List Char)) :
    [' '].intercalate (x :: xs) =
      x ++ ((if xs = [] then [] else [' ']) ++ [' '].intercalate xs) := by
  cases xs with
  | nil => simp
  | cons y ys => simp [List.intercalate_cons_cons]

/-- **Lexemes written apart tile their text**: after spaces, lexemes with one space
between each two lex to those lexemes and then the end of input. -/
theorem lexes_spaced (place : List Char → Pos) (ts : List Token) (hts : ∀ t ∈ ts, t.Lexed)
    (pre g : List Char) (hg : ∀ c ∈ g, c = ' ') :
    ∃ l, Lexes place pre (g ++ [' '].intercalate (ts.map (·.text.toList))) l ∧
      l.tokens.map Token.lexeme = ts.map Token.lexeme ∧ ∃ p, l.stop = .ok (Token.eofAt p) := by
  induction ts generalizing pre g with
  | nil =>
    -- only spaces, and the end of input after them
    have hend : Lexes place pre g ⟨[], .ok (Token.eofAt (place (pre ++ g)))⟩ :=
      Lexes.finish (Gap.spaces hg not_gapStart_nil)
    exact ⟨_, by simpa using hend, rfl, _, rfl⟩
  | cons t ts ih =>
    obtain ⟨r₀, hlex, hstart⟩ := hts t List.mem_cons_self
    -- what follows the lexeme: nothing, or a space and the rest
    set g' : List Char := if ts.map (·.text.toList) = [] then [] else [' ']
    set r := g' ++ [' '].intercalate (ts.map (·.text.toList))
    have hg' : ∀ c ∈ g', c = ' ' := by
      intro c hc
      by_cases hts' : ts.map (·.text.toList) = [] <;> simp_all [g']
    have hr : AtSpace r := by
      intro c hc
      by_cases hts' : ts.map (·.text.toList) = []
      · simp [r, g', hts'] at hc
      · simp only [r, g', hts', if_false, List.singleton_append, List.head?_cons,
          Option.mem_def, Option.some.injEq] at hc
        exact hc.symm
    obtain ⟨l, hl, htoks, hstop⟩ :=
      ih (fun u hu => hts u (List.mem_cons_of_mem t hu)) (pre ++ g ++ t.text.toList) g' hg'
    have hgap : Gap g (t.text.toList ++ r) :=
      Gap.spaces hg (not_gapStart_spaced hlex.ne_nil hstart hr)
    refine ⟨⟨⟨t.symbol, String.ofList t.text.toList, (place (pre ++ g)).line,
      (place (pre ++ g)).col⟩ :: l.tokens, l.stop⟩, ?_, ?_, hstop⟩
    · rw [List.map_cons, intercalate_space_cons, ← List.append_assoc]
      exact Lexes.token hgap (hlex.spaced hr) hl
    · simp [Token.lexeme, htoks]

/-- **The tokens of a text, written apart, lex as themselves.** When a text lexes without
a fault, its tokens' texts joined by single spaces lex without a fault too, to tokens with
the same symbols and texts, the end of input included; only their places differ. -/
theorem lex_spaced_tokens (s : String) (h : (lex s).toList.2 = none) :
    (lex (" ".intercalate ((lex s).tokens.map Token.text))).toList.2 = none ∧
      (lex (" ".intercalate ((lex s).tokens.map Token.text))).toList.1.map Token.lexeme =
        (lex s).toList.1.map Token.lexeme := by
  have hlexes := (lex_eq_iff_lexes s (lex s)).1 rfl
  obtain ⟨l, hl, htoks, p, hstop⟩ :=
    lexes_spaced Pos.origin.past (lex s).tokens hlexes.lexed [] [] (by simp)
  have heq : lex (" ".intercalate ((lex s).tokens.map Token.text)) = l := by
    have hspace : " ".toList = [' '] := by decide
    rw [lex_eq_iff_lexes, String.toList_intercalate, List.map_map, hspace]
    rw [List.nil_append] at hl
    exact hl
  -- the end of input of the text, which is a token because no fault stops it
  obtain ⟨t, ht⟩ : ∃ t, (lex s).stop = .ok t := by
    cases hst : (lex s).stop with
    | ok t => exact ⟨t, rfl⟩
    | error e => simp [Lexing.toList, hst] at h
  have heof : Token.eofAt t.pos = t := (lex_wellEnded s).stop_eof t ht
  rw [heq]
  refine ⟨by simp [Lexing.toList, hstop], ?_⟩
  simp only [Lexing.toList, hstop, ht, List.map_append, htoks, List.map_singleton]
  -- both ends of input have the same symbol and the empty text
  rw [← heof]
  rfl

/-- A loop written tightly, with a comment after it, lexes without a fault, and so does
`while x >= 1 loop y := ( y - 1 ) * 2 end loop`, to the same symbols and texts. -/
theorem countdownLoop_spaced_tokens :
    (lex "while x>=1 loop y:=(y-1)*2 end loop -- done").toList.2 = none ∧
      (lex (" ".intercalate ((lex "while x>=1 loop y:=(y-1)*2 end loop -- done").tokens.map
        Token.text))).toList.2 = none ∧
      (lex (" ".intercalate ((lex "while x>=1 loop y:=(y-1)*2 end loop -- done").tokens.map
        Token.text))).toList.1.map Token.lexeme =
        (lex "while x>=1 loop y:=(y-1)*2 end loop -- done").toList.1.map Token.lexeme :=
  have h : (lex "while x>=1 loop y:=(y-1)*2 end loop -- done").toList.2 = none := by
    decide +kernel
  ⟨h, lex_spaced_tokens _ h⟩

end ImpSyntax
