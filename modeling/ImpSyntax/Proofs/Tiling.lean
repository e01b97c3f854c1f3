import Mathlib
import ImpSyntax.Proofs.Lexemes

/-!
# How a text lexes

A text lexes as a tiling: gap, lexeme, gap, lexeme, and so on, ending either with a last
gap, after which the end of input stands, or with a gap after which no lexeme starts, where
the lexer stops with a fault (`Lexes`). Every lexeme and the end stand at the place after
the text before them. That is all the lexer does: the lexing of a text is the one that tiles
it (`lex_eq_iff_lexes`).

One read is one tile (`Lexer.read_cases` one way, `Lexer.read_of_lexeme` and its two
siblings the other), so draining a text builds the tiling read by read
(`Lexer.drainText_lexes`), and a tiling is what draining builds
(`Lexer.drainText_of_lexes`).

Places count from where the lexer starts. Read from any place, the line of a token is the
starting line moved on by the line feeds before it; its column is the starting column moved
on by the characters before it when none of them is a line feed, and otherwise counts from
the last line feed (`placeFrom`, `lexAt_lexes_placeFrom`).
-/

namespace ImpSyntax

open Lexer

/-- **How the text `cs`, read after `pre`, lexes**, every lexeme standing at the place that
`place` gives to the text before it. -/
inductive Lexes (place : List Char → Pos) : List Char → List Char → Lexing → Prop
  /-- The last gap, and the end of input after it. -/
  | finish {pre g} : Gap g [] → Lexes place pre g ⟨[], .ok (Token.eofAt (place (pre ++ g)))⟩
  /-- A gap and a lexeme, then the rest. -/
  | token {pre g x r s l} : Gap g (x ++ r) → Lexeme s x r → Lexes place (pre ++ g ++ x) r l →
      Lexes place pre (g ++ x ++ r)
        ⟨⟨s, String.ofList x, (place (pre ++ g)).line, (place (pre ++ g)).col⟩ :: l.tokens,
          l.stop⟩
  /-- A gap, after which no lexeme starts. -/
  | fault {pre g r f} : Gap g r → Stuck r f →
      Lexes place pre (g ++ r) ⟨[], .error ⟨f, (place (pre ++ g)).line, (place (pre ++ g)).col⟩⟩

namespace Lexer

/-- **One read is one tile**: the gap in front, then the end of the text, a fault where no
lexeme starts, or a lexeme; the place moves over what was read. -/
theorem read_cases (lx : Lexer) : ∃ g r, lx.rest = g ++ r ∧ Gap g r ∧
    ((r = [] ∧ lx.read = (.ok (Token.eofAt (lx.pos.past g)), ⟨[], lx.pos.past g, none⟩)) ∨
      (∃ f, Stuck r f ∧ lx.read = (.error ⟨f, (lx.pos.past g).line, (lx.pos.past g).col⟩,
        ⟨r, lx.pos.past g, none⟩)) ∨
      (∃ s x r', r = x ++ r' ∧ Lexeme s x r' ∧
        lx.read = (.ok ⟨s, String.ofList x, (lx.pos.past g).line, (lx.pos.past g).col⟩,
          ⟨r', (lx.pos.past g).past x, none⟩))) := by
  refine ⟨lx.rest.take (gapLength false lx.rest), lx.rest.drop (gapLength false lx.rest),
    (List.take_append_drop _ _).symm, gapLength_sound false lx.rest, ?_⟩
  unfold read
  dsimp only
  split
  · rename_i hd
    exact .inl ⟨hd, rfl⟩
  · rename_i c cs hd
    split
    · rename_i f hf
      exact .inr (.inl ⟨f, hd ▸ lexemeAt_fault_sound hf, by rw [hd]⟩)
    · rename_i s n hl
      exact .inr (.inr ⟨s, (c :: cs).take n, (c :: cs).drop n,
        by rw [hd, List.take_append_drop], hd ▸ lexemeAt_sound hl, rfl⟩)

/-- **Draining lexes the rest of the text**, each lexeme at the place of the lexer when it
was read: for a lexer at the place after `pre`, read from `p0`, the place after the text
before the lexeme. -/
theorem drainText_lexes (p0 : Pos) (pre : List Char) {lx : Lexer}
    (hpos : lx.pos = p0.past pre) : Lexes p0.past pre lx.rest lx.drainText.1 := by
  fun_induction drainText lx generalizing pre with
  | case1 lx e lx' hr =>
    -- a fault
    obtain ⟨g, r, hrest, hg, hcases⟩ := read_cases lx
    rcases hcases with ⟨-, hread⟩ | ⟨f, hf, hread⟩ | ⟨s, x, r', -, -, hread⟩ <;>
      rw [hread] at hr
    · cases hr
    · simp only [Prod.mk.injEq, Except.error.injEq] at hr
      obtain ⟨rfl, rfl⟩ := hr
      rw [hrest, hpos, ← Pos.past_append]
      exact Lexes.fault hg hf
    · cases hr
  | case2 lx t lx' hr ht =>
    -- the end of input: no lexeme is one
    obtain ⟨g, r, hrest, hg, hcases⟩ := read_cases lx
    rcases hcases with ⟨rfl, hread⟩ | ⟨f, -, hread⟩ | ⟨s, x, r', -, hx, hread⟩ <;>
      rw [hread] at hr
    · simp only [Prod.mk.injEq, Except.ok.injEq] at hr
      obtain ⟨rfl, rfl⟩ := hr
      rw [hrest, List.append_nil, hpos, ← Pos.past_append]
      exact Lexes.finish hg
    · cases hr
    · simp only [Prod.mk.injEq, Except.ok.injEq] at hr
      obtain ⟨rfl, -⟩ := hr
      exact absurd ht hx.ne_eof
  | case3 lx t lx' hr ht _ ih =>
    -- a lexeme, and the rest after it
    obtain ⟨g, r, hrest, hg, hcases⟩ := read_cases lx
    rcases hcases with ⟨-, hread⟩ | ⟨f, -, hread⟩ | ⟨s, x, r', rfl, hx, hread⟩ <;>
      rw [hread] at hr
    · simp only [Prod.mk.injEq, Except.ok.injEq] at hr
      obtain ⟨rfl, -⟩ := hr
      exact absurd rfl ht
    · cases hr
    · simp only [Prod.mk.injEq, Except.ok.injEq] at hr
      obtain ⟨rfl, rfl⟩ := hr
      have hplace : lx.pos.past g = p0.past (pre ++ g) := by rw [hpos, Pos.past_append]
      rw [hrest, hplace, ← List.append_assoc]
      exact Lexes.token hg hx (ih (pre ++ g ++ x) (by rw [hplace, ← Pos.past_append]))

/-! ## Each tile is one read -/

theorem read_of_end {g : List Char} (hg : Gap g []) (p : Pos) :
    (⟨g, p, none⟩ : Lexer).read = (.ok (Token.eofAt (p.past g)), ⟨[], p.past g, none⟩) := by
  have hlen := gapLength_complete hg
  rw [List.append_nil] at hlen
  simp [read, hlen]

theorem read_of_stuck {g r : List Char} {f : LexFault} (hg : Gap g r) (hf : Stuck r f)
    (p : Pos) :
    (⟨g ++ r, p, none⟩ : Lexer).read =
      (.error ⟨f, (p.past g).line, (p.past g).col⟩, ⟨r, p.past g, none⟩) := by
  obtain ⟨c, cs, rfl⟩ : ∃ c cs, r = c :: cs := by
    cases hf with
    | unexpected => exact ⟨_, _, rfl⟩
    | unterminated => exact ⟨_, _, rfl⟩
  simp [read, gapLength_complete hg, lexemeAt_fault_complete hf]

theorem read_of_lexeme {g x r : List Char} {s : Symbol} (hg : Gap g (x ++ r))
    (hx : Lexeme s x r) (p : Pos) :
    (⟨g ++ x ++ r, p, none⟩ : Lexer).read =
      (.ok ⟨s, String.ofList x, (p.past g).line, (p.past g).col⟩,
        ⟨r, (p.past g).past x, none⟩) := by
  obtain ⟨c, x', rfl⟩ := List.exists_cons_of_ne_nil hx.ne_nil
  have hlen := gapLength_complete hg
  have hlex := lexemeAt_complete hx List.cons_append
  rw [List.cons_append] at hlen
  rw [List.append_assoc, List.cons_append]
  simp [read, hlen, hlex]

/-- **A tiling is what draining builds**, tile by tile. -/
theorem drainText_of_lexes (p0 : Pos) {pre cs : List Char} {l : Lexing}
    (h : Lexes p0.past pre cs l) : (⟨cs, p0.past pre, none⟩ : Lexer).drainText.1 = l := by
  induction h with
  | @finish pre g hg =>
    rw [drainText_of_eof (read_of_end hg _) rfl, ← Pos.past_append]
  | @token pre g x r s l hg hx _ ih =>
    have hplace : (p0.past pre).past g = p0.past (pre ++ g) := (Pos.past_append _ _ _).symm
    rw [drainText_of_token (read_of_lexeme hg hx _) hx.ne_eof, hplace, ← Pos.past_append, ih]
  | @fault pre g r f hg hf =>
    rw [drainText_of_error (read_of_stuck hg hf _), ← Pos.past_append]

end Lexer

/-- **A text lexes as it is tiled, and in no other way.** The lexing of a text is the one
that tiles it: gaps of blanks and comments, each followed by the longest lexeme there, and
at the end either the end of input after the last gap, or the fault where, after a gap, no
lexeme starts; each token at the place after the text before it. -/
theorem lex_eq_iff_lexes (s : String) (l : Lexing) :
    lex s = l ↔ Lexes Pos.origin.past [] s.toList l := by
  constructor
  · rintro rfl
    have h : Lexes Pos.origin.past [] (Lexer.start s Pos.origin).rest
        (Lexer.start s Pos.origin).drainText.1 := drainText_lexes Pos.origin [] rfl
    exact h
  · exact drainText_of_lexes Pos.origin

/-! ## Places from any start -/

/-- The offset of the last line feed of `pre`. -/
def lastNewline (pre : List Char) : Nat := pre.length - 1 - pre.reverse.idxOf '\n'

/-- **The place after `pre`**, for a text read from `p`: the line moves on by the line
feeds of `pre`; the column moves on by the length of `pre` if it holds no line feed, and
otherwise is the distance from the last one. -/
def placeFrom (p : Pos) (pre : List Char) : Pos :=
  ⟨p.line + pre.count '\n',
    if '\n' ∈ pre then pre.length - lastNewline pre else p.col + pre.length⟩

/-- **Moving over a text is going to the place after it.** -/
theorem past_eq_placeFrom (p : Pos) (pre : List Char) : p.past pre = placeFrom p pre := by
  induction pre using List.reverseRecOn with
  | nil => simp [placeFrom]
  | append_singleton pre c ih =>
    rw [Pos.past_append, ih, Pos.past_cons, Pos.past_nil]
    by_cases hc : c = '\n'
    · -- a line feed: the next line, and the column after the line feed
      subst hc
      simp [Pos.next, placeFrom, lastNewline]
      omega
    · -- any other character: one column on, counted from the same start
      by_cases hm : '\n' ∈ pre
      · have hlt : pre.reverse.idxOf '\n' < pre.length := by
          simpa using List.idxOf_lt_length_of_mem (List.mem_reverse.2 hm)
        simp [Pos.next, placeFrom, lastNewline, hc, hm]
        omega
      · simp [Pos.next, placeFrom, hm, hc, Ne.symm hc]
        omega

/-- **Where the tokens of a text read from any place stand.** Read from line `p.line` and
column `p.col`, a text lexes as it is tiled, with each token, the end of input and a fault
at the place after the text before it: the line moves on by the line feeds there; the
column moves on by the characters there if none of them is a line feed, and otherwise
counts from the last one. -/
theorem lexAt_lexes_placeFrom (s : String) (p : Pos) :
    Lexes (placeFrom p) [] s.toList (lexAt s p) := by
  have h : Lexes p.past [] (Lexer.start s p).rest (Lexer.start s p).drainText.1 :=
    drainText_lexes p [] rfl
  rwa [show p.past = placeFrom p from funext (past_eq_placeFrom p)] at h

example : (lexAt "x :=\n  7" ⟨0, -4⟩).tokens.map Token.pos = [⟨0, -4⟩, ⟨0, -2⟩, ⟨1, 3⟩] := by
  decide +kernel

end ImpSyntax
