import ImpSyntax.Token
import ImpSyntax.Lexer.Scan

/-!
# The lexer

A lexer is a cursor in a text: the characters not yet read, the place of the first of
them, and at most one token read ahead by `peek`. Reading skips the gap in front of the
next lexeme and classifies the lexeme; at the end of the text it gives the end-of-input
token, again on every later read.

A fault leaves the cursor after the gap, in front of the offending character, so the
next read meets the same fault; the cursor stays usable and `reset` binds it to a new
text. `drain` reads everything that is left: the tokens, and how the text ends, by the
end-of-input token or by a fault.

The main statement is `read_shrinks`: a token other than the end of input always
consumes text. It is why `drain` ends.
-/

namespace ImpSyntax

/-- **A lexer**: the text not yet read, its place, and the token read ahead, if any. -/
structure Lexer where
  rest : List Char
  pos : Pos
  ahead : Option Token
  deriving Inhabited

/-- **What is left of a text**: the tokens before its end, and the end: the end-of-input
token, or the fault that stopped the lexer. -/
structure Lexing where
  tokens : List Token
  stop : Except LexError Token
  deriving Inhabited

namespace Lexer

/-- A lexer at the start of `s`, which is at place `p`. -/
def start (s : String) (p : Pos) : Lexer := ⟨s.toList, p, none⟩

/-- **Binding a new text**, read from place `p`; the token read ahead is dropped. -/
def reset (_ : Lexer) (s : String) (p : Pos) : Lexer := start s p

/-- **Reading one token**, past the gap in front of it, ignoring any token read ahead. -/
def read (lx : Lexer) : Except LexError Token × Lexer :=
  let g := Lexer.gapLength false lx.rest
  let p := lx.pos.past (lx.rest.take g)
  match lx.rest.drop g with
  | [] => (.ok (Token.eofAt p), ⟨[], p, none⟩)
  | c :: cs =>
    match Lexer.lexemeAt c cs with
    | .error f => (.error ⟨f, p.line, p.col⟩, ⟨c :: cs, p, none⟩)
    | .ok (s, n) =>
      let lexeme := (c :: cs).take n
      (.ok ⟨s, String.ofList lexeme, p.line, p.col⟩, ⟨(c :: cs).drop n, p.past lexeme, none⟩)

/-- **The next token**: the one read ahead, or a fresh one. -/
def next (lx : Lexer) : Except LexError Token × Lexer :=
  match lx.ahead with
  | some t => (.ok t, { lx with ahead := none })
  | none => lx.read

/-- **Looking at the next token** without taking it. A fault is not kept, but the gap
before it stays skipped. -/
def peek (lx : Lexer) : Except LexError Token × Lexer :=
  match lx.ahead with
  | some t => (.ok t, lx)
  | none =>
    match lx.read with
    | (.ok t, lx') => (.ok t, { lx' with ahead := some t })
    | (.error e, lx') => (.error e, lx')

theorem read_ahead (lx : Lexer) : lx.read.2.ahead = none := by
  unfold read
  dsimp only
  split
  · rfl
  · split <;> rfl

/-- **A token other than the end of input consumes text.** -/
theorem read_shrinks {lx lx' : Lexer} {t : Token} (h : lx.read = (.ok t, lx'))
    (ht : t.symbol ≠ .eof) : lx'.rest.length < lx.rest.length := by
  unfold read at h
  dsimp only at h
  have hg := Lexer.gapLength_le false lx.rest
  split at h
  · simp only [Prod.mk.injEq, Except.ok.injEq] at h
    obtain ⟨rfl, -⟩ := h
    exact absurd rfl ht
  · rename_i c cs hd
    have hlen : (lx.rest.drop (Lexer.gapLength false lx.rest)).length = cs.length + 1 := by
      rw [hd]; rfl
    simp only [List.length_drop] at hlen
    split at h
    · simp at h
    · rename_i s n hl
      simp only [Prod.mk.injEq] at h
      obtain ⟨-, rfl⟩ := h
      have := Lexer.lexemeAt_length hl
      simp only [List.length_drop, List.length_cons]
      omega

set_option linter.unusedVariables false in
/-- Reading the text to its end, from a lexer with nothing read ahead. -/
def drainText (lx : Lexer) : Lexing × Lexer :=
  match h : lx.read with
  | (.error e, lx') => (⟨[], .error e⟩, lx')
  | (.ok t, lx') =>
    if ht : t.symbol = .eof then (⟨[], .ok t⟩, lx')
    else
      let r := drainText lx'
      (⟨t :: r.1.tokens, r.1.stop⟩, r.2)
termination_by lx.rest.length
decreasing_by exact read_shrinks h ht

/-- **Everything that is left**: the tokens up to the end of input, or up to a fault, and
the lexer after them. -/
def drain (lx : Lexer) : Lexing × Lexer :=
  match lx.ahead with
  | some t =>
    if t.symbol = .eof then (⟨[], .ok t⟩, { lx with ahead := none })
    else
      let r := drainText { lx with ahead := none }
      (⟨t :: r.1.tokens, r.1.stop⟩, r.2)
  | none => drainText lx

end Lexer

namespace Lexing

/-- **The token list** of a lexing: every token, the end-of-input token last, or the tokens
before the fault and the fault. -/
def toList (l : Lexing) : List Token × Option LexError :=
  match l.stop with
  | .ok t => (l.tokens ++ [t], none)
  | .error e => (l.tokens, some e)

end Lexing

/-- **Lexing a whole text** from line 1, column 1. -/
def lex (s : String) : Lexing :=
  (Lexer.start s Pos.origin).drain.1

end ImpSyntax
