import ImpSyntax.Text.Quoted

/-!
# Lexical faults

A lexical fault is input at which no lexeme starts. The lexer knows two: a character
that starts nothing, and a string constant whose closing quote is not on its line.
A token source other than the lexer may report faults of its own, with any message and
offending text.

The fault, placed at a line and column, is a *lexical error*. Its text is
`message at line:col`; the offending text is kept beside it (one character, or the rest
of the line for an open string).
-/

namespace ImpSyntax

/-- **Why no lexeme starts here.** -/
inductive LexFault where
  /-- A character that starts no lexeme. -/
  | unexpected (c : Char)
  /-- A string constant that does not close on its line; the rest of the line. -/
  | unterminated (rest : String)
  /-- A fault reported by another token source, with its message and offending text. -/
  | reported (message text : String)
  deriving DecidableEq, Repr, Inhabited

namespace LexFault

/-- The message, without the place. -/
def message : LexFault → String
  | unexpected c => "Unexpected character " ++ Text.quote (String.singleton c)
  | unterminated _ => "Unterminated string constant"
  | reported m _ => m

/-- The offending input. -/
def text : LexFault → String
  | unexpected c => String.singleton c
  | unterminated r => r
  | reported _ t => t

end LexFault

/-- **A lexical error**: a fault at a place. -/
structure LexError where
  fault : LexFault
  line : Int
  col : Int
  deriving DecidableEq, Repr, Inhabited

namespace LexError

/-- The message, without the place. -/
def message (e : LexError) : String := e.fault.message

/-- The offending input. -/
def text (e : LexError) : String := e.fault.text

/-- **How a lexical error is written**: `message at line:col`. -/
def render (e : LexError) : String :=
  e.message ++ " at " ++ toString e.line ++ ":" ++ toString e.col

example : render ⟨.unexpected '$', 2, 9⟩ = "Unexpected character '$' at 2:9" := by decide +kernel

end LexError

end ImpSyntax
