import ImpSyntax.Symbol
import ImpSyntax.Text.Quoted

/-!
# Places and tokens

A token is a classified lexeme: its symbol, the text as written, and the place where it
starts. Places count lines and columns from 1, in code points; a line feed starts a new
line, and every other character (the carriage return too) moves one column on. Lines and
columns are integers of any size and sign, because a lexer may be started at any place.
-/

namespace ImpSyntax

/-- **A place in a text**: line and column. -/
structure Pos where
  line : Int
  col : Int
  deriving DecidableEq, Repr, Inhabited

namespace Pos

/-- The first column of the first line. -/
def origin : Pos := ⟨1, 1⟩

/-- **Moving over one character.** A line feed goes to column 1 of the next line; any
other character moves one column on. -/
def next (p : Pos) (c : Char) : Pos :=
  if c = '\n' then ⟨p.line + 1, 1⟩ else ⟨p.line, p.col + 1⟩

/-- Moving over a run of characters. -/
def past (p : Pos) (cs : List Char) : Pos :=
  cs.foldl next p

@[simp] theorem past_nil (p : Pos) : p.past [] = p := rfl

@[simp] theorem past_cons (p : Pos) (c : Char) (cs : List Char) :
    p.past (c :: cs) = (p.next c).past cs := rfl

theorem past_append (p : Pos) (a b : List Char) : p.past (a ++ b) = (p.past a).past b := by
  simp [past, List.foldl_append]

end Pos

/-- **A token**: a lexeme classified by its symbol, with the place where it starts. -/
structure Token where
  symbol : Symbol
  text : String
  line : Int
  col : Int
  deriving DecidableEq, Repr, Inhabited

namespace Token

/-- The end-of-input token at a place; its text is empty. -/
def eofAt (p : Pos) : Token := ⟨.eof, "", p.line, p.col⟩

/-- The place where the token starts. -/
def pos (t : Token) : Pos := ⟨t.line, t.col⟩

/-- **How a token is written** in listings: `SYMBOL('text') @line:col`, the text quoted. -/
def render (t : Token) : String :=
  t.symbol.name ++ "(" ++ Text.quote t.text ++ ") @" ++ toString t.line ++ ":" ++
    toString t.col

example : render ⟨.becomes, ":=", 1, -3⟩ = "BECOMES(':=') @1:-3" := by decide +kernel

end Token

end ImpSyntax
