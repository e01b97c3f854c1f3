import ImpSyntax.Check.Run

/-!
# Error chains

A check that stops at a mismatch or a lexical error is reported as a *chain* of syntax
errors, outermost first: one link for every rule open at the stop, saying what that rule
expected, and last the error itself. Every message of a link reads

```text
Syntax error at line L in SOURCE: expected X but found F.
```

where `F` is the lookahead, quoted as written, or `end of input`. When the stop is a
lexical error, the links of the rules take its line and its offending text (or
`invalid input` when there is none), point at no token, and the last link is the lexical
error.

A source that cannot be read is no syntax error and has no chain.
-/

namespace ImpSyntax

/-- **A link of an error chain.** -/
inductive Link where
  /-- A syntax error: its message, the token it points at, and its line. -/
  | parse (message : String) (token : Option Token) (line : Int)
  /-- A lexical error. -/
  | lexical (e : LexError)
  deriving DecidableEq, Repr, Inhabited

namespace Link

/-- The text of a link: its message, or for a lexical error the message with its place. -/
def text : Link → String
  | parse m .. => m
  | lexical e => e.render

/-- Where a caret shows the link: the place of its token, or of the lexical error. -/
def place? : Link → Option Pos
  | parse _ t _ => t.map Token.pos
  | lexical e => some ⟨e.line, e.col⟩

end Link

/-- How a message names the lookahead: quoted as written, or `end of input`. -/
def Token.found (t : Token) : String :=
  if t.symbol = .eof then "end of input" else "'" ++ t.text ++ "'"

/-- **The message of a syntax error.** -/
def syntaxMessage (source : String) (line : Int) (expected found : String) : String :=
  "Syntax error at line " ++ toString line ++ " in " ++ source ++ ": expected " ++ expected ++
    " but found " ++ found ++ "."

/-- **How a check that did not accept is reported.** -/
inductive Failure where
  /-- A syntax error, with its chain, outermost first. -/
  | rejected (chain : List Link)
  /-- The source could not be read. -/
  | unreadable (message : String)
  /-- An observer that was told of a mismatch let the check go on; the check stops with an
  error that names the observer. -/
  | unheeded (message : String)
  deriving DecidableEq, Repr, Inhabited

namespace Halt

/-- **The chain of a mismatch**: a link per open rule, then the mismatch. -/
def mismatchChain (source : String) (frames : List Rule) (found : Token) (e : Expected) :
    List Link :=
  let link := fun x => Link.parse (syntaxMessage source found.line x found.found) (some found)
    found.line
  frames.map (fun r => link r.expects) ++ [link e.text]

/-- **The chain of a lexical error**: a link per open rule, then the lexical error. -/
def lexicalChain (source : String) (frames : List Rule) (e : LexError) : List Link :=
  let found := if e.text = "" then "invalid input" else "'" ++ e.text ++ "'"
  frames.map (fun r => Link.parse (syntaxMessage source e.line r.expects found) none e.line) ++
    [.lexical e]

/-- **How a stop is reported**, for a check that names its source `source`. -/
def failure (source : String) (h : Halt) : Failure :=
  match h.cause with
  | .mismatch found e => .rejected (mismatchChain source h.frames found e)
  | .fault (.lexical e) => .rejected (lexicalChain source h.frames e)
  | .fault (.unreadable m) => .unreadable m

/-- **How a stop is reported when the observer lets mismatches pass**: the check stops at
the mismatch all the same, with an error naming the observer `observer`. -/
def failureUnheeded (observer source : String) (h : Halt) : Failure :=
  match h.cause with
  | .mismatch .. => .unheeded (observer ++ ".report_error returned normally")
  | _ => h.failure source

end Halt

/-- **A chain as text**, one link per line, outermost first or innermost first. -/
def chainText (chain : List Link) (innermostFirst : Bool) : String :=
  "\n".intercalate ((if innermostFirst then chain.reverse else chain).map Link.text)

end ImpSyntax
