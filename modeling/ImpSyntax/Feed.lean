import ImpSyntax.Lexer.Basic

/-!
# Token feeds

A check pulls its tokens one at a time from a *feed*. Each pull gives a token or a
fault: a lexical error, or a source that could not be read. A feed is a finite list of
such answers followed by an *ending* that answers every later pull the same way: with
an end-of-input token, or with a fault.

The ending is never a token other than the end of input. That is what makes a check
end: every accepted token other than the end of input brings the feed closer to its
ending (`pull_weight`).

Two feeds matter. The feed of a text gives its tokens and then the lexer's end: the
end-of-input token at the end of the text, or the fault where lexing stopped. The feed
of a list of prepared items gives them in order and then end-of-input tokens on the line
of the last token among the items, column 1.
-/

namespace ImpSyntax

/-- **Why a pull gives no token.** -/
inductive Fault where
  /-- A lexical error. -/
  | lexical (e : LexError)
  /-- The source could not be read; the message says why. -/
  | unreadable (message : String)
  deriving DecidableEq, Repr, Inhabited

/-- **How a feed answers once its items are used up**, on every pull. -/
inductive Ending where
  /-- The end-of-input token at a line and column. -/
  | eof (line col : Int)
  /-- A fault. -/
  | fault (f : Fault)
  deriving DecidableEq, Repr, Inhabited

/-- The answer of an ending to a pull. -/
def Ending.answer : Ending → Except Fault Token
  | .eof l c => .ok ⟨.eof, "", l, c⟩
  | .fault f => .error f

/-- **A feed**: answers to the coming pulls, then the ending. -/
structure Feed where
  items : List (Except Fault Token)
  ending : Ending
  deriving Inhabited

namespace Feed

/-- **Pulling once**: the first item, or the ending's answer when there is none. -/
def pull (f : Feed) : Except Fault Token × Feed :=
  match f.items with
  | [] => (f.ending.answer, f)
  | x :: rest => (x, ⟨rest, f.ending⟩)

/-- The feed of what a lexer read from a text. -/
def ofLexing (l : Lexing) : Feed :=
  match l.stop with
  | .ok t => ⟨l.tokens.map .ok, .eof t.line t.col⟩
  | .error e => ⟨l.tokens.map .ok, .fault (.lexical e)⟩

/-- The feed of a text, lexed from line 1, column 1. -/
def ofText (s : String) : Feed := ofLexing (lex s)

/-- The line of the last token among prepared items, or 1 when there is none. -/
def lastLine (items : List (Except Fault Token)) : Int :=
  items.foldl (fun l x => match x with | .ok t => t.line | .error _ => l) 1

/-- The feed of prepared items: end-of-input tokens after them, on the line of the last
token among them, column 1. -/
def ofItems (items : List (Except Fault Token)) : Feed :=
  ⟨items, .eof (lastLine items) 1⟩

/-- The part of a feed's progress that a check sees: two for every item left. -/
def weight (f : Feed) : Nat := 2 * f.items.length

/-- **An accepted token other than the end of input brings the feed closer to its
ending**: the token pulled next, counted once unless it ends the input, and the items
left weigh less than the items before. -/
theorem pull_weight {f f' : Feed} {t : Token} (h : f.pull = (.ok t, f')) :
    f'.weight + (if t.symbol = .eof then 0 else 1) < f.weight + 1 := by
  unfold pull at h
  unfold weight
  split at h
  · rename_i hi
    simp only [Prod.mk.injEq] at h
    obtain ⟨h1, rfl⟩ := h
    cases he : f.ending with
    | eof l c =>
      rw [he] at h1
      simp only [Ending.answer, Except.ok.injEq] at h1
      subst h1
      simp [hi]
    | fault e =>
      rw [he] at h1
      simp [Ending.answer] at h1
  · rename_i x rest hi
    simp only [Prod.mk.injEq] at h
    obtain ⟨-, rfl⟩ := h
    simp only [hi, List.length_cons]
    split <;> omega

end Feed

end ImpSyntax
