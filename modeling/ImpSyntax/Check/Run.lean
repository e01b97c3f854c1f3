import ImpSyntax.Check.Rules

/-!
# Checking a whole program

A program is a statement part followed by the end of input. The check pulls the first
token, runs `statementPart`, and then expects the end of input; accepting it pulls once
more, as accepting any token does, and only then is the program accepted.

A stop outside every rule (a fault on the first pull or on the pull after the end of
input, or a lookahead other than the end of input after the statement part) has no open
rules.
-/

namespace ImpSyntax

namespace Check

/-- **After the statement part**: the end of input is accepted, and one more pull made. -/
def finish (evs : List Event) (c : Cursor) : Run :=
  if c.look.symbol = .eof then
    match c.feed.pull with
    | (.ok _, _) => ⟨evs ++ [.accept c.look, .success], none⟩
    | (.error e, _) => ⟨evs ++ [.accept c.look], some ⟨[], .fault e⟩⟩
  else
    ⟨evs ++ [.reject c.look (.symbol .eof)], some ⟨[], .mismatch c.look (.symbol .eof)⟩⟩

end Check

/-- **Checking a feed** against the grammar. -/
def check (f : Feed) : Run :=
  match Cursor.start f with
  | .error e => ⟨[], some ⟨[], .fault e⟩⟩
  | .ok c =>
    match (Check.statementPart c).1 with
    | .done evs c' => Check.finish evs c'
    | .halted evs fr cause => ⟨evs, some ⟨fr, cause⟩⟩

/-- **Checking a text**, lexed from line 1, column 1. -/
def checkText (s : String) : Run := check (Feed.ofText s)

end ImpSyntax
