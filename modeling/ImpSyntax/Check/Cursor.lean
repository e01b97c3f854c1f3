import ImpSyntax.Check.Event

/-!
# Cursors and steps of a check

A check reads through a *cursor*: the lookahead token and the feed behind it. A piece
of the check (a rule, a terminal, a repetition) started at a cursor either finishes,
with its events and the cursor after it, or stops, with its events, the rules open at the
stop and the cause.

Every piece keeps a promise about the cursor's *weight*: two for every item left in the
feed, and one more while the lookahead is not the end of input. A *step* never makes the
weight grow; a *move* makes it shrink. Accepting a token other than the end of input is a
move (`take`). The rules of the grammar are built from steps and moves, and the weight,
with the rank of a rule, is the measure by which the rules terminate.
-/

namespace ImpSyntax

/-- **A cursor**: the lookahead token and the feed after it. -/
structure Cursor where
  look : Token
  feed : Feed
  deriving Inhabited

namespace Cursor

/-- **The weight of a cursor**: two for every item left in the feed, one more while the
lookahead is not the end of input. -/
def weight (c : Cursor) : Nat :=
  c.feed.weight + (if c.look.symbol = .eof then 0 else 1)

/-- **The first cursor of a feed**, after one pull; a fault on that pull stops the check
before it starts. -/
def start (f : Feed) : Except Fault Cursor :=
  match f.pull with
  | (.ok t, f') => .ok ⟨t, f'⟩
  | (.error e, _) => .error e

end Cursor

/-- **How a piece of a check ends.** -/
inductive Outcome where
  /-- It finished, with its events, at the cursor after it. -/
  | done (events : List Event) (next : Cursor)
  /-- It stopped, with its events, the rules open at the stop and the cause. -/
  | halted (events : List Event) (frames : List Rule) (cause : Cause)
  deriving Inhabited

namespace Outcome

/-- The piece finished without making the weight grow. -/
def Within (c : Cursor) : Outcome → Prop
  | .done _ c' => c'.weight ≤ c.weight
  | .halted .. => True

/-- The piece finished and made the weight shrink. -/
def Below (c : Cursor) : Outcome → Prop
  | .done _ c' => c'.weight < c.weight
  | .halted .. => True

/-- The events of the piece, whichever way it ended. -/
def events : Outcome → List Event
  | .done evs _ => evs
  | .halted evs .. => evs

end Outcome

/-- **A step** from cursor `c`: an outcome that does not make the weight grow. -/
abbrev Step (c : Cursor) := { o : Outcome // o.Within c }

/-- **A move** from cursor `c`: an outcome that makes the weight shrink. -/
abbrev Move (c : Cursor) := { o : Outcome // o.Below c }

namespace Step

/-- Finishing at once, with no events. -/
def stay (c : Cursor) : Step c := ⟨.done [] c, Nat.le_refl _⟩

/-- Stopping at a mismatch: the lookahead is not what was expected. -/
def reject (c : Cursor) (e : Expected) : Step c :=
  ⟨.halted [.reject c.look e] [] (.mismatch c.look e), trivial⟩

/-- **Sequencing**: after a finished step, go on with `k` from the cursor it reached; the
events of both are kept in order, and a stop stops everything. -/
def bind {c : Cursor} (s : Step c) (k : (c' : Cursor) → c'.weight ≤ c.weight → Step c') :
    Step c :=
  match s with
  | ⟨.done evs c', h⟩ =>
    match k c' h with
    | ⟨.done evs' c'', h'⟩ => ⟨.done (evs ++ evs') c'', Nat.le_trans h' h⟩
    | ⟨.halted evs' fr cause, _⟩ => ⟨.halted (evs ++ evs') fr cause, trivial⟩
  | ⟨.halted evs fr cause, _⟩ => ⟨.halted evs fr cause, trivial⟩

/-- **A rule around a step**: entering and leaving the rule are reported around the step's
events, also when it stops, and a stop inside counts the rule as open. -/
def bracket (r : Rule) {c : Cursor} (s : Step c) : Step c :=
  match s with
  | ⟨.done evs c', h⟩ => ⟨.done (.enter r :: evs ++ [.exit r]) c', h⟩
  | ⟨.halted evs fr cause, _⟩ => ⟨.halted (.enter r :: evs ++ [.exit r]) (r :: fr) cause, trivial⟩

end Step

namespace Move

/-- A move is a step. -/
def toStep {c : Cursor} (m : Move c) : Step c :=
  ⟨m.1, by
    obtain ⟨o, h⟩ := m
    cases o with
    | done evs c' => exact Nat.le_of_lt h
    | halted => trivial⟩

/-- **Sequencing after a move**: like `Step.bind`, and the rest starts from a lighter
cursor. -/
def andThen {c : Cursor} (m : Move c) (k : (c' : Cursor) → c'.weight < c.weight → Step c') :
    Step c :=
  match m with
  | ⟨.done evs c', h⟩ =>
    match k c' h with
    | ⟨.done evs' c'', h'⟩ => ⟨.done (evs ++ evs') c'', Nat.le_of_lt (Nat.lt_of_le_of_lt h' h)⟩
    | ⟨.halted evs' fr cause, _⟩ => ⟨.halted (evs ++ evs') fr cause, trivial⟩
  | ⟨.halted evs fr cause, _⟩ => ⟨.halted evs fr cause, trivial⟩

end Move

namespace Cursor

/-- **Accepting the lookahead**, which is not the end of input: it is reported, and the
next token pulled; a fault on the pull stops the check. -/
def take (c : Cursor) (h : c.look.symbol ≠ .eof) : Move c :=
  match hp : c.feed.pull with
  | (.ok t, f) => ⟨.done [.accept c.look] ⟨t, f⟩, by
      have := Feed.pull_weight hp
      simp only [Outcome.Below, weight, h, if_false]
      omega⟩
  | (.error e, _) => ⟨.halted [.accept c.look] [] (.fault e), trivial⟩

/-- **Expecting a symbol**: a lookahead of that symbol is accepted, any other is a
mismatch. -/
def expect (c : Cursor) (s : Symbol) (hs : s ≠ .eof) : Move c :=
  if h : c.look.symbol = s then c.take (h ▸ hs)
  else ⟨.halted [.reject c.look (.symbol s)] [] (.mismatch c.look (.symbol s)), trivial⟩

end Cursor

end ImpSyntax
