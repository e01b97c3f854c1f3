import ImpSyntax.Feed
import ImpSyntax.Rule

/-!
# What a check reports

A check reports, in order: entering and leaving each rule, accepting each token, a
mismatch between the lookahead and what the grammar expected there, and success once the
whole input is accepted. Observers of a check (a recorder, a trace) see these events.

A check stops at the first mismatch or fault. It then leaves every open rule, reporting
each, and the stop is described by the rules that were open, outermost first, and the
cause: a mismatch, or a fault of the feed.
-/

namespace ImpSyntax

/-- **What a mismatch says was expected**: one symbol, or one of the choices the grammar
offers at the start of a statement, a comparison's operator, its right operand, or a
factor. -/
inductive Expected where
  | symbol (s : Symbol)
  | statement
  | comparison
  | operand
  | factor
  deriving DecidableEq, Repr, Inhabited

/-- How a mismatch names what was expected. -/
def Expected.text : Expected → String
  | .symbol s => "'" ++ s.display ++ "'"
  | .statement => "<assignment>, <if>, <while>, <procedure>, <until>, or <for>"
  | .comparison => "> , >= , = , /= , < or <="
  | .operand => "identifier, number constant or string constant"
  | .factor => "identifier, number constant, or '('"

/-- **Events of a check.** -/
inductive Event where
  /-- A rule is entered. -/
  | enter (r : Rule)
  /-- A rule is left, finished or not. -/
  | exit (r : Rule)
  /-- A token is accepted. -/
  | accept (t : Token)
  /-- The lookahead `found` is not what the grammar expected. -/
  | reject (found : Token) (expected : Expected)
  /-- The whole input is accepted. -/
  | success
  deriving DecidableEq, Repr, Inhabited

/-- **Why a check stopped.** -/
inductive Cause where
  /-- The lookahead did not fit the grammar. -/
  | mismatch (found : Token) (expected : Expected)
  /-- The feed answered a pull with a fault. -/
  | fault (f : Fault)
  deriving DecidableEq, Repr, Inhabited

/-- **A stopped check**: the rules open when it stopped, outermost first, and the cause. -/
structure Halt where
  frames : List Rule
  cause : Cause
  deriving DecidableEq, Repr, Inhabited

/-- **A finished check**: every event, and how it stopped, if it did not accept. -/
structure Run where
  events : List Event
  halt : Option Halt
  deriving Inhabited

end ImpSyntax
