import ImpSyntax.Report.Chain

/-!
# Recording a check

A recorder keeps the events of a check that a reader of its derivation needs: entering
and leaving rules, and accepted tokens. It also keeps the first mismatch it was told of,
with its message, and whether the check accepted.

A recorded event is written `enter LABEL`, `exit LABEL` or `terminal SYMBOL 'text'`, the
text quoted.
-/

namespace ImpSyntax

namespace Event

/-- Entering, leaving and accepting are recorded; mismatch and success are not. -/
def isRecorded : Event → Bool
  | enter _ | exit _ | accept _ => true
  | _ => false

/-- **How a recorded event is written.** -/
def render : Event → String
  | enter r => "enter " ++ r.label
  | exit r => "exit " ++ r.label
  | accept t => "terminal " ++ t.symbol.name ++ " " ++ Text.quote t.text
  | reject .. => ""
  | success => ""

end Event

namespace Run

/-- **The recorded events** of a check, in order. -/
def recorded (r : Run) : List Event := r.events.filter Event.isRecorded

/-- **The accepted tokens**, in order. -/
def terminals (r : Run) : List Token :=
  r.events.filterMap fun e => match e with | .accept t => some t | _ => none

/-- Whether the check accepted its input. -/
def succeeded (r : Run) : Bool := r.halt.isNone

/-- **The mismatch the observers were told of**: the lookahead and the message, for a check
that names its source `source`. -/
def reported (source : String) (r : Run) : Option (Token × String) :=
  r.events.findSome? fun e => match e with
    | .reject t x => some (t, syntaxMessage source t.line x.text t.found)
    | _ => none

/-- **The recorded events as text**, one per line. -/
def render (r : Run) : String := "\n".intercalate (r.recorded.map Event.render)

end Run

end ImpSyntax
