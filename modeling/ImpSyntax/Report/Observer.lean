import ImpSyntax.Report.Record
import ImpSyntax.Report.Trace

/-!
# Observers of a check

An observer hears the events of a check in order and keeps what it needs of them. It is
told of a mismatch, with the lookahead and the message, just before the check stops there.
It then either raises the syntax error, and the check fails with its chain, or lets the
call return, and the check fails with an error that names the observer.

The checker has three observers, and all three raise. The recorder keeps the events a
reader of the derivation needs, the mismatch it was told of and whether the check
accepted. The tracer writes the indented trace. A tee tells every event to two observers,
one after the other, and at a mismatch raises by itself, whatever they would do.

`hearAll_tee` is the reason a tee is what the trace command uses: each of its observers
ends as it would have alone.
-/

namespace ImpSyntax

/-- **An observer of a check**, with its states in `σ`. -/
structure Observer (σ : Type) where
  /-- Its name, by which an error names it. -/
  name : String
  /-- Whether it raises the syntax error when told of a mismatch. -/
  raises : Bool
  /-- Its state before the check. -/
  start : σ
  /-- Hearing one event. -/
  hear : σ → Event → σ

namespace Observer

variable {α β σ : Type}

/-- **The state after hearing** events in order. -/
def hearAll (o : Observer σ) (evs : List Event) : σ := evs.foldl o.hear o.start

/-- **How a check heard by `o` ends**, for a check that names its source `source`: it
accepts (`none`), or fails as its stop is reported; at a mismatch that `o` lets pass, the
failure names `o`. -/
def outcome (o : Observer σ) (source : String) (r : Run) : Option Failure :=
  r.halt.map fun h => if o.raises then h.failure source else h.failureUnheeded o.name source

/-- **Two observers at once**: each event is told to `a`, then to `b`; told of a mismatch,
the tee raises the syntax error itself. -/
def tee (a : Observer α) (b : Observer β) : Observer (α × β) where
  name := "TeeSink"
  raises := true
  start := (a.start, b.start)
  hear s e := (a.hear s.1 e, b.hear s.2 e)

/-- An observer that raises ends a check as its stop is reported. -/
theorem outcome_of_raises {o : Observer σ} (h : o.raises = true) (source : String) (r : Run) :
    o.outcome source r = r.halt.map (·.failure source) := by
  simp [outcome, h]

/-- Hearing from two states at once is hearing from each. -/
theorem foldl_tee (a : Observer α) (b : Observer β) (evs : List Event) (s : α × β) :
    evs.foldl (a.tee b).hear s = (evs.foldl a.hear s.1, evs.foldl b.hear s.2) := by
  induction evs generalizing s with
  | nil => rfl
  | cons e evs ih => exact ih _

/-- **Each observer of a tee ends as it would have alone.** -/
theorem hearAll_tee (a : Observer α) (b : Observer β) (evs : List Event) :
    (a.tee b).hearAll evs = (a.hearAll evs, b.hearAll evs) :=
  foldl_tee a b evs _

end Observer

/-- **What a recorder keeps**: the recorded events, the mismatch it was told of with its
message, and whether the check accepted. -/
structure Recording where
  events : List Event
  error : Option (Token × String)
  succeeded : Bool

/-- **The recorder** of a check that names its source `source`. -/
def recorder (source : String) : Observer Recording where
  name := "RecordingSink"
  raises := true
  start := ⟨[], none, false⟩
  hear rec e :=
    match e with
    | .enter _ | .exit _ | .accept _ => { rec with events := rec.events ++ [e] }
    | .reject t x => { rec with error := some (t, syntaxMessage source t.line x.text t.found) }
    | .success => { rec with succeeded := true }

/-- **The tracer** of a check that names its source `source`, indenting by `indent`. -/
def tracer (indent source : String) : Observer Trace where
  name := "TraceSink"
  raises := true
  start := ⟨"", 0⟩
  hear := Trace.step indent source

/-- The tracer writes the trace of the check. -/
theorem tracer_hearAll (indent source : String) (r : Run) :
    (tracer indent source).hearAll r.events = r.trace indent source := rfl

/-- **The recorder keeps the recorded events**, in order. -/
theorem recorder_events (source : String) (evs : List Event) :
    ((recorder source).hearAll evs).events = evs.filter Event.isRecorded := by
  -- the events kept so far come first, whatever the state holds besides
  suffices h : ∀ rec : Recording,
      (evs.foldl (recorder source).hear rec).events = rec.events ++ evs.filter Event.isRecorded by
    exact (h (recorder source).start).trans (List.nil_append _)
  induction evs with
  | nil => simp
  | cons e evs ih =>
    intro rec
    rw [List.foldl_cons, ih]
    cases e <;> simp [recorder, Event.isRecorded, List.filter_cons]

end ImpSyntax
