import Mathlib
import ImpSyntax.Report.Observer
import ImpSyntax.Proofs.Chains
import ImpSyntax.Proofs.Recording

/-!
# A trace is the recorded events, written out

The tracer, the recorder and a tee of both observe one and the same check, and since all
three raise at a mismatch, the check ends the same way under each. The tee tells every
event to the tracer and then to the recorder, so each ends as it would have alone
(`Observer.hearAll_tee`).

The trace is then determined by the recorded events `E` alone (`traceOf`): event `i` gives
one line, indented by the number of rules entered and not left before it, `d i`: `begin`
for an entry, `end` one level less for an exit, the symbol, quoted text and line for an
accepted token. A mismatch the observers were told of adds the line `syntax error: ...`
before event `m`, where `m` leaves out the exits of the rules the error chain names, and a
check that accepts ends with `parse succeeded` at depth zero.

The proof reads the events of a check in three shapes: an accepted check's events are the
recorded ones and then its success; a mismatch is one report among recorded events, after
which the check only leaves the rules open at it; a fault stops a check among recorded
events alone (`check_events_of_succeeds`, `check_events_of_mismatch`,
`check_events_of_fault`). Over recorded events that nest, the tracer's depth is the number of
open rules, so each line it writes is the line of the event at its depth
(`foldl_trace_text`).
-/

namespace ImpSyntax

open Event Outcome

/-! ## The lines recorded events determine -/

namespace Event

/-- Whether an event enters a rule. -/
def isEnter : Event → Bool
  | enter _ => true
  | _ => false

/-- Whether an event leaves a rule. -/
def isExit : Event → Bool
  | exit _ => true
  | _ => false

/-- How an event changes the number of open rules. -/
def depthChange : Event → Int
  | enter _ => 1
  | exit _ => -1
  | _ => 0

end Event

/-- **The depth before event `i`** of `E`: the rules entered, less the rules left, among the
events before it. -/
def depthBefore (E : List Event) (i : Nat) : Int :=
  ((E.take i).countP Event.isEnter : Int) - ((E.take i).countP Event.isExit : Int)

/-- **Indentation `d` levels deep**: `d` copies of `indent`, and none when `d` is not
positive. -/
def indentBy (indent : String) (d : Int) : String := String.join (List.replicate d.toNat indent)

/-- **The line a recorded event gives** at depth `d`, its line feed included. -/
def eventLine (indent : String) (d : Int) : Event → String
  | .enter r => indentBy indent d ++ "begin " ++ r.label ++ "\n"
  | .exit r => indentBy indent (d - 1) ++ "end " ++ r.label ++ "\n"
  | .accept t => indentBy indent d ++ t.symbol.name ++ " " ++
      Text.quote (if t.symbol = .eof then "<EOF>" else t.text) ++ " on line " ++
      toString t.line ++ "\n"
  | .reject .. | .success => ""

/-- **The lines of recorded events**, each at the depth before it. -/
def eventLines (indent : String) (E : List Event) : List String :=
  E.mapIdx fun i e => eventLine indent (depthBefore E i) e

/-- **The trace recorded events determine**: their lines, with the line of a syntax error
whose message is `msg` before event `m` when `said = some (m, msg)`, and the success line
at depth zero last when the check accepted. -/
def traceOf (indent : String) (E : List Event) (said : Option (Nat × String))
    (succeeded : Bool) : String :=
  (match said with
    | some (m, msg) =>
      String.join ((eventLines indent E).take m) ++ indentBy indent (depthBefore E m) ++
        "syntax error: " ++ msg ++ "\n" ++ String.join ((eventLines indent E).drop m)
    | none => String.join (eventLines indent E)) ++
  if succeeded then "parse succeeded\n" else ""

/-- The lines of recorded events from depth `d` on, one event after the other. -/
def linesFrom (indent : String) : Int → List Event → List String
  | _, [] => []
  | d, e :: E => eventLine indent d e :: linesFrom indent (d + e.depthChange) E

@[simp] theorem depthBefore_zero (E : List Event) : depthBefore E 0 = 0 := by
  simp [depthBefore]

theorem depthBefore_cons_succ (e : Event) (E : List Event) (i : Nat) :
    depthBefore (e :: E) (i + 1) = e.depthChange + depthBefore E i := by
  cases e <;> simp [depthBefore, List.countP_cons, isEnter, isExit, depthChange] <;> omega

/-- Events from depth `d` give their lines at `d` plus the depth before each. -/
theorem linesFrom_eq_mapIdx (indent : String) (E : List Event) (d : Int) :
    linesFrom indent d E = E.mapIdx fun i e => eventLine indent (d + depthBefore E i) e := by
  induction E generalizing d with
  | nil => rfl
  | cons e E ih =>
    rw [linesFrom, ih, List.mapIdx_cons]
    simp [depthBefore_cons_succ, add_assoc]

theorem eventLines_eq_linesFrom (indent : String) (E : List Event) :
    eventLines indent E = linesFrom indent 0 E := by
  simp [linesFrom_eq_mapIdx, eventLines]

theorem length_linesFrom (indent : String) (d : Int) (E : List Event) :
    (linesFrom indent d E).length = E.length := by
  induction E generalizing d with
  | nil => rfl
  | cons e E ih => simp [linesFrom, ih]

theorem depthBefore_append_length (E E' : List Event) :
    depthBefore (E ++ E') E.length = depthBefore E E.length := by
  simp [depthBefore]

/-- The lines of events after others start at the depth those others leave. -/
theorem linesFrom_append (indent : String) (d : Int) (E E' : List Event) :
    linesFrom indent d (E ++ E') =
      linesFrom indent d E ++ linesFrom indent (d + depthBefore E E.length) E' := by
  induction E generalizing d with
  | nil => simp [linesFrom]
  | cons e E ih =>
    rw [List.cons_append, linesFrom, linesFrom, ih, List.length_cons, depthBefore_cons_succ,
      add_assoc]
    rfl

/-! ## Depth and open rules -/

/-- **The depth after events that nest is the number of rules they leave open**, counted
from the rules open before them. -/
theorem openAfter_depth {evs : List Event} {stk stk' : List Rule}
    (h : openAfter stk evs = some stk') :
    (stk'.length : Int) = stk.length + depthBefore evs evs.length := by
  induction evs generalizing stk with
  | nil =>
    cases h
    simp
  | cons e evs ih =>
    rw [List.length_cons, depthBefore_cons_succ]
    cases e with
    | enter r =>
      rw [ih h]
      simp [depthChange]
      omega
    | exit r =>
      cases stk with
      | nil => cases h
      | cons r' stk =>
        simp only [openAfter] at h
        split at h
        · rw [ih h]
          simp [depthChange]
        · cases h
    | accept t => simp [ih h, depthChange]
    | reject t x => simp [ih h, depthChange]
    | success => simp [ih h, depthChange]

/-! ## The tracer over recorded events -/

@[simp] theorem Trace.step_text_enter (indent source : String) (t : Trace) (r : Rule) :
    (t.step indent source (.enter r)).text =
      t.text ++ String.join (List.replicate t.depth indent) ++ ("begin " ++ r.label) ++ "\n" :=
  rfl

@[simp] theorem Trace.step_text_exit (indent source : String) (t : Trace) (r : Rule) :
    (t.step indent source (.exit r)).text =
      t.text ++ String.join (List.replicate (t.depth - 1) indent) ++ ("end " ++ r.label) ++
        "\n" :=
  rfl

@[simp] theorem Trace.step_text_accept (indent source : String) (t : Trace) (tok : Token) :
    (t.step indent source (.accept tok)).text =
      t.text ++ String.join (List.replicate t.depth indent) ++
        (tok.symbol.name ++ " " ++ Text.quote (if tok.symbol = .eof then "<EOF>" else tok.text) ++
          " on line " ++ toString tok.line) ++ "\n" :=
  rfl

@[simp] theorem Trace.step_depth_accept (indent source : String) (t : Trace) (tok : Token) :
    (t.step indent source (.accept tok)).depth = t.depth := rfl

/-- **Over recorded events that nest, the tracer writes their lines**, each at the number of
rules open before it. -/
theorem foldl_trace_text {indent source : String} {E : List Event}
    (hrec : ∀ e ∈ E, e.isRecorded = true) {stk stk' : List Rule}
    (h : openAfter stk E = some stk') (t : Trace) (ht : t.depth = stk.length) :
    (E.foldl (Trace.step indent source) t).text =
      t.text ++ String.join (linesFrom indent stk.length E) := by
  induction E generalizing stk t with
  | nil => simp [linesFrom]
  | cons e E ih =>
    have htail : ∀ e ∈ E, e.isRecorded = true := fun e he => hrec e (List.mem_cons_of_mem _ he)
    rw [List.foldl_cons]
    cases e with
    | enter r =>
      rw [ih htail h _ (by simp [ht])]
      simp [linesFrom, eventLine, indentBy, depthChange, ht, String.append_assoc]
    | exit r =>
      -- an exit leaves the innermost open rule, one level up
      cases stk with
      | nil => cases h
      | cons r' stk =>
        simp only [openAfter] at h
        split at h
        · rw [ih htail h _ (by simp [ht])]
          simp [linesFrom, eventLine, indentBy, depthChange, ht, String.append_assoc]
        · cases h
    | accept tok =>
      rw [ih htail h _ (by simp [ht])]
      simp [linesFrom, eventLine, indentBy, depthChange, ht, String.append_assoc]
    | reject tok x => cases hrec _ List.mem_cons_self
    | success => cases hrec _ List.mem_cons_self

/-! ## The events of a check -/

namespace Outcome

/-- **A piece never reports success**: only a whole check does. -/
def Quiet (o : Outcome) : Prop := Event.success ∉ o.events

end Outcome

/-- **No piece of the check reports success.** -/
theorem quiet_closed : Check.Closed (fun _ _ _ o => o.Quiet) where
  take c h _ _ _ := by
    rcases Cursor.take_cases h with ⟨t, f, -, ht⟩ | ⟨e, f, -, he⟩
    · simp [ht, Quiet, Outcome.events]
    · simp [he, Quiet, Outcome.events]
  stay c _ := by simp [Quiet, Step.stay, Outcome.events]
  reject c x _ _ _ _ _ _ := by simp [Quiet, Step.reject, Outcome.events]
  seq c o₁ o _ _ _ _ _ _ h₁ hdone hhalt := by
    cases o₁ with
    | done evs c' =>
      obtain ⟨o₂, h₂, rfl⟩ := hdone evs c' rfl
      cases o₂ <;> simp_all [Quiet, Outcome.after, Outcome.events]
    | halted evs fr cause =>
      rw [hhalt evs fr cause rfl]
      exact h₁
  inRule r _ o _ _ h := by
    cases o <;> simp_all [Quiet, Outcome.inRule, Outcome.events]
  choose _ _ _ _ _ _ _ h := h
  shrink _ _ _ _ _ _ h := h

/-- Events with no mismatch and no success are all recorded. -/
theorem isRecorded_of_quiet {evs : List Event} (hs : Event.success ∉ evs) (hr : rejects evs = 0) :
    ∀ e ∈ evs, e.isRecorded = true := by
  intro e he
  cases e with
  | reject t x => exact absurd (List.countP_eq_zero.1 hr _ he) (by simp [isReject])
  | success => exact absurd he hs
  | _ => rfl

theorem quiet_statementPart (c : Cursor) : (Check.statementPart c).1.Quiet :=
  quiet_closed.step .statementPart c

/-- **Only an accepting check reports success**: no piece of it does, and a check that
stops after its statement part stops before the success. -/
theorem halt_eq_none_of_success {f : Feed} (h : Event.success ∈ (check f).events) :
    (check f).halt = none := by
  rcases check_cases f with ⟨e, -, hcheck⟩ | ⟨c, evs, c', -, hsp, hcheck⟩ |
    ⟨c, evs, fr, cause, -, hsp, hcheck⟩
  · rw [hcheck] at h
    cases h
  · have hq := quiet_statementPart c
    rw [hsp] at hq
    -- an accepting check's success comes last; the other two stop before it
    rcases finish_cases evs c' with ⟨-, _, _, _, hfin⟩ | ⟨-, _, _, _, hfin⟩ | ⟨-, hfin⟩ <;>
      rw [hcheck, hfin] at h ⊢
    all_goals
      simp [Quiet, Outcome.events] at hq h
      exact absurd h hq
  · have hq := quiet_statementPart c
    rw [hsp] at hq
    rw [hcheck] at h
    exact absurd h hq

/-- **An accepting check reports recorded events that nest, then its success.** -/
theorem check_events_of_succeeds {f : Feed} (h : (check f).halt = none) :
    ∃ E, (check f).events = E ++ [.success] ∧ (∀ e ∈ E, e.isRecorded = true) ∧
      openAfter [] E = some [] := by
  obtain ⟨c, evs, c', hsp, -, hcheck⟩ := check_of_succeeds h
  have hquiet := quiet_statementPart c
  have hfr : (Check.statementPart c).1.Framed := framed_closed.step .statementPart c
  rw [hsp] at hquiet hfr
  obtain ⟨hb, hr⟩ := hfr
  refine ⟨evs ++ [.accept c'.look], by rw [hcheck]; simp, fun e he => ?_, ?_⟩
  · rcases List.mem_append.1 he with he | he
    · exact isRecorded_of_quiet hquiet hr e he
    · rw [List.mem_singleton.1 he]
      rfl
  · rw [openAfter_append, hb]
    rfl

/-- **A check stopped at a mismatch** reports recorded events that leave its frames open,
the mismatch, and then the exits of its frames. -/
theorem check_events_of_mismatch {f : Feed} {fr : List Rule} {t : Token} {x : Expected}
    (h : (check f).halt = some ⟨fr, .mismatch t x⟩) :
    ∃ pre, (check f).events = pre ++ .reject t x :: fr.reverse.map exit ∧
      (∀ e ∈ pre, e.isRecorded = true) ∧ openAfter [] pre = some fr.reverse := by
  obtain ⟨pre, hevs, hopen, hstop⟩ := check_framed h
  obtain ⟨-, pre', rfl, hr⟩ := hstop
  have hquiet : Event.success ∉ pre' := fun hmem => by
    have hnone := halt_eq_none_of_success (by rw [hevs]; simp [hmem])
    rw [h] at hnone
    cases hnone
  refine ⟨pre', by simp [hevs], isRecorded_of_quiet hquiet hr, ?_⟩
  rw [openAfter_append] at hopen
  simpa [openAfter] using hopen

/-- **A check stopped at a fault** reports only recorded events, and they nest. -/
theorem check_events_of_fault {f : Feed} {fr : List Rule} {e : Fault}
    (h : (check f).halt = some ⟨fr, .fault e⟩) :
    (∀ ev ∈ (check f).events, ev.isRecorded = true) ∧ openAfter [] (check f).events = some [] := by
  have hr : rejects (check f).events = 0 := by
    obtain ⟨pre, hevs, -, hstop⟩ := check_framed h
    obtain ⟨hpre, -⟩ := hstop
    rw [hevs, rejects_append, hpre, rejects_exits]
  have hquiet : Event.success ∉ (check f).events := fun hmem => by
    rw [halt_eq_none_of_success hmem] at h
    cases h
  exact ⟨isRecorded_of_quiet hquiet hr, (check_nested f "" "").1⟩

/-! ## The trace of a check -/

/-- The recorded events of events that are all recorded are themselves. -/
theorem filter_isRecorded_of_all {E : List Event} (hrec : ∀ e ∈ E, e.isRecorded = true) :
    E.filter Event.isRecorded = E :=
  List.filter_eq_self.2 hrec

/-- The recorder keeps no mismatch from events that report none. -/
theorem foldl_recorder_error {source : String} {evs : List Event} (hr : rejects evs = 0)
    (rec : Recording) : (evs.foldl (recorder source).hear rec).error = rec.error := by
  induction evs generalizing rec with
  | nil => rfl
  | cons e evs ih =>
    rw [List.foldl_cons, ih (by simp_all)]
    cases e <;> simp_all [recorder, isReject]

theorem rejects_of_recorded {E : List Event} (hrec : ∀ e ∈ E, e.isRecorded = true) :
    rejects E = 0 :=
  List.countP_eq_zero.2 fun e he => by
    have := hrec e he
    cases e <;> simp_all [isReject, Event.isRecorded]

/-- **An accepting check's trace**: the lines of its recorded events, then its success. -/
theorem check_trace_of_succeeds {f : Feed} (h : (check f).halt = none) (indent source : String) :
    ((check f).trace indent source).text = traceOf indent (check f).recorded none true := by
  obtain ⟨E, hevs, hrec, hopen⟩ := check_events_of_succeeds h
  have hE : (check f).recorded = E := by
    rw [Run.recorded, hevs, List.filter_append, filter_isRecorded_of_all hrec]
    simp [Event.isRecorded]
  rw [Run.trace, hevs, List.foldl_append, hE]
  -- the success is written at the depth the recorded events leave, zero
  have hdepth : (E.foldl (Trace.step indent source) ⟨"", 0⟩).depth = 0 :=
    depth_foldl hopen _ rfl
  simp only [List.foldl_cons, List.foldl_nil, Trace.step, Trace.line, hdepth]
  rw [foldl_trace_text hrec hopen _ rfl]
  simp [traceOf, eventLines_eq_linesFrom, String.append_assoc]

/-- **A check stopped at a mismatch has a trace with the syntax error line** at the depth of
the mismatch, before the exits of the rules open at it. -/
theorem check_trace_of_mismatch {f : Feed} {fr : List Rule} {t : Token} {x : Expected}
    (h : (check f).halt = some ⟨fr, .mismatch t x⟩) (indent source : String) :
    ((check f).trace indent source).text = traceOf indent (check f).recorded
      (some ((check f).recorded.length - fr.length,
        syntaxMessage source t.line x.text t.found)) false := by
  obtain ⟨pre, hevs, hrec, hopen⟩ := check_events_of_mismatch h
  have hexits : ∀ e ∈ fr.reverse.map exit, e.isRecorded = true := by
    intro e he
    obtain ⟨r, -, rfl⟩ := List.mem_map.1 he
    rfl
  have hE : (check f).recorded = pre ++ fr.reverse.map exit := by
    rw [Run.recorded, hevs, List.filter_append, List.filter_cons, filter_isRecorded_of_all hrec,
      filter_isRecorded_of_all hexits]
    rfl
  have hdepth : depthBefore pre pre.length = fr.length := by
    have := openAfter_depth hopen
    simp only [List.length_reverse, List.length_nil, Nat.cast_zero, zero_add] at this
    exact this.symm
  have hpre : (pre.foldl (Trace.step indent source) ⟨"", 0⟩).depth = fr.length := by
    simpa using depth_foldl hopen _ rfl
  have hout : openAfter fr.reverse (fr.reverse.map exit) = some [] := by
    simpa using openAfter_exits fr.reverse []
  rw [Run.trace, hevs, List.foldl_append, List.foldl_cons,
    foldl_trace_text hexits hout _ (by simp [Trace.step, Trace.line, hpre])]
  simp only [Trace.step, Trace.line, hpre]
  rw [foldl_trace_text hrec hopen _ rfl]
  -- the lines split where the mismatch was told, after the events before it
  have hm : (check f).recorded.length - fr.length = pre.length := by
    simp [hE]
  rw [hm, hE, traceOf, eventLines_eq_linesFrom, linesFrom_append,
    List.take_left' (length_linesFrom _ _ _), List.drop_left' (length_linesFrom _ _ _),
    depthBefore_append_length, hdepth]
  simp [indentBy, List.length_reverse, String.append_assoc]

/-- **A check stopped at a fault has the trace of its recorded events.** -/
theorem check_trace_of_fault {f : Feed} {fr : List Rule} {e : Fault}
    (h : (check f).halt = some ⟨fr, .fault e⟩) (indent source : String) :
    ((check f).trace indent source).text = traceOf indent (check f).recorded none false := by
  obtain ⟨hrec, hopen⟩ := check_events_of_fault h
  rw [Run.trace, foldl_trace_text hrec hopen _ rfl, Run.recorded, filter_isRecorded_of_all hrec]
  simp [traceOf, eventLines_eq_linesFrom]

/-- **The tracer, the recorder and a tee of both observe a check alike, and its trace is
determined by its recorded events.** The check ends the same way under each; the tee's
tracer and recorder end as each would alone; the recorder keeps the recorded events `E`;
the depth of the trace ends at zero; and the trace is the lines of `E`, each indented by the
rules open before it, with the line of the syntax error the observers were told of before
event `|E| - (|chain| - 1)`, and the success line when the check accepted. -/
theorem observers_trace_of_recorded (f : Feed) (indent source : String) :
    (tracer indent source).outcome source (check f) =
        (recorder source).outcome source (check f) ∧
      ((tracer indent source).tee (recorder source)).outcome source (check f) =
        (recorder source).outcome source (check f) ∧
      ((tracer indent source).tee (recorder source)).hearAll (check f).events =
        ((tracer indent source).hearAll (check f).events,
          (recorder source).hearAll (check f).events) ∧
      ((recorder source).hearAll (check f).events).events = (check f).recorded ∧
      ((tracer indent source).hearAll (check f).events).depth = 0 ∧
      ((tracer indent source).hearAll (check f).events).text =
        match (recorder source).outcome source (check f),
          ((recorder source).hearAll (check f).events).error with
        | some (.rejected chain), some (_, msg) =>
          traceOf indent (check f).recorded
            (some ((check f).recorded.length - (chain.length - 1), msg)) false
        | _, _ => traceOf indent (check f).recorded none (check f).succeeded := by
  have hrec := Observer.outcome_of_raises (o := recorder source) rfl source (check f)
  refine ⟨by rw [Observer.outcome_of_raises rfl, hrec],
    by rw [Observer.outcome_of_raises rfl, hrec], Observer.hearAll_tee _ _ _,
    recorder_events _ _, (check_nested f indent source).2.1, ?_⟩
  rw [tracer_hearAll, hrec]
  cases hh : (check f).halt with
  | none =>
    rw [check_trace_of_succeeds hh]
    simp [Run.succeeded, hh]
  | some stop =>
    obtain ⟨fr, cause⟩ := stop
    cases cause with
    | mismatch t x =>
      -- the recorder was told of the mismatch, and the chain has a link per frame and one more
      obtain ⟨pre, hevs, hpre, -⟩ := check_events_of_mismatch hh
      have herror : ((recorder source).hearAll (check f).events).error =
          some (t, syntaxMessage source t.line x.text t.found) := by
        rw [Observer.hearAll, hevs, List.foldl_append, List.foldl_cons,
          foldl_recorder_error (rejects_exits _)]
        rfl
      rw [herror, check_trace_of_mismatch hh]
      simp [Halt.failure, Halt.mismatchChain]
    | fault e =>
      obtain ⟨hall, -⟩ := check_events_of_fault hh
      have herror : ((recorder source).hearAll (check f).events).error = none :=
        foldl_recorder_error (rejects_of_recorded hall) _
      rw [herror, check_trace_of_fault hh]
      cases e <;> simp [Run.succeeded, hh, Halt.failure]

end ImpSyntax
