import ImpSyntax.Proofs.RuleInduction
import ImpSyntax.Report.Record
import ImpSyntax.Report.Trace

/-!
# Rules open and left

A check reports entering and leaving each rule, and the reports nest: every exit leaves the
rule entered last and not left yet, and no check ends with a rule open, whether it accepts
or stops. The rules open after some events form a stack (`Event.openAfter`); a trace indents
by its height, so its depth never has to go below zero and is zero again at the end
(`check_nested`).

The reason is the shape of a stop. A piece of the check that stops reports the stop and
then leaves, innermost first, exactly the rules that were open when it stopped: the frames
of the stop (`Outcome.Framed`). Leaving them happens on the way out of each rule, and so it
happens however the check stops: at a mismatch or at a fault of the feed.
-/

namespace ImpSyntax

/-! ## How a check runs -/

/-- **A check stops at the first pull, or runs the statement part**, which finishes or
stops. -/
theorem check_cases (f : Feed) :
    (∃ e, Cursor.start f = .error e ∧ check f = ⟨[], some ⟨[], .fault e⟩⟩) ∨
    (∃ c evs c', Cursor.start f = .ok c ∧ (Check.statementPart c).1 = .done evs c' ∧
      check f = Check.finish evs c') ∨
    (∃ c evs fr cause, Cursor.start f = .ok c ∧
      (Check.statementPart c).1 = .halted evs fr cause ∧ check f = ⟨evs, some ⟨fr, cause⟩⟩) := by
  unfold check
  cases hs : Cursor.start f with
  | error e => exact .inl ⟨e, rfl, rfl⟩
  | ok c =>
    cases ho : (Check.statementPart c).1 with
    | done evs c' => exact .inr (.inl ⟨c, evs, c', rfl, ho, by simp only [ho]⟩)
    | halted evs fr cause => exact .inr (.inr ⟨c, evs, fr, cause, rfl, ho, by simp only [ho]⟩)

/-- **After the statement part**, the end of input is accepted and one more pull made, or
the lookahead is a mismatch. -/
theorem finish_cases (evs : List Event) (c : Cursor) :
    (c.look.symbol = .eof ∧ ∃ t f, c.feed.pull = (.ok t, f) ∧
      Check.finish evs c = ⟨evs ++ [.accept c.look, .success], none⟩) ∨
    (c.look.symbol = .eof ∧ ∃ e f, c.feed.pull = (.error e, f) ∧
      Check.finish evs c = ⟨evs ++ [.accept c.look], some ⟨[], .fault e⟩⟩) ∨
    (c.look.symbol ≠ .eof ∧ Check.finish evs c =
      ⟨evs ++ [.reject c.look (.symbol .eof)], some ⟨[], .mismatch c.look (.symbol .eof)⟩⟩) := by
  unfold Check.finish
  by_cases heof : c.look.symbol = .eof
  · rw [if_pos heof]
    rcases hp : c.feed.pull with ⟨_ | t, f⟩
    · exact .inr (.inl ⟨heof, _, f, rfl, rfl⟩)
    · exact .inl ⟨heof, t, f, rfl, rfl⟩
  · rw [if_neg heof]
    exact .inr (.inr ⟨heof, rfl⟩)

namespace Event

/-- **The rules open after events**, innermost first, starting from the open rules `stk`;
nothing when an exit does not leave the innermost open rule. -/
def openAfter : List Rule → List Event → Option (List Rule)
  | stk, [] => some stk
  | stk, .enter r :: evs => openAfter (r :: stk) evs
  | [], .exit _ :: _ => none
  | r' :: stk, .exit r :: evs => if r' = r then openAfter stk evs else none
  | stk, .accept _ :: evs => openAfter stk evs
  | stk, .reject _ _ :: evs => openAfter stk evs
  | stk, .success :: evs => openAfter stk evs

/-- **Well-nested events**: every exit leaves the innermost open rule, and no rule is left
open at the end. -/
def Nested (evs : List Event) : Prop := openAfter [] evs = some []

instance : DecidablePred Nested := fun evs =>
  inferInstanceAs (Decidable (openAfter [] evs = some []))

/-- **Balanced events** leave open what was open before them. -/
def Balanced (evs : List Event) : Prop := ∀ stk, openAfter stk evs = some stk

/-- Whether an event reports a mismatch. -/
def isReject : Event → Bool
  | .reject .. => true
  | _ => false

/-- **The number of mismatches** events report. -/
def rejects (evs : List Event) : Nat := evs.countP isReject

@[simp] theorem rejects_nil : rejects [] = 0 := rfl

@[simp] theorem rejects_cons (e : Event) (evs : List Event) :
    rejects (e :: evs) = rejects evs + if e.isReject then 1 else 0 :=
  List.countP_cons

@[simp] theorem rejects_append (evs evs' : List Event) :
    rejects (evs ++ evs') = rejects evs + rejects evs' :=
  List.countP_append

theorem openAfter_append (stk : List Rule) (evs evs' : List Event) :
    openAfter stk (evs ++ evs') = (openAfter stk evs).bind (openAfter · evs') := by
  induction evs generalizing stk with
  | nil => rfl
  | cons e evs ih =>
    cases e with
    | enter r => exact ih (r :: stk)
    | exit r =>
      cases stk with
      | nil => rfl
      | cons r' stk =>
        simp only [List.cons_append, openAfter]
        split
        · exact ih stk
        · rfl
    | accept t => exact ih stk
    | reject t x => exact ih stk
    | success => exact ih stk

/-- Leaving rules innermost first empties the stack of them. -/
theorem openAfter_exits (rs stk : List Rule) :
    openAfter (rs ++ stk) (rs.map exit) = some stk := by
  induction rs with
  | nil => rfl
  | cons r rs ih =>
    simp only [List.cons_append, List.map_cons, openAfter]
    exact ih

theorem Balanced.append {evs evs' : List Event} (h : Balanced evs) (h' : Balanced evs') :
    Balanced (evs ++ evs') := by
  intro stk
  rw [openAfter_append, h stk]
  exact h' stk

/-- **A rule around balanced events** is balanced. -/
theorem Balanced.inRule {evs : List Event} (h : Balanced evs) (r : Rule) :
    Balanced (.enter r :: evs ++ [.exit r]) := by
  intro stk
  rw [List.cons_append, openAfter, openAfter_append, h]
  simp [openAfter]

theorem Balanced.nested {evs : List Event} (h : Balanced evs) : Nested evs := h []

/-! ## The depth of a trace -/

@[simp] theorem depth_step_enter (indent source : String) (t : Trace) (r : Rule) :
    (t.step indent source (.enter r)).depth = t.depth + 1 := rfl

@[simp] theorem depth_step_exit (indent source : String) (t : Trace) (r : Rule) :
    (t.step indent source (.exit r)).depth = t.depth - 1 := rfl

/-- **The depth of a trace is the number of open rules**, while the events nest. -/
theorem depth_foldl {indent source : String} {evs : List Event} {stk stk' : List Rule}
    (h : openAfter stk evs = some stk') (t : Trace) (ht : t.depth = stk.length) :
    (evs.foldl (Trace.step indent source) t).depth = stk'.length := by
  induction evs generalizing stk t with
  | nil =>
    cases h
    exact ht
  | cons e evs ih =>
    rw [List.foldl_cons]
    cases e with
    | enter r => exact ih h _ (by simp [ht])
    | exit r =>
      cases stk with
      | nil => cases h
      | cons r' stk =>
        simp only [openAfter] at h
        split at h
        · exact ih h _ (by simp [ht])
        · cases h
    | accept tok => exact ih h _ ht
    | reject tok x => exact ih h _ ht
    | success => exact ih h _ ht

/-- **An exit happens at a positive depth**, when the events nest up to it. -/
theorem depth_pos_of_exit {indent source : String} (pre : List Event) (r : Rule)
    (post : List Event) (h : openAfter [] (pre ++ .exit r :: post) ≠ none) :
    0 < (pre.foldl (Trace.step indent source) ⟨"", 0⟩).depth := by
  rw [openAfter_append] at h
  cases hp : openAfter [] pre with
  | none => simp [hp] at h
  | some stk =>
    rw [depth_foldl hp _ rfl]
    cases stk with
    | nil =>
      rw [hp] at h
      exact absurd rfl h
    | cons r' stk => exact Nat.succ_pos _

end Event

namespace Outcome

open Event

/-- **How a piece stops**, by the events up to the stop: at a mismatch it reports, the
first it reports, for something other than the end of input; or at a fault of the pull
after accepting a token other than the end of input, with no mismatch reported. -/
def Stops (pre : List Event) : Cause → Prop
  | .mismatch t x =>
    x ≠ .symbol .eof ∧ ∃ pre', pre = pre' ++ [.reject t x] ∧ rejects pre' = 0
  | .fault _ => rejects pre = 0 ∧ ∃ pre' t, pre = pre' ++ [.accept t] ∧ t.symbol ≠ .eof

/-- **The frames of an outcome.** A finished piece is balanced and reports no mismatch. A
stopped piece reports its stop, then leaves, innermost first, exactly the rules that were
open at the stop: its frames, outermost first. -/
def Framed : Outcome → Prop
  | .done evs _ => Balanced evs ∧ rejects evs = 0
  | .halted evs fr cause => ∃ pre, evs = pre ++ fr.reverse.map exit ∧
      (∀ stk, openAfter stk pre = some (fr.reverse ++ stk)) ∧ Stops pre cause

theorem Stops.append {evs pre : List Event} {cause : Cause} (hr : rejects evs = 0)
    (h : Stops pre cause) : Stops (evs ++ pre) cause := by
  cases cause with
  | mismatch t x =>
    obtain ⟨hx, pre', rfl, hr'⟩ := h
    exact ⟨hx, evs ++ pre', by simp, by simp [hr, hr']⟩
  | fault e =>
    obtain ⟨hr', pre', t, rfl, ht⟩ := h
    exact ⟨by simp [hr, hr'], evs ++ pre', t, by simp, ht⟩

/-- Framed events after balanced ones without a mismatch are framed. -/
theorem Framed.after {evs : List Event} {o : Outcome} (hb : Balanced evs) (hr : rejects evs = 0)
    (h : o.Framed) : (o.after evs).Framed := by
  cases o with
  | done evs' c' =>
    obtain ⟨hb', hr'⟩ := h
    exact ⟨hb.append hb', by simp [hr, hr']⟩
  | halted evs' fr cause =>
    obtain ⟨pre, rfl, hpre, hstop⟩ := h
    refine ⟨evs ++ pre, by simp, fun stk => ?_, hstop.append hr⟩
    rw [openAfter_append, hb stk]
    exact hpre stk

/-- **A stop inside a rule has that rule as its outermost frame.** -/
theorem Framed.inRule {o : Outcome} (h : o.Framed) (r : Rule) : (o.inRule r).Framed := by
  cases o with
  | done evs c' =>
    obtain ⟨hb, hr⟩ := h
    exact ⟨hb.inRule r, by simp [isReject, hr]⟩
  | halted evs fr cause =>
    obtain ⟨pre, rfl, hpre, hstop⟩ := h
    refine ⟨.enter r :: pre, by simp, fun stk => ?_, ?_⟩
    · -- the rule entered first is the last to be left
      rw [openAfter, hpre]
      simp
    · exact Stops.append (show rejects [.enter r] = 0 from rfl) hstop

end Outcome

open Event Outcome

/-- **Every piece of the check is framed.** -/
theorem framed_closed : Check.Closed (fun _ _ _ o => o.Framed) where
  take c h _ _ _ := by
    rcases Cursor.take_cases h with ⟨t, f, -, ht⟩ | ⟨e, f, -, he⟩
    · rw [ht]
      exact ⟨fun _ => rfl, rfl⟩
    · rw [he]
      exact ⟨[.accept c.look], by simp, fun _ => rfl, rfl, [], c.look, rfl, h⟩
  stay c _ := ⟨fun _ => rfl, rfl⟩
  reject c x _ _ hx _ _ _ := ⟨[.reject c.look x], by simp, fun _ => rfl, hx, [], rfl, rfl⟩
  seq c o₁ o _ _ _ _ _ _ h₁ hdone hhalt := by
    cases o₁ with
    | done evs c' =>
      obtain ⟨o₂, h₂, rfl⟩ := hdone evs c' rfl
      exact Framed.after h₁.1 h₁.2 h₂
    | halted evs fr cause =>
      rw [hhalt evs fr cause rfl]
      exact h₁
  inRule r _ _ _ _ h := h.inRule r
  choose _ _ _ _ _ _ _ h := h
  shrink _ _ _ _ _ _ h := h

/-- A stop inside the statement part has it as its outermost frame. -/
theorem frames_statementPart {c : Cursor} {evs : List Event} {fr : List Rule} {cause : Cause}
    (h : (Check.statementPart c).1 = .halted evs fr cause) : fr ≠ [] := by
  rw [Check.statementPart, Step.bracket_val] at h
  generalize (Move.andThen _ _).1 = o at h
  cases o with
  | done => cases h
  | halted => cases h; exact List.cons_ne_nil _ _

/-- **How a check stops**, by the events up to the stop and the rules open then. A mismatch
is the only one reported; it is outside every rule exactly when the end of input was
expected. A fault comes at the first pull, before anything, or at the pull after an
accepted token; it is outside every rule exactly when that token was the end of input. -/
def Halt.StopsAfter (pre : List Event) (h : Halt) : Prop :=
  match h.cause with
  | .mismatch t x => (x = .symbol .eof ↔ h.frames = []) ∧
      ∃ pre', pre = pre' ++ [.reject t x] ∧ rejects pre' = 0
  | .fault _ => rejects pre = 0 ∧
      ((pre = [] ∧ h.frames = []) ∨
        ∃ pre' t, pre = pre' ++ [.accept t] ∧ (t.symbol = .eof ↔ h.frames = []))

/-- **An accepting check is balanced** and reports no mismatch. -/
theorem check_balanced {f : Feed} (h : (check f).halt = none) :
    Balanced (check f).events ∧ rejects (check f).events = 0 := by
  rcases check_cases f with ⟨e, -, hf⟩ | ⟨c, evs, c', -, hsp, hf⟩ | ⟨c, evs, fr, cause, -, -, hf⟩
  · rw [hf] at h
    cases h
  · have hfr : (Check.statementPart c).1.Framed := framed_closed.step .statementPart c
    rw [hsp] at hfr
    obtain ⟨hb, hr⟩ := hfr
    rcases finish_cases evs c' with ⟨-, t, f', -, hfin⟩ | ⟨-, e, f', -, hfin⟩ | ⟨-, hfin⟩ <;>
      rw [hf, hfin] at h ⊢
    · exact ⟨hb.append (fun _ => rfl), by simp [isReject, hr]⟩
    · cases h
    · cases h
  · rw [hf] at h
    cases h

/-- **A stopped check reports its stop, then leaves the rules open at it.** -/
theorem check_framed {f : Feed} {h : Halt} (hh : (check f).halt = some h) :
    ∃ pre, (check f).events = pre ++ h.frames.reverse.map exit ∧
      openAfter [] pre = some h.frames.reverse ∧ h.StopsAfter pre := by
  rcases check_cases f with ⟨e, -, hf⟩ | ⟨c, evs, c', -, hsp, hf⟩ | ⟨c, evs, fr, cause, -, hsp, hf⟩
  · -- a fault on the first pull
    rw [hf] at hh ⊢
    cases hh
    exact ⟨[], rfl, rfl, rfl, .inl ⟨rfl, rfl⟩⟩
  · have hfr : (Check.statementPart c).1.Framed := framed_closed.step .statementPart c
    rw [hsp] at hfr
    obtain ⟨hb, hr⟩ := hfr
    rcases finish_cases evs c' with ⟨-, t, f', -, hfin⟩ | ⟨heof, e, f', -, hfin⟩ | ⟨hne, hfin⟩ <;>
      rw [hf, hfin] at hh ⊢
    · cases hh
    · -- a fault on the pull after the end of input
      cases hh
      refine ⟨evs ++ [.accept c'.look], by simp, by rw [openAfter_append, hb]; rfl, ?_, ?_⟩
      · simp [isReject, hr]
      · exact .inr ⟨evs, c'.look, rfl, by simp [heof]⟩
    · -- a lookahead other than the end of input after the statement part
      cases hh
      exact ⟨evs ++ [.reject c'.look (.symbol .eof)], by simp,
        by rw [openAfter_append, hb]; rfl, by simp, evs, rfl, hr⟩
  · -- a stop inside the statement part
    rw [hf] at hh ⊢
    cases hh
    have hne := frames_statementPart hsp
    have hfr : (Check.statementPart c).1.Framed := framed_closed.step .statementPart c
    rw [hsp] at hfr
    obtain ⟨pre, rfl, hpre, hstop⟩ := hfr
    refine ⟨pre, rfl, by simpa using hpre [], ?_⟩
    cases cause with
    | mismatch t x =>
      obtain ⟨hx, hpre'⟩ := hstop
      exact ⟨by simp [hx, hne], hpre'⟩
    | fault e =>
      obtain ⟨hr, pre', t, rfl, ht⟩ := hstop
      exact ⟨hr, .inr ⟨pre', t, rfl, by simp [ht, hne]⟩⟩

/-- **The events of a check nest**, whether it accepts or stops at a mismatch or a fault:
every exit leaves the innermost open rule, and none is left open at the end. So the depth
of its trace is positive at every exit and zero at the end. -/
theorem check_nested (f : Feed) (indent source : String) :
    Nested (check f).events ∧ ((check f).trace indent source).depth = 0 ∧
      ∀ pre r post, (check f).events = pre ++ .exit r :: post →
        0 < (pre.foldl (Trace.step indent source) ⟨"", 0⟩).depth := by
  have hn : Nested (check f).events := by
    cases hh : (check f).halt with
    | none => exact (check_balanced hh).1.nested
    | some h =>
      obtain ⟨pre, hevs, hpre, -⟩ := check_framed hh
      rw [Nested, hevs, openAfter_append, hpre]
      simpa using openAfter_exits h.frames.reverse []
  refine ⟨hn, depth_foldl hn _ rfl, fun pre r post hevs => depth_pos_of_exit pre r post ?_⟩
  rw [← hevs, hn]
  exact Option.some_ne_none _

end ImpSyntax
