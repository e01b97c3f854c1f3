import ImpSyntax.Proofs.Nesting

/-!
# Error chains name the rules open at the stop

A stopped check is reported as a chain of errors, outermost first, with one link for each
frame of the stop. The statement here says what those frames are: the rules the check had
entered and not yet left when it stopped, in the order it entered them. After the stop the
check only leaves them, innermost first.

It also says who hears of the stop. A mismatch is the one mismatch the check reports, last
before leaving the rules, so an observer is told of it exactly once, with the message of the
last link; every link points at the same token. A lexical error is reported to no observer;
its links point at no token and quote its offending text. A fault outside every rule comes
either at the first pull, before anything happened, or at the pull after the end of input
was accepted, and its chain is the lexical error alone.
-/

namespace ImpSyntax

open Event

@[simp] theorem rejects_reverse (evs : List Event) : rejects evs.reverse = rejects evs :=
  List.countP_reverse

@[simp] theorem rejects_exits (rs : List Rule) : rejects (rs.map exit) = 0 := by
  induction rs with
  | nil => rfl
  | cons r rs ih => simp [ih, isReject]

/-- **The mismatch observers are told of** is the first one reported. -/
theorem reported_of_first {pre post : List Event} {t : Token} {x : Expected} {halt : Option Halt}
    (h : rejects pre = 0) (source : String) :
    Run.reported source ⟨pre ++ .reject t x :: post, halt⟩ =
      some (t, syntaxMessage source t.line x.text t.found) := by
  simp only [Run.reported, List.findSome?_append, List.findSome?_cons]
  rw [List.findSome?_eq_none_iff.2]
  · rfl
  · -- no event before the mismatch reports one
    intro e he
    have hr : ¬ e.isReject = true := List.countP_eq_zero.1 h e he
    cases e <;> simp_all [isReject]

/-- **How a check that stops is reported.** The events up to the stop leave open exactly
the rules of the chain, outermost first, and the check then leaves them, innermost first.
At a mismatch, the lookahead is the token every link points at, its message is the last
link's, and it is the one mismatch the observers are told of; the chain has no link for a
rule exactly when the end of input was expected. At a lexical error, no observer is told of
anything, every link but the last takes the error's line and offending text, and there is
no link for a rule exactly when the fault came at the first pull or after the end of input.
A check that accepts tells its observers of no mismatch. -/
theorem check_stop_chain (f : Feed) (source : String) :
    match (check f).halt with
    | none => rejects (check f).events = 0
    | some h => ∃ pre, (check f).events = pre ++ h.frames.reverse.map exit ∧
      openAfter [] pre = some h.frames.reverse ∧
      match h.cause with
      | .mismatch t x =>
        pre.getLast? = some (.reject t x) ∧ (x = .symbol .eof ↔ h.frames = []) ∧
        rejects (check f).events = 1 ∧
        (check f).reported source = some (t, syntaxMessage source t.line x.text t.found) ∧
        h.failure source = .rejected
          (h.frames.map (fun r =>
              .parse (syntaxMessage source t.line r.expects t.found) (some t) t.line) ++
            [.parse (syntaxMessage source t.line x.text t.found) (some t) t.line])
      | .fault (.lexical e) =>
        rejects (check f).events = 0 ∧
        ((pre = [] ∧ h.frames = []) ∨
          ∃ pre' t, pre = pre' ++ [.accept t] ∧ (t.symbol = .eof ↔ h.frames = [])) ∧
        h.failure source = .rejected
          (h.frames.map (fun r => .parse (syntaxMessage source e.line r.expects
              (if e.text = "" then "invalid input" else "'" ++ e.text ++ "'")) none e.line) ++
            [.lexical e])
      | .fault (.unreadable m) =>
        rejects (check f).events = 0 ∧ h.failure source = .unreadable m := by
  split
  · rename_i hh
    exact (check_balanced hh).2
  · rename_i h hh
    obtain ⟨pre, hevs, hopen, hstop⟩ := check_framed hh
    refine ⟨pre, hevs, hopen, ?_⟩
    obtain ⟨frames, cause⟩ := h
    cases cause with
    | mismatch t x =>
      obtain ⟨hx, pre', rfl, hr⟩ := hstop
      refine ⟨by simp, hx, by simp [hevs, hr, isReject], ?_, rfl⟩
      show Run.reported source ⟨(check f).events, (check f).halt⟩ = _
      rw [hevs, List.append_assoc, List.singleton_append]
      exact reported_of_first hr source
    | fault e =>
      obtain ⟨hr, hat⟩ := hstop
      cases e with
      | lexical e => exact ⟨by simp [hevs, hr], hat, rfl⟩
      | unreadable m => exact ⟨by simp [hevs, hr], rfl⟩

end ImpSyntax
