import Mathlib
import ImpSyntax.Proofs.Caret

/-!
# Checking several files

The `check` command checks its files one after the other, each on its own. A file that
cannot be opened gets an `[ERROR]` line, a file whose check fails gets its chain and its
snippet, and a file whose check succeeds gets its `[CHECK OK]` line with the number of
tokens of its text; the status becomes 2 at the first file that fails. Two kinds of file
are not reported but end the run with an error: a path holding a NUL character, which no
file system can open and which is refused before any is asked, and a file whose bytes are
not UTF-8.

The main statement, `check_runs_files_in_turn`, says that a run of `check` is the runs of
its files alone, one after the other (`Report.andThen`): their streams joined in order, up
to and including the first file whose run raises an error, and the status the largest of
theirs. It also says how the run of one file ends (`Report.Checks`). So a file that fails
never keeps the files after it from being checked, but a file that raises does:
`undecodable_file_stops_check` is a run whose first file is not UTF-8, and whose second file
is never checked.

Two generalisations carry the induction over the files: what a run wrote before a file is
only a prefix of what it writes (`checkFiles_append`), and a status of 2 reached before a
file stays (`checkFiles_status`).
-/

namespace ImpSyntax.Cli

/-! ## Runs one after the other -/

/-- **One run after another**: the second runs only when the first returned a status; their
streams are joined, and the status is the larger of the two. -/
def Report.andThen (r next : Report) : Report :=
  match r.ending with
  | .status n =>
    ⟨r.stdout ++ next.stdout, r.stderr ++ next.stderr,
      match next.ending with
      | .status m => .status (max n m)
      | e => e⟩
  | _ => r

/-- A report with `o` written before it. -/
def Report.after (o : Out) (r : Report) : Report :=
  ⟨o.stdout ++ r.stdout, o.stderr ++ r.stderr, r.ending⟩

/-- A report whose status is at least `s`. -/
def Report.atLeast (s : Nat) (r : Report) : Report :=
  ⟨r.stdout, r.stderr, match r.ending with
    | .status m => .status (max s m)
    | e => e⟩

/-- Two outputs, one after the other. -/
def Out.append (o x : Out) : Out := ⟨o.stdout ++ x.stdout, o.stderr ++ x.stderr⟩

namespace Out

variable (o x : Out)

@[simp] theorem append_empty : o.append ⟨"", ""⟩ = o := by
  simp [append]

@[simp] theorem append_warn (l : String) : (o.append x).warn l = o.append (x.warn l) := by
  simp [append, warn, String.append_assoc]

@[simp] theorem append_say (l : String) : (o.append x).say l = o.append (x.say l) := by
  simp [append, say, String.append_assoc]

@[simp] theorem append_debug (b : Bool) (l : String) :
    (o.append x).debug b l = o.append (x.debug b l) := by
  cases b <;> simp [debug]

@[simp] theorem append_warnAll (ls : List String) :
    (o.append x).warnAll ls = o.append (x.warnAll ls) := by
  induction ls generalizing x with
  | nil => rfl
  | cons l ls ih =>
    simp only [warnAll, List.foldl_cons] at ih ⊢
    rw [append_warn, ih]

@[simp] theorem stdout_warn (l : String) : (o.warn l).stdout = o.stdout := rfl

@[simp] theorem stdout_say (l : String) : (o.say l).stdout = o.stdout ++ l ++ "\n" := rfl

@[simp] theorem stdout_debug (b : Bool) (l : String) : (o.debug b l).stdout = o.stdout := by
  cases b <;> rfl

@[simp] theorem append_finish (e : Ending) : (o.append x).finish e = (x.finish e).after o := rfl

end Out

theorem loadFailure_append (o x : Out) (path : String) (e : LoadError) :
    loadFailure (o.append x) path e =
      (o.append (loadFailure x path e).1, (loadFailure x path e).2) := by
  cases e with
  | cannotOpen e => by_cases hs : e.isSystemError = true <;> simp [loadFailure, hs]
  | undecodable e => rfl

/-- A load failure that ends the run raises an error. -/
theorem loadFailure_raises {o : Out} {path : String} {e : LoadError} {ending : Ending}
    (h : (loadFailure o path e).2 = some ending) : ∃ k m, ending = .raised k m := by
  cases e with
  | cannotOpen e =>
    by_cases hs : e.isSystemError = true <;> simp only [loadFailure, hs] at h
    · cases h
    · cases h
      exact ⟨_, _, rfl⟩
  | undecodable e =>
    cases h
    exact ⟨_, _, rfl⟩

/-! ## The files one after the other -/

section Files

variable (read : Reader) (innermost debug : Bool)

/-- **What a run wrote before a file is a prefix of what it writes.** -/
theorem checkFiles_append (o x : Out) (s : Nat) (fs : List String) :
    checkFiles read innermost debug (o.append x) s fs =
      (checkFiles read innermost debug x s fs).after o := by
  induction fs generalizing x s with
  | nil => rfl
  | cons path more ih =>
    simp only [checkFiles]
    split
    · rename_i e _
      rw [loadFailure_append]
      obtain ⟨y, _ | ending⟩ := loadFailure x path e
      · exact ih y 2
      · rfl
    · simp only [Out.append_debug, Out.append_say, Out.append_warnAll, Out.append_finish]
      split
      · exact ih _ s
      · exact ih _ 2
      · rfl
      · rfl

theorem atLeast_atLeast {s t : Nat} (h : s ≤ t) (r : Report) :
    (r.atLeast t).atLeast s = r.atLeast t := by
  obtain ⟨out, err, e⟩ := r
  cases e with
  | status m =>
    simp only [Report.atLeast]
    rw [← max_assoc, max_eq_right h]
  | _ => rfl

/-- **A status of 2 reached before a file stays**, and one of 0 changes nothing. -/
theorem checkFiles_status (o : Out) {s : Nat} (hs : s ≤ 2) (fs : List String) :
    checkFiles read innermost debug o s fs =
      (checkFiles read innermost debug o 0 fs).atLeast s := by
  induction fs generalizing o s with
  | nil => simp [checkFiles, Out.finish, Report.atLeast]
  | cons path more ih =>
    simp only [checkFiles]
    split
    · rename_i e _
      rcases hl : loadFailure o path e with ⟨y, _ | ending⟩
      · -- the file failed: the status is 2 from here on, whatever it was
        dsimp only
        rw [ih y le_rfl, atLeast_atLeast hs]
      · obtain ⟨k, m, rfl⟩ := loadFailure_raises (congrArg Prod.snd hl)
        rfl
    · split
      · exact ih _ hs
      · rw [ih _ le_rfl, atLeast_atLeast hs]
      · rfl
      · rfl

/-- **A run from some output and a status up to 2** is the run from nothing, with that
output before it and that status at least. -/
theorem checkFiles_from (o : Out) {s : Nat} (hs : s ≤ 2) (fs : List String) :
    checkFiles read innermost debug o s fs =
      ((checkFiles read innermost debug ⟨"", ""⟩ 0 fs).atLeast s).after o := by
  rw [← checkFiles_status read innermost debug _ hs, ← checkFiles_append, Out.append_empty]

theorem finish_andThen (o : Out) (s : Nat) (r : Report) :
    (o.finish (.status s)).andThen r = (r.atLeast s).after o := by
  obtain ⟨out, err, e⟩ := r
  cases e <;> rfl

/-- **Checking a file and then the rest** is the run of the file alone, then the run of the
rest. -/
theorem checkFiles_cons (path : String) (more : List String) :
    checkFiles read innermost debug ⟨"", ""⟩ 0 (path :: more) =
      (checkFiles read innermost debug ⟨"", ""⟩ 0 [path]).andThen
        (checkFiles read innermost debug ⟨"", ""⟩ 0 more) := by
  simp only [checkFiles]
  split
  · rename_i e _
    rcases hl : loadFailure ⟨"", ""⟩ path e with ⟨y, _ | ending⟩
    · dsimp only
      rw [checkFiles_from read innermost debug y (by decide), finish_andThen]
    · obtain ⟨k, m, rfl⟩ := loadFailure_raises (congrArg Prod.snd hl)
      rfl
  · split
    · rw [checkFiles_from read innermost debug _ (Nat.zero_le 2), finish_andThen]
    · rw [checkFiles_from read innermost debug _ (le_refl 2), finish_andThen]
    · rfl
    · rfl

/-- **A run of `check` is the runs of its files alone, one after the other.** -/
theorem checkFiles_eq_foldr (fs : List String) :
    checkFiles read innermost debug ⟨"", ""⟩ 0 fs =
      (fs.map fun f => checkFiles read innermost debug ⟨"", ""⟩ 0 [f]).foldr Report.andThen
        ⟨"", "", .status 0⟩ := by
  induction fs with
  | nil => rfl
  | cons f fs ih =>
    rw [checkFiles_cons, ih]
    rfl

end Files

/-! ## The check of one file -/

/-- **A check of a text that stops is a syntax error**: its failure is a chain, never an
unreadable source or an unheeded mismatch. -/
theorem checkText_failure {s : String} {h : Halt} (hh : (checkText s).halt = some h)
    (source : String) : ∃ chain, h.failure source = .rejected chain := by
  rcases checkText_halt_placed hh with ⟨t, x, hc, -⟩ | ⟨e, hc, -⟩
  · exact ⟨Halt.mismatchChain source h.frames t x, by simp [Halt.failure, hc]⟩
  · exact ⟨Halt.lexicalChain source h.frames e, by simp [Halt.failure, hc]⟩

/-- **How the check of one file ends.** It raises an error exactly when the file's path is
refused before any file system is asked (it holds a NUL character) or the file's bytes are
not UTF-8. It returns 2 exactly when the file cannot be opened, or its text fails to lex or
to parse. When its text passes, it returns 0 and writes the `[CHECK OK]` line with the
number of tokens of the text, the end of input included. -/
structure Report.Checks (read : Reader) (path : String) (r : Report) : Prop where
  raises : (∃ k m, r.ending = .raised k m) ↔
    (∃ e, loadFile read path = .error (.cannotOpen e) ∧ e.isSystemError = false) ∨
      ∃ e, loadFile read path = .error (.undecodable e)
  fails : r.ending = .status 2 ↔
    (∃ e, loadFile read path = .error (.cannotOpen e) ∧ e.isSystemError = true) ∨
      ∃ src, loadFile read path = .ok src ∧ (checkText src).halt ≠ none
  passes : ∀ src, loadFile read path = .ok src → (checkText src).halt = none →
    r.ending = .status 0 ∧
      r.stdout = "[CHECK OK] " ++ path ++ " terminals=" ++ toString (lex src).toList.1.length ++
        "\n"

section Files

variable (read : Reader) (innermost debug : Bool)

/-- **The check of one file alone ends as `Report.Checks` says.** -/
theorem checkFiles_checks (path : String) :
    (checkFiles read innermost debug ⟨"", ""⟩ 0 [path]).Checks read path := by
  cases hl : loadFile read path with
  | error e =>
    cases e with
    | cannotOpen e =>
      by_cases hs : e.isSystemError = true
      · constructor <;> simp [checkFiles, hl, loadFailure, hs, Out.finish]
      · constructor <;> simp [checkFiles, hl, loadFailure, hs, Out.finish]
    | undecodable e => constructor <;> simp [checkFiles, hl, loadFailure, Out.finish]
  | ok src =>
    cases hh : (checkText src).halt with
    | none =>
      have hterm := (checkText_terminals src).2 hh
      constructor <;> simp [checkFiles, hl, hh, hterm, Out.finish]
    | some h =>
      obtain ⟨chain, hc⟩ := checkText_failure hh path
      constructor <;> simp [checkFiles, hl, hh, hc, Out.finish]

end Files

/-! ## The command -/

/-- **A command line that parses as `check`** checks its files with its flags. -/
theorem run_check {read : Reader} {argv : List String} {vs : Args.Values}
    (hparse : commandLine.parse argv = .ok vs) (hcmd : vs.one? "cmd" = some "check") :
    run read argv =
      checkFiles read (vs.flag "innermost_first") (vs.flag "debug") ⟨"", ""⟩ 0 (vs.many "files") := by
  simp [run, hparse, hcmd]

/-- **A run of `check` is the runs of its files alone, one after the other**: their streams
joined in the order of the files, up to and including the first file whose run raises an
error, which the run then raises; otherwise the status is the largest of theirs. Each file
alone raises exactly when its path holds a NUL character or its bytes are not UTF-8,
returns 2 exactly when it cannot be opened or its text fails to lex or to parse, and
passes with the number of tokens of its text. -/
theorem check_runs_files_in_turn (read : Reader) {argv : List String} {vs : Args.Values}
    (hparse : commandLine.parse argv = .ok vs) (hcmd : vs.one? "cmd" = some "check") :
    run read argv = ((vs.many "files").map fun f =>
        checkFiles read (vs.flag "innermost_first") (vs.flag "debug") ⟨"", ""⟩ 0 [f]).foldr
        Report.andThen ⟨"", "", .status 0⟩ ∧
      ∀ f, (checkFiles read (vs.flag "innermost_first") (vs.flag "debug") ⟨"", ""⟩ 0 [f]).Checks
        read f :=
  ⟨(run_check hparse hcmd).trans (checkFiles_eq_foldr ..), fun f => checkFiles_checks read _ _ f⟩

/-- **Two files**: `a.prog`, one byte that is not UTF-8, and `b.prog`, a program. -/
def undecodableThenProgram : Reader := fun p =>
  if p = "a.prog" then .ok [0xff]
  else if p = "b.prog" then .ok "begin x := 1 end".toUTF8.toList
  else .error .notFound

/-- What `check -D a.prog b.prog` parses to, the latest value of each name first. -/
def debugCheckValues : Args.Values :=
  [("files", .many ["a.prog", "b.prog"]), ("debug", .flag true), ("debug", .flag false),
    ("innermost_first", .flag false), ("files", .unset), ("cmd", .one "check"), ("cmd", .unset)]

/-- Checking `a.prog` and `b.prog` with `-D` is the runs of the two files in turn. -/
theorem debugCheck_runs_files_in_turn :
    commandLine.parse ["check", "-D", "a.prog", "b.prog"] = .ok debugCheckValues ∧
      debugCheckValues.one? "cmd" = some "check" ∧
      (run undecodableThenProgram ["check", "-D", "a.prog", "b.prog"] =
        ((debugCheckValues.many "files").map fun f =>
          checkFiles undecodableThenProgram (debugCheckValues.flag "innermost_first")
            (debugCheckValues.flag "debug") ⟨"", ""⟩ 0 [f]).foldr
          Report.andThen ⟨"", "", .status 0⟩ ∧
        ∀ f, (checkFiles undecodableThenProgram (debugCheckValues.flag "innermost_first")
          (debugCheckValues.flag "debug") ⟨"", ""⟩ 0 [f]).Checks undecodableThenProgram f) := by
  have hparse : commandLine.parse ["check", "-D", "a.prog", "b.prog"] = .ok debugCheckValues := by
    have h : (commandLine.parse ["check", "-D", "a.prog", "b.prog"]).toOption =
        some debugCheckValues := by
      decide +kernel
    revert h
    cases commandLine.parse ["check", "-D", "a.prog", "b.prog"] <;> simp [Except.toOption]
  have hcmd : debugCheckValues.one? "cmd" = some "check" := by decide
  exact ⟨hparse, hcmd, check_runs_files_in_turn undecodableThenProgram hparse hcmd⟩

/-- **A file that is not UTF-8 stops the run**: checking `a.prog` and then `b.prog` raises the
decoding error and writes nothing, though `b.prog` alone passes. -/
theorem undecodable_file_stops_check :
    (run undecodableThenProgram ["check", "a.prog", "b.prog"]).ending =
        .raised "UnicodeDecodeError"
          "'utf-8' codec can't decode byte 0xff in position 0: invalid start byte" ∧
      (run undecodableThenProgram ["check", "a.prog", "b.prog"]).stdout = "" ∧
      (run undecodableThenProgram ["check", "b.prog"]).stdout =
        "[CHECK OK] b.prog terminals=6\n" := by
  decide +kernel

end ImpSyntax.Cli
