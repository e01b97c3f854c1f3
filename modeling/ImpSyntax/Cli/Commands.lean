import ImpSyntax.Cli.Spec
import ImpSyntax.Cli.Files
import ImpSyntax.Report.Record
import ImpSyntax.Report.Trace
import ImpSyntax.Source.Load
import ImpSyntax.Source.Snippet

/-!
# Running the checker's commands

Each command writes lines to an output stream and an error stream and ends with a status:
0 when all went well, 2 otherwise. A usage error or a help request ends the program with
the option parser's own status instead, and a file that is not UTF-8, or a path holding a
NUL character, ends it with an error that no command handles.

* `check` checks each file in turn: an unreadable file gets an `[ERROR]` line, a program
  with a syntax error gets `[SYNTAX ERROR]`, its chain and a caret snippet at the
  innermost error, and a correct one gets `[CHECK OK] path terminals=N`. The status is 2
  if any file failed.
* `trace` writes the trace of one file, and on a syntax error the same report as `check`.
* `lex` lists every token of a text, or of a file, as `NNN: SYMBOL 'text'  @line:col`, or
  reports the lexical error that stops it.

With `-D`, `check` and `trace` report on the error stream how many characters they
loaded and, when a check ends, how many events and tokens it recorded.
-/

namespace ImpSyntax.Cli

/-- **How a run of the program ends.** -/
inductive Ending where
  /-- The status the program returns. -/
  | status (n : Nat)
  /-- The option parser ended the program with this status. -/
  | exit (n : Nat)
  /-- An error no command handles: its kind and message. -/
  | raised (kind message : String)
  deriving DecidableEq, Repr, Inhabited

/-- **What a run of the program shows**: its two streams and how it ended. -/
structure Report where
  stdout : String
  stderr : String
  ending : Ending
  deriving Inhabited

/-- The two streams written so far. -/
structure Out where
  stdout : String
  stderr : String
  deriving Inhabited

namespace Out

/-- Writing a line to the output stream. -/
def say (o : Out) (line : String) : Out := { o with stdout := o.stdout ++ line ++ "\n" }

/-- Writing a line to the error stream. -/
def warn (o : Out) (line : String) : Out := { o with stderr := o.stderr ++ line ++ "\n" }

/-- Writing a line to the error stream when `on` holds. -/
def debug (o : Out) (on : Bool) (line : String) : Out := if on then o.warn line else o

/-- Ending the run. -/
def finish (o : Out) (e : Ending) : Report := ⟨o.stdout, o.stderr, e⟩

end Out

/-- **Why a program file cannot be loaded.** -/
inductive LoadError where
  | cannotOpen (e : OpenError)
  | undecodable (e : Text.DecodeError)

/-- **Loading a program file.** -/
def loadFile (read : Reader) (path : String) : Except LoadError String :=
  match read path with
  | .error e => .error (.cannotOpen e)
  | .ok bs =>
    match Source.load bs with
    | .error e => .error (.undecodable e)
    | .ok text => .ok text

/-- **A load failure**: an open error of the system is reported and the program goes on
(`none`); any other failure ends the run. -/
def loadFailure (o : Out) (path : String) : LoadError → Out × Option Ending
  | .cannotOpen e =>
    if e.isSystemError then (o.warn ("[ERROR] " ++ e.kind ++ " " ++ e.message path), none)
    else (o, some (.raised e.kind (e.message path)))
  | .undecodable e => (o, some (.raised "UnicodeDecodeError" e.message))

/-- **The report of a syntax error**: the chain, then a caret snippet at the innermost
link's place, when it has one. -/
def syntaxErrorLines (chain : List Link) (src : String) (innermostFirst : Bool) : List String :=
  ["[SYNTAX ERROR]", chainText chain innermostFirst] ++
    match chain.getLast?.bind Link.place? with
    | some p => [Source.snippet src p.line p.col]
    | none => []

/-- Writing several lines to the error stream. -/
def Out.warnAll (o : Out) (lines : List String) : Out := lines.foldl Out.warn o

/-- **`check`**, file after file, from status `status`. -/
def checkFiles (read : Reader) (innermostFirst debug : Bool) :
    Out → Nat → List String → Report
  | o, status, [] => o.finish (.status status)
  | o, status, path :: more =>
    match loadFile read path with
    | .error e =>
      match loadFailure o path e with
      | (o', none) => checkFiles read innermostFirst debug o' 2 more
      | (o', some ending) => o'.finish ending
    | .ok src =>
      let o := o.debug debug ("[DEBUG] " ++ path ++ ": loaded " ++ toString src.length ++ " chars")
      let r := checkText src
      match (r.halt.map (·.failure path) : Option Failure) with
      | none =>
        let o := o.debug debug ("[DEBUG] " ++ path ++ ": events=" ++
          toString r.recorded.length ++ " terminals=" ++ toString r.terminals.length)
        let o := o.say ("[CHECK OK] " ++ path ++ " terminals=" ++ toString r.terminals.length)
        checkFiles read innermostFirst debug o status more
      | some (.rejected chain) =>
        checkFiles read innermostFirst debug (o.warnAll (syntaxErrorLines chain src innermostFirst))
          2 more
      | some (.unreadable m) => o.finish (.raised "OSError" m)
      | some (.unheeded m) => o.finish (.raised "RuntimeError" m)

/-- **`trace`** of one file. -/
def traceFile (read : Reader) (innermostFirst debug : Bool) (path : String) : Report :=
  let o : Out := ⟨"", ""⟩
  match loadFile read path with
  | .error e =>
    match loadFailure o path e with
    | (o', none) => o'.finish (.status 2)
    | (o', some ending) => o'.finish ending
  | .ok src =>
    let o := o.debug debug ("[DEBUG] " ++ path ++ ": loaded " ++ toString src.length ++ " chars")
    let r := checkText src
    let o := { o with stdout := o.stdout ++ (r.trace "  " path).text }
    let events := "[DEBUG] " ++ path ++ ": events=" ++ toString r.recorded.length
    match (r.halt.map (·.failure path) : Option Failure) with
    | none => (o.debug debug events).finish (.status 0)
    | some (.rejected chain) =>
      ((o.warnAll (syntaxErrorLines chain src innermostFirst)).debug debug events).finish
        (.status 2)
    | some (.unreadable m) => (o.debug debug events).finish (.raised "OSError" m)
    | some (.unheeded m) => (o.debug debug events).finish (.raised "RuntimeError" m)

/-- A number written with at least three digits. -/
def threeDigits (n : Nat) : String :=
  let s := toString n
  String.ofList (List.replicate (3 - s.length) '0') ++ s

/-- **A line of a token listing**: number, symbol name padded to 18, quoted text, place. -/
def listingLine (i : Nat) (t : Token) : String :=
  let name := t.symbol.name
  threeDigits i ++ ": " ++ name ++ String.ofList (List.replicate (18 - name.length) ' ') ++ " " ++
    Text.quote t.text ++ "  @" ++ toString t.line ++ ":" ++ toString t.col

/-- **What `lex` reads**: the text given, or the file at the path given. An option whose
explicit value was a lone `--` stores an empty list instead of a string: as a text it reads
as the empty text, and as a path it is refused before any file is opened. -/
def lexSource (read : Reader) (text input : Args.Value) : Except LoadError String × Option Ending :=
  match text, input with
  | .one t, _ => (.ok t, none)
  | .many [], _ => (.ok "", none)
  | .many _, _ => (.ok "", some (.raised "TypeError" "expected string or buffer"))
  | _, .one path => (loadFile read path, none)
  | _, .many _ =>
    (.ok "", some (.raised "TypeError" "expected str, bytes or os.PathLike object, not list"))
  | _, _ => (loadFile read "", none)

/-- **`lex`** of a text, or of the file `input` when no text is given. -/
def lexCommand (read : Reader) (text input : Args.Value) : Report :=
  let o : Out := ⟨"", ""⟩
  match lexSource read text input with
  | (_, some ending) => o.finish ending
  | (.error e, none) =>
    let path := match input with | .one p => p | _ => ""
    match loadFailure o path e with
    | (o', none) => o'.finish (.status 2)
    | (o', some ending) => o'.finish ending
  | (.ok t, none) =>
    match (lex t).toList with
    | (_, some e) => (o.warn ("[LEX ERROR] " ++ e.render)).finish (.status 2)
    | (tokens, none) =>
      let lines := (List.range tokens.length).zip tokens |>.map fun (i, tok) => listingLine i tok
      (lines.foldl Out.say o).finish (.status 0)

/-- **Running the program** on a command line, reading files with `read`. -/
def run (read : Reader) (argv : List String) : Report :=
  match commandLine.parse argv with
  | .error (.usage p m) => ⟨"", p.errorText m, .exit 2⟩
  | .error (.help p) => ⟨p.helpText, "", .exit 0⟩
  | .ok vs =>
    let innermost := vs.flag "innermost_first"
    let debug := vs.flag "debug"
    match vs.one? "cmd" with
    | some "check" => checkFiles read innermost debug ⟨"", ""⟩ 0 (vs.many "files")
    | some "trace" => traceFile read innermost debug ((vs.one? "file").getD "")
    | _ => lexCommand read (vs.get "text") (vs.get "input")

/-- **The files a command line will read**, so that they can be fetched before the run. -/
def paths (argv : List String) : List String :=
  match commandLine.parse argv with
  | .ok vs =>
    match vs.one? "cmd" with
    | some "check" => vs.many "files"
    | some "trace" => (vs.one? "file").toList
    | _ => (vs.one? "input").toList
  | .error _ => []

end ImpSyntax.Cli
