import ImpSyntax.Args.Pattern
import ImpSyntax.Args.Classify
import ImpSyntax.Text.Quoted

/-!
# Parsing a command line

A parser first classifies every string (`Parser.items`); a string that abbreviates several
options stops it there. It then reads the strings from the front, alternating:

* the positionals waiting to be filled take what they can of the strings up to the next
  option (their patterns may reach past it: a command takes everything after it);
* strings before the next option that no positional took are unrecognized;
* the option takes its strings: an explicit value, or as many following strings as its
  pattern matches. Short flags may be clustered (`-DD`), the rest of the cluster being read
  as further short options.

After the last option the waiting positionals take what they can, and what is left is
unrecognized. Then every required argument must have been given, and one option of every
required group.

An argument that takes its strings stores its value; an option of an exclusive group
stops the parse if another of the group was given before; help stops it at once; a
command hands the strings after its name to the command's parser, whose values join the
parse and whose unrecognized strings come after the parser's own.
-/

namespace ImpSyntax.Args

/-- **A classified string**: its text, its kind, and for an option where it points. -/
structure Item where
  text : String
  kind : Kind
  hit : Option Hit
  deriving Inhabited

/-- **Classifying a command line.** After the first `--` every string is an argument. -/
def Parser.items (p : Parser) : List String → Except Stop (List Item)
  | [] => .ok []
  | s :: rest =>
    if s = "--" then .ok (⟨s, .dashes, none⟩ :: rest.map fun r => ⟨r, .arg, none⟩)
    else
      match classify p s with
      | .error m => .error (.usage p m)
      | .ok h =>
        match Parser.items p rest with
        | .error e => .error e
        | .ok tail => .ok (⟨s, if h.isSome then .opt else .arg, h⟩ :: tail)

/-- **Running a command's parser** on the strings after the command name: its values and its
unrecognized strings. -/
abbrev Runner := String → List String → Except Stop (Values × List String)

/-- **The state of a parse**: the values so far, the unrecognized strings, the arguments
given, the unrecognized strings of a command's parser, and the positionals still waiting. -/
structure State where
  values : Values
  extras : List String
  seen : List String
  later : List String
  waiting : List Argument
  deriving Inhabited

/-- Storing a value. -/
def State.set (st : State) (dest : String) (v : Value) : State :=
  { st with values := (dest, v) :: st.values }

/-- An error of an argument: the message names it. -/
def Parser.argError (p : Parser) (a : Argument) (m : String) : Stop :=
  .usage p ("argument " ++ a.name ++ ": " ++ m)

/-- The first argument of an exclusive group of `a` that was given already. -/
def Parser.conflict? (p : Parser) (a : Argument) (given : List String) : Option Argument :=
  let others := p.exclusive.flatMap fun g =>
    if g.members.contains a.dest then g.members.filter (· != a.dest) else []
  (others.find? given.contains).bind fun d => p.arguments.find? (·.dest == d)

/-- **An argument takes its strings.** Any argument other than a command drops the first
`--` among them; an option meets one only as its explicit value (`--text=--`), and then
takes no string at all, which stores an empty list. -/
def Parser.take (p : Parser) (run : Runner) (st : State) (a : Argument) (strings : List String) :
    Except Stop State :=
  let given := st.seen
  let st := { st with seen := a.dest :: st.seen }
  let strings := if a.action != .command then strings.erase "--" else strings
  match p.conflict? a given with
  | some b => .error (p.argError a ("not allowed with argument " ++ b.name))
  | none =>
    match a.action with
    | .help => .error (.help p)
    | .flag => .ok (st.set a.dest (.flag true))
    | .value => .ok (st.set a.dest (match strings with | [s] => .one s | l => .many l))
    | .list => .ok (st.set a.dest (.many strings))
    | .command =>
      match strings with
      | [] => .ok st
      | name :: rest =>
        if a.choices.contains name then
          match run name rest with
          | .error e => .error e
          | .ok (vs, extra) =>
            let st := st.set a.dest (.one name)
            .ok { st with values := vs ++ st.values, later := st.later ++ extra }
        else
          .error (p.argError a ("invalid choice: " ++ Text.quote name ++ " (choose from " ++
            ", ".intercalate (a.choices.map Text.quote) ++ ")"))

/-- Arguments taking their strings in turn. -/
def Parser.takeAll (p : Parser) (run : Runner) :
    State → List (Argument × List String) → Except Stop State
  | st, [] => .ok st
  | st, (a, strings) :: more =>
    match p.take run st a strings with
    | .error e => .error e
    | .ok st' => p.takeAll run st' more

/-- **The waiting positionals take what they can** from the front of `items`: how many
strings they took. -/
def Parser.fill (p : Parser) (run : Runner) (items : List Item) (st : State) :
    Except Stop (Nat × State) :=
  let counts := matchLeading st.waiting (items.map (·.kind))
  let (_, takes) := (st.waiting.zip counts).foldl
    (fun (acc : List Item × List (Argument × List String)) (a, n) =>
      (acc.1.drop n, acc.2 ++ [(a, (acc.1.take n).map (·.text))])) (items, [])
  match p.takeAll run st takes with
  | .error e => .error e
  | .ok st' => .ok (taken counts, { st' with waiting := st.waiting.drop counts.length })

/-- The message for an explicit value that an option does not take. -/
def ignoredExplicit (ex : List Char) : String :=
  "ignored explicit argument " ++ Text.quote (String.ofList ex)

/-- **Reading one option string**: the arguments it makes take strings, with their strings,
and how many strings after it they took. `ex` is the explicit value still to read.

A short flag with an explicit value starts a cluster: the flag is taken, and the first
character of the value names the next short option, the rest of the value being that
option's explicit value (`-DDh` is `-D -D -h`). A character that names no short option
stops the parse, and so does an explicit value that a long option, or an option taking
no string, cannot use. -/
def Parser.cluster (p : Parser) (after : List Item) (a : Argument) (flag : String)
    (ex : Option (List Char)) (acc : List (Argument × List String)) :
    Except Stop (Nat × List (Argument × List String)) :=
  match ex with
  | none =>
    match matchOption a (after.map (·.kind)) with
    | none => .error (p.argError a a.countError)
    | some k => .ok (k, acc ++ [(a, (after.take k).map (·.text))])
  | some cs =>
    match matchOption a [.arg] with
    | none => .error (p.argError a a.countError)
    | some 0 =>
      match cs, flag.toList with
      | c :: rest, _ :: f :: _ =>
        if f == '-' then .error (p.argError a (ignoredExplicit cs))
        else
          let next := String.ofList ['-', c]
          match p.option? next with
          | some b => p.cluster after b next (if rest.isEmpty then none else some rest) (acc ++ [(a, [])])
          | none => .error (p.argError a (ignoredExplicit cs))
      | _, _ => .error (p.argError a (ignoredExplicit cs))
    | some 1 => .ok (0, acc ++ [(a, [String.ofList cs])])
    | some _ => .error (p.argError a (ignoredExplicit cs))
termination_by match ex with | some cs => cs.length + 1 | none => 0
decreasing_by by_cases h : rest = [] <;> simp [h]

/-- **An option takes its strings**: how many of the strings after it it took. -/
def Parser.consumeOption (p : Parser) (run : Runner) (o : Item) (after : List Item) (st : State) :
    Except Stop (Nat × State) :=
  match o.hit with
  | none | some ⟨none, _, _⟩ => .ok (0, { st with extras := st.extras ++ [o.text] })
  | some ⟨some a, flag, ex⟩ =>
    match p.cluster after a flag (ex.map String.toList) [] with
    | .error e => .error e
    | .ok (k, takes) =>
      match p.takeAll run st takes with
      | .error e => .error e
      | .ok st' => .ok (k, st')

set_option linter.unusedVariables false in
/-- **Reading options and positionals alternately**, until no option is left; gives the
strings after the last option's. -/
def Parser.alternate (p : Parser) (run : Runner) (items : List Item) (st : State) :
    Except Stop (List Item × State) :=
  if h : items.any (·.kind == .opt) then
    let gap := (items.takeWhile (·.kind != .opt)).length
    let before : Except Stop (Nat × State) := if gap > 0 then p.fill run items st else .ok (0, st)
    match before with
    | .error e => .error e
    | .ok (n, st1) =>
      if hn : n > 0 then p.alternate run (items.drop n) st1
      else
        let st2 := { st1 with extras := st1.extras ++ (items.take gap).map (·.text) }
        match hd : items.drop gap with
        | [] => .ok ([], st2)
        | o :: after =>
          match p.consumeOption run o after st2 with
          | .error e => .error e
          | .ok (k, st3) => p.alternate run (after.drop k) st3
  else .ok (items, st)
termination_by items.length
decreasing_by
  · have : items ≠ [] := by rintro rfl; simp at h
    have := List.length_pos_iff.2 this
    simp only [List.length_drop]
    omega
  · have h1 : (items.drop gap).length = after.length + 1 := by rw [hd]; rfl
    simp only [List.length_drop] at h1 ⊢
    omega

/-- The values before any string is read: flags are false, the rest unset. -/
def Parser.defaults (p : Parser) : Values :=
  (p.arguments.filter (·.action != .help)).reverse.map fun a =>
    (a.dest, if a.action == .flag then .flag false else .unset)

/-- **Parsing a command line**, leaving unrecognized strings to the caller. -/
def Parser.parseKnown (p : Parser) (run : Runner) (args : List String) :
    Except Stop (Values × List String) :=
  match p.items args with
  | .error e => .error e
  | .ok items =>
    match p.alternate run items ⟨p.defaults, [], [], [], p.positionals⟩ with
    | .error e => .error e
    | .ok (rest, st1) =>
      match p.fill run rest st1 with
      | .error e => .error e
      | .ok (n, st) =>
        let extras := st.extras ++ (rest.drop n).map (·.text)
        let missing := p.arguments.filter fun a => a.required && !st.seen.contains a.dest
        if !missing.isEmpty then
          .error (.usage p ("the following arguments are required: " ++
            ", ".intercalate (missing.map Argument.name)))
        else
          match p.exclusive.find? fun g => g.required && !g.members.any st.seen.contains with
          | some g =>
            .error (.usage p ("one of the arguments " ++ " ".intercalate (g.members.map fun d =>
              ((p.arguments.find? (·.dest == d)).map Argument.name).getD d) ++ " is required"))
          | none => .ok (st.values, extras ++ st.later)

/-- **A command line with commands**: the top parser, whose command positional chooses one
of the commands' parsers. -/
structure CommandLine where
  top : Parser
  commands : List (String × Parser)
  deriving Inhabited

/-- **Parsing a whole command line**: every string must be recognized. -/
def CommandLine.parse (cl : CommandLine) (args : List String) : Except Stop Values :=
  let run : Runner := fun name rest =>
    match cl.commands.lookup name with
    | some sp => sp.parseKnown (fun _ more => .ok ([], more)) rest
    | none => .ok ([], rest)
  match cl.top.parseKnown run args with
  | .error e => .error e
  | .ok (vs, []) => .ok vs
  | .ok (_, extras) => .error (.usage cl.top ("unrecognized arguments: " ++ " ".intercalate extras))

end ImpSyntax.Args
