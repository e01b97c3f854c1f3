import ImpSyntax.Args.Spec

/-!
# Usage and help texts

The usage line names the program, then every option, then every positional. An option
that is not required is in brackets; an exclusive group whose members stand together is
written as one alternative, `(a | b)` when one is required and `[a | b]` otherwise. A
value is shown by its metavar, a list as `x [x ...]`, a command as its choices and `...`.

The help text is the usage line, the description, and sections for the positionals and
the options. Each entry shows how the argument is written and its help, aligned in a
column that starts two places after the longest entry, and at most at place 24; a line
holds 78 characters.
-/

namespace ImpSyntax.Args

/-- How an argument's strings are written after its option string, or alone for a
positional. -/
def Argument.shownStrings (a : Argument) : String :=
  let m := a.shownAs
  match a.action with
  | .flag | .help => ""
  | .value => m
  | .list => m ++ " [" ++ m ++ " ...]"
  | .command => m ++ " ..."

/-- **How usage writes an argument**, before any brackets. -/
def Argument.usagePart (a : Argument) : String :=
  if a.isOption then
    let first := a.flags.headD ""
    match a.action with
    | .flag | .help => first
    | _ => first ++ " " ++ a.shownStrings
  else a.shownStrings

/-- **The usage line's arguments**: options, then positionals, groups as alternatives. -/
def Parser.usageArguments (p : Parser) : List String :=
  let ordered := p.arguments.filter (·.isOption) ++ p.arguments.filter (!·.isOption)
  let dests := ordered.map (·.dest)
  -- groups whose members stand together in `ordered`
  let joined := p.exclusive.filter fun g =>
    match g.members.head? with
    | some d =>
      let start := dests.idxOf d
      (dests.drop start).take g.members.length == g.members
    | none => false
  ordered.filterMap fun a =>
    match joined.find? (·.members.contains a.dest) with
    | some g =>
      if g.members.head? == some a.dest then
        let inner := " | ".intercalate (g.members.filterMap fun d =>
          (p.arguments.find? (·.dest == d)).map Argument.usagePart)
        some (if g.required then "(" ++ inner ++ ")" else "[" ++ inner ++ "]")
      else none
    | none =>
      if a.isOption && !a.required then some ("[" ++ a.usagePart ++ "]") else some a.usagePart

/-- **The usage text**, ending with a line feed. -/
def Parser.usage (p : Parser) : String :=
  "usage: " ++ " ".intercalate (p.prog :: p.usageArguments) ++ "\n"

/-- **The text of a usage error**: the usage, then the program name and the message. -/
def Parser.errorText (p : Parser) (message : String) : String :=
  p.usage ++ p.prog ++ ": error: " ++ message ++ "\n"

/-- How help writes an argument: its option strings, each with its strings, or the
positional's strings. -/
def Argument.invocation (a : Argument) : String :=
  if a.isOption then
    ", ".intercalate (a.flags.map fun f =>
      match a.action with
      | .flag | .help => f
      | _ => f ++ " " ++ a.shownStrings)
  else a.shownAs

/-- Words of a text filled into lines of at most `width` characters. -/
def fillWords (width : Nat) (text : String) : List String :=
  let words := (text.splitOn " ").filter (· ≠ "")
  let (lines, cur) := words.foldl (fun (acc : List String × String) w =>
    if acc.2.isEmpty then (acc.1, w)
    else if acc.2.length + 1 + w.length ≤ width then (acc.1, acc.2 ++ " " ++ w)
    else (acc.1 ++ [acc.2], w)) ([], "")
  if cur.isEmpty then lines else lines ++ [cur]

/-- One entry of a help section, at `indent`, its help in the column `column`. -/
def helpEntry (indent column : Nat) (invocation about : String) : String :=
  let pad := fun (n : Nat) => String.ofList (List.replicate n ' ')
  let width := column - indent - 2
  if about.isEmpty then pad indent ++ invocation ++ "\n"
  else
    let lines := fillWords (78 - column) about
    let rest := String.join (lines.drop 1 |>.map fun l => pad column ++ l ++ "\n")
    if invocation.length ≤ width then
      pad indent ++ invocation ++ pad (width - invocation.length) ++ "  " ++
        lines.headD "" ++ "\n" ++ rest
    else pad indent ++ invocation ++ "\n" ++ pad column ++ lines.headD "" ++ "\n" ++ rest

/-- **The help text.** -/
def Parser.helpText (p : Parser) : String :=
  let positionals := p.arguments.filter (!·.isOption)
  let options := p.arguments.filter (·.isOption)
  let widest := (p.arguments.map fun a => a.invocation.length + 2) ++
    (p.commandHelp.map fun c => c.1.length + 4)
  let column := min (widest.foldl max 0 + 2) 24
  let entries := fun (as : List Argument) => String.join (as.map fun a =>
    helpEntry 2 column a.invocation a.about ++
      (if a.action == .command then
        String.join (p.commandHelp.map fun c => helpEntry 4 column c.1 c.2)
      else ""))
  let sections :=
    (if p.description.isEmpty then [] else [p.description ++ "\n"]) ++
    (if positionals.isEmpty then [] else ["positional arguments:\n" ++ entries positionals]) ++
    (if options.isEmpty then [] else ["options:\n" ++ entries options])
  "\n".intercalate (p.usage :: sections)

end ImpSyntax.Args
