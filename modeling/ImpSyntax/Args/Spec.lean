/-!
# Command lines: what a parser knows

A command-line parser knows *arguments*. An option has option strings (`-D`,
`--debug`); a positional has none and is filled by position. Each argument has an
*action* that says how many strings it takes and what it stores:

* a flag takes no string and stores `true`;
* a value takes one string and stores it;
* a list takes one or more strings and stores them;
* help takes no string and stops the parse with the parser's help;
* a command takes a command name and every string after it, which the named command's
  own parser then reads.

Options can be grouped so that at most one of a group may be given, and a group may
require that one is. A parser's messages name it by its program name, `prog`.
-/

namespace ImpSyntax.Args

/-- **What an argument does with its strings.** -/
inductive Action where
  | flag
  | value
  | list
  | help
  | command
  deriving DecidableEq, Repr, Inhabited

/-- **An argument** of a parser. -/
structure Argument where
  /-- The name under which the parse stores what the argument takes. -/
  dest : String
  /-- The option strings; empty for a positional. -/
  flags : List String
  action : Action
  required : Bool
  /-- How usage and help name the argument's strings, when not by `dest` (in capitals for
  an option) or by its choices. -/
  metavar : Option String
  /-- The strings a command may be. -/
  choices : List String
  about : String
  deriving Repr, Inhabited

/-- **Options of which at most one may be given**, by their `dest`; `required` says that one
must be. -/
structure Exclusive where
  members : List String
  required : Bool
  deriving Repr, Inhabited

/-- **A parser**: its program name, description, arguments in the order they were declared,
exclusive groups, and the help of each command it offers. -/
structure Parser where
  prog : String
  description : String
  arguments : List Argument
  exclusive : List Exclusive
  commandHelp : List (String × String)
  deriving Repr, Inhabited

namespace Argument

/-- Options have option strings; positionals have none. -/
def isOption (a : Argument) : Bool := !a.flags.isEmpty

/-- **How messages name an argument**: its option strings joined by `/`, or its metavar, or
its `dest`. -/
def name (a : Argument) : String :=
  if a.isOption then "/".intercalate a.flags else a.metavar.getD a.dest

/-- How usage and help name the strings an argument takes. -/
def shownAs (a : Argument) : String :=
  match a.metavar with
  | some m => m
  | none =>
    if !a.choices.isEmpty then "\x7b" ++ ",".intercalate a.choices ++ "\x7d"
    else if a.isOption then a.dest.toUpper else a.dest

end Argument

namespace Parser

/-- Every option string with its argument, in the order of declaration. -/
def optionStrings (p : Parser) : List (String × Argument) :=
  p.arguments.flatMap fun a => a.flags.map (·, a)

/-- The argument of an option string, if the parser has it. -/
def option? (p : Parser) (s : String) : Option Argument :=
  (p.optionStrings.find? (·.1 == s)).map (·.2)

/-- The positionals, in the order of declaration. -/
def positionals (p : Parser) : List Argument := p.arguments.filter (!·.isOption)

end Parser

/-- **Values stored by a parse.** -/
inductive Value where
  | unset
  | flag (b : Bool)
  | one (s : String)
  | many (l : List String)
  deriving DecidableEq, Repr, Inhabited

/-- **What a parse found**: values by `dest`, the latest first. -/
abbrev Values := List (String × Value)

/-- The value stored under `dest`. -/
def Values.get (vs : Values) (dest : String) : Value :=
  (vs.lookup dest).getD .unset

/-- The flag stored under `dest`, false when none is. -/
def Values.flag (vs : Values) (dest : String) : Bool :=
  match vs.get dest with
  | .flag b => b
  | _ => false

/-- The string stored under `dest`, if one is. -/
def Values.one? (vs : Values) (dest : String) : Option String :=
  match vs.get dest with
  | .one s => some s
  | _ => none

/-- The strings stored under `dest`. -/
def Values.many (vs : Values) (dest : String) : List String :=
  match vs.get dest with
  | .many l => l
  | .one s => [s]
  | _ => []

/-- **How a parse stops early**: with a usage error of a parser, or with a request for its
help. -/
inductive Stop where
  | usage (p : Parser) (message : String)
  | help (p : Parser)
  deriving Inhabited

end ImpSyntax.Args
