import ImpSyntax.Args.Spec
import ImpSyntax.Text.Digit

/-!
# Which strings are options

A string is an option when it starts with `-` and is more than the `-` alone, unless it
reads as a negative number (and no option of the parser does) or holds a space. An option
string names an option of the parser:

* exactly;
* up to an `=`, the rest being the option's explicit value;
* for a long option (`--x`), as a prefix of exactly one of the parser's option strings
  (two or more make the option ambiguous, which is an error);
* for a short option (`-x`), by its first two characters, the rest glued to it being an
  explicit value, or as a prefix of one option string.

A string that looks like an option but names none is an *unknown* option: the parser
passes it on as unrecognized.
-/

namespace ImpSyntax.Args

/-- **Where an option string points**: the argument (none for an unknown option), the option
string matched, and the explicit value, given after an `=` or glued to a short option. -/
structure Hit where
  arg : Option Argument
  flag : String
  explicit : Option String
  deriving Repr, Inhabited

/-- Splitting a string at its first `=`: what comes before, and what after, if there is an
`=`. -/
def splitEq (s : String) : String × Option String :=
  match s.toList.span (· != '=') with
  | (_, []) => (s, none)
  | (before, _ :: after) => (String.ofList before, some (String.ofList after))

/-- Digits and a point, with digits after the point: the body of a negative number. -/
def isNumberBody (cs : List Char) : Bool :=
  let ds := cs.takeWhile Text.isDecimalDigit
  match cs.drop ds.length with
  | [] => !ds.isEmpty
  | '.' :: rest => !rest.isEmpty && rest.all Text.isDecimalDigit
  | _ => false

/-- **Negative numbers**: `-` then decimal digits, or `-`, digits, a point and digits; one
line feed may end the string. -/
def isNegativeNumber (s : String) : Bool :=
  let cs := s.toList
  let cs := if cs.getLast? == some '\n' then cs.dropLast else cs
  match cs with
  | '-' :: body => isNumberBody body
  | _ => false

/-- **The options a string may abbreviate or start.** -/
def optionTuples (p : Parser) (s : String) : List Hit :=
  match s.toList with
  | '-' :: '-' :: _ =>
    let (pre, ex) := splitEq s
    p.optionStrings.filterMap fun (o, a) =>
      if pre.toList.isPrefixOf o.toList then some ⟨some a, o, ex⟩ else none
  | '-' :: _ :: _ =>
    let short := String.ofList (s.toList.take 2)
    let glued := String.ofList (s.toList.drop 2)
    p.optionStrings.filterMap fun (o, a) =>
      if o == short then some ⟨some a, o, some glued⟩
      else if s.toList.isPrefixOf o.toList then some ⟨some a, o, none⟩
      else none
  | _ => []

/-- Whether some option string of the parser reads as a negative number. -/
def Parser.hasNegativeOptions (p : Parser) : Bool :=
  p.optionStrings.any fun o => isNegativeNumber o.1

/-- **Classifying one string**: none for a plain argument, the hit for an option; an error
message when the string abbreviates several options. -/
def classify (p : Parser) (s : String) : Except String (Option Hit) :=
  match s.toList with
  | [] => .ok none
  | c :: rest =>
    if c != '-' then .ok none
    else match p.option? s with
    | some a => .ok (some ⟨some a, s, none⟩)
    | none =>
      if rest.isEmpty then .ok none
      else
        let (pre, ex) := splitEq s
        match ex, p.option? pre with
        | some e, some a => .ok (some ⟨some a, pre, some e⟩)
        | _, _ =>
          match optionTuples p s with
          | [t] => .ok (some t)
          | [] =>
            if isNegativeNumber s && !p.hasNegativeOptions then .ok none
            else if s.toList.contains ' ' then .ok none
            else .ok (some ⟨none, s, none⟩)
          | ts => .error ("ambiguous option: " ++ s ++ " could match " ++
              ", ".intercalate (ts.map (·.flag)))

example : isNegativeNumber "-12" ∧ isNegativeNumber "-.5" ∧ isNegativeNumber "-3\n" ∧
    !isNegativeNumber "-1." ∧ !isNegativeNumber "-" ∧ !isNegativeNumber "--1" := by
  decide +kernel

end ImpSyntax.Args
