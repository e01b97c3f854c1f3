import ImpSyntax.Check.Cursor

/-!
# The rules of the grammar as steps

One function per rule, each a step from the cursor it starts at, with one token of
lookahead: a rule accepts the terminals it names in turn, calls the rules it names, takes
an optional or repeated part while the lookahead starts it, and chooses between
alternatives by the lookahead alone. Each rule reports entering and leaving it around its
events (`Step.bracket`).

Repetitions are greedy: `moreStatements` takes `; statement` while the lookahead is a
semicolon, `moreArguments` takes `, identifier` while it is a comma, `moreTerms` and
`moreFactors` take an operator and an operand while the lookahead is an additive or a
multiplicative operator.

## Termination

The rules recurse through each other, and the measure is the cursor's weight, four times,
plus a rank. A rule that calls another before accepting anything calls one of lower rank
at a weight no greater (`expression` calls `term`, `statement` calls `ifStatement`); every
other call comes after a move, at a lower weight, where any rank will do.

## Nesting depth

The rules call each other with no bound on how deep the calls go: a call stack is not part
of the model. On a machine whose stack holds a bounded number of calls, a program nested
deeply enough (some three hundred parentheses inside each other, where each opens three
rules) exhausts it and fails with a recursion error before any report. What is said here of
a check holds on programs nested within that bound.
-/

namespace ImpSyntax.Check

/-- `("," IDENTIFIER)*`, after the first argument. -/
def moreArguments (c : Cursor) : Step c :=
  if c.look.symbol = .comma then
    (c.expect .comma (by decide)).andThen fun c1 _ =>
      (c1.expect .ident (by decide)).andThen fun c2 _ => moreArguments c2
  else Step.stay c
termination_by c.weight

/-- `argument-list : IDENTIFIER ("," IDENTIFIER)*` -/
def argumentList (c : Cursor) : Step c :=
  Step.bracket .argumentList <|
    (c.expect .ident (by decide)).andThen fun c1 _ => moreArguments c1

/-- `conditional-operator : ">" | ">=" | "=" | "/=" | "<" | "<="` -/
def comparison (c : Cursor) : Step c :=
  Step.bracket .comparison <|
    if h : c.look.symbol.isComparison then (c.take (Symbol.ne_eof_of_isComparison h)).toStep
    else Step.reject c .comparison

/-- `condition : IDENTIFIER conditional-operator (IDENTIFIER | NUMBER_CONSTANT |
STRING_CONSTANT)` -/
def condition (c : Cursor) : Step c :=
  Step.bracket .condition <|
    (c.expect .ident (by decide)).andThen fun c1 _ =>
    (comparison c1).bind fun c2 _ =>
    if h : c2.look.symbol.isOperand then (c2.take (Symbol.ne_eof_of_isOperand h)).toStep
    else Step.reject c2 .operand

mutual

/-- `expression : term (("+" | "-") term)*` -/
def expression (c : Cursor) : Step c :=
  Step.bracket .expression <|
    (term c).bind fun c1 _ => moreTerms c1
termination_by c.weight * 4 + 3

/-- `(("+" | "-") term)*` -/
def moreTerms (c : Cursor) : Step c :=
  if h : c.look.symbol.isAdding then
    (c.take (Symbol.ne_eof_of_isAdding h)).andThen fun c1 _ =>
      (term c1).bind fun c2 _ => moreTerms c2
  else Step.stay c
termination_by c.weight * 4 + 2

/-- `term : factor (("*" | "/") factor)*` -/
def term (c : Cursor) : Step c :=
  Step.bracket .term <|
    (factor c).bind fun c1 _ => moreFactors c1
termination_by c.weight * 4 + 2

/-- `(("*" | "/") factor)*` -/
def moreFactors (c : Cursor) : Step c :=
  if h : c.look.symbol.isMultiplying then
    (c.take (Symbol.ne_eof_of_isMultiplying h)).andThen fun c1 _ =>
      (factor c1).bind fun c2 _ => moreFactors c2
  else Step.stay c
termination_by c.weight * 4 + 1

/-- `factor : IDENTIFIER | NUMBER_CONSTANT | "(" expression ")"` -/
def factor (c : Cursor) : Step c :=
  Step.bracket .factor <|
    match h : c.look.symbol with
    | .ident => (c.take (by rw [h]; decide)).toStep
    | .number => (c.take (by rw [h]; decide)).toStep
    | .leftParen =>
      (c.take (by rw [h]; decide)).andThen fun c1 _ =>
        (expression c1).bind fun c2 _ => (c2.expect .rightParen (by decide)).toStep
    | _ => Step.reject c .factor
termination_by c.weight * 4 + 1

end

/-- `assignment-statement : IDENTIFIER ":=" (STRING_CONSTANT | expression)` -/
def assignment (c : Cursor) : Step c :=
  Step.bracket .assignment <|
    (c.expect .ident (by decide)).andThen fun c1 _ =>
    (c1.expect .becomes (by decide)).andThen fun c2 _ =>
    if c2.look.symbol = .string then (c2.expect .string (by decide)).toStep
    else expression c2

/-- `procedure-statement : "call" IDENTIFIER "(" argument-list ")"` -/
def procedureStatement (c : Cursor) : Step c :=
  Step.bracket .procedureStatement <|
    (c.expect .kwCall (by decide)).andThen fun c1 _ =>
    (c1.expect .ident (by decide)).andThen fun c2 _ =>
    (c2.expect .leftParen (by decide)).andThen fun c3 _ =>
    (argumentList c3).bind fun c4 _ =>
    (c4.expect .rightParen (by decide)).toStep

mutual

/-- `statement-list : statement (";" statement)*` -/
def statementList (c : Cursor) : Step c :=
  Step.bracket .statementList <|
    (statement c).bind fun c1 _ => moreStatements c1
termination_by c.weight * 4 + 2

/-- `(";" statement)*` -/
def moreStatements (c : Cursor) : Step c :=
  if c.look.symbol = .semicolon then
    (c.expect .semicolon (by decide)).andThen fun c1 _ =>
      (statement c1).bind fun c2 _ => moreStatements c2
  else Step.stay c
termination_by c.weight * 4 + 1

/-- `statement : assignment | if | while | procedure | until | for`, chosen by the first
token: an identifier, `if`, `while`, `call`, `do` or `for`. -/
def statement (c : Cursor) : Step c :=
  Step.bracket .statement <|
    match c.look.symbol with
    | .ident => assignment c
    | .kwIf => ifStatement c
    | .kwWhile => whileStatement c
    | .kwCall => procedureStatement c
    | .kwDo => untilStatement c
    | .kwFor => forStatement c
    | _ => Step.reject c .statement
termination_by c.weight * 4 + 1

/-- `if-statement : "if" condition "then" statement-list ("else" statement-list)? "end"
"if"` -/
def ifStatement (c : Cursor) : Step c :=
  Step.bracket .ifStatement <|
    (c.expect .kwIf (by decide)).andThen fun c1 _ =>
    (condition c1).bind fun c2 _ =>
    (c2.expect .kwThen (by decide)).andThen fun c3 _ =>
    (statementList c3).bind fun c4 _ =>
    (if c4.look.symbol = .kwElse then
        (c4.expect .kwElse (by decide)).andThen fun c5 _ => statementList c5
      else Step.stay c4).bind fun c6 _ =>
    (c6.expect .kwEnd (by decide)).andThen fun c7 _ =>
    (c7.expect .kwIf (by decide)).toStep
termination_by c.weight * 4

/-- `while-statement : "while" condition "loop" statement-list "end" "loop"` -/
def whileStatement (c : Cursor) : Step c :=
  Step.bracket .whileStatement <|
    (c.expect .kwWhile (by decide)).andThen fun c1 _ =>
    (condition c1).bind fun c2 _ =>
    (c2.expect .kwLoop (by decide)).andThen fun c3 _ =>
    (statementList c3).bind fun c4 _ =>
    (c4.expect .kwEnd (by decide)).andThen fun c5 _ =>
    (c5.expect .kwLoop (by decide)).toStep
termination_by c.weight * 4

/-- `until-statement : "do" statement-list "until" condition` -/
def untilStatement (c : Cursor) : Step c :=
  Step.bracket .untilStatement <|
    (c.expect .kwDo (by decide)).andThen fun c1 _ =>
    (statementList c1).bind fun c2 _ =>
    (c2.expect .kwUntil (by decide)).andThen fun c3 _ =>
    condition c3
termination_by c.weight * 4

/-- `for-statement : "for" "(" assignment-statement ";" condition ";" assignment-statement
")" "do" statement-list "end" "loop"` -/
def forStatement (c : Cursor) : Step c :=
  Step.bracket .forStatement <|
    (c.expect .kwFor (by decide)).andThen fun c1 _ =>
    (c1.expect .leftParen (by decide)).andThen fun c2 _ =>
    (assignment c2).bind fun c3 _ =>
    (c3.expect .semicolon (by decide)).andThen fun c4 _ =>
    (condition c4).bind fun c5 _ =>
    (c5.expect .semicolon (by decide)).andThen fun c6 _ =>
    (assignment c6).bind fun c7 _ =>
    (c7.expect .rightParen (by decide)).andThen fun c8 _ =>
    (c8.expect .kwDo (by decide)).andThen fun c9 _ =>
    (statementList c9).bind fun c10 _ =>
    (c10.expect .kwEnd (by decide)).andThen fun c11 _ =>
    (c11.expect .kwLoop (by decide)).toStep
termination_by c.weight * 4

end

/-- `statement-part : "begin" statement-list "end"` -/
def statementPart (c : Cursor) : Step c :=
  Step.bracket .statementPart <|
    (c.expect .kwBegin (by decide)).andThen fun c1 _ =>
    (statementList c1).bind fun c2 _ =>
    (c2.expect .kwEnd (by decide)).toStep

end ImpSyntax.Check
