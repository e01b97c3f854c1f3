/-!
# Rules of the grammar

The fifteen nonterminals of the language. A check reports entering and leaving each
of them, under its label (`<statement part>`, …), and every rule that is open when
the check stops adds one link to the error chain, naming what the rule expected.

```text
statement-part       : "begin" statement-list "end"
statement-list       : statement (";" statement)*
statement            : assignment | if | while | procedure | until | for
assignment-statement : IDENTIFIER ":=" (STRING_CONSTANT | expression)
if-statement         : "if" condition "then" statement-list
                       ("else" statement-list)? "end" "if"
while-statement      : "while" condition "loop" statement-list "end" "loop"
procedure-statement  : "call" IDENTIFIER "(" argument-list ")"
until-statement      : "do" statement-list "until" condition
for-statement        : "for" "(" assignment-statement ";" condition ";"
                       assignment-statement ")" "do" statement-list "end" "loop"
argument-list        : IDENTIFIER ("," IDENTIFIER)*
condition            : IDENTIFIER conditional-operator
                       (IDENTIFIER | NUMBER_CONSTANT | STRING_CONSTANT)
conditional-operator : ">" | ">=" | "=" | "/=" | "<" | "<="
expression           : term (("+" | "-") term)*
term                 : factor (("*" | "/") factor)*
factor               : IDENTIFIER | NUMBER_CONSTANT | "(" expression ")"
```
-/

namespace ImpSyntax

/-- **Nonterminals** of the grammar. -/
inductive Rule where
  | statementPart | statementList | statement
  | assignment | ifStatement | whileStatement | procedureStatement | untilStatement
  | forStatement
  | argumentList | condition | comparison | expression | term | factor
  deriving DecidableEq, Repr, Inhabited

namespace Rule

/-- Every rule, in the order of the grammar. -/
def all : List Rule :=
  [statementPart, statementList, statement, assignment, ifStatement, whileStatement,
    procedureStatement, untilStatement, forStatement, argumentList, condition, comparison,
    expression, term, factor]

/-- The name in capitals. -/
def name : Rule → String
  | statementPart => "STATEMENT_PART"
  | statementList => "STATEMENT_LIST"
  | statement => "STATEMENT"
  | assignment => "ASSIGNMENT_STATEMENT"
  | ifStatement => "IF_STATEMENT"
  | whileStatement => "WHILE_STATEMENT"
  | procedureStatement => "PROCEDURE_STATEMENT"
  | untilStatement => "UNTIL_STATEMENT"
  | forStatement => "FOR_STATEMENT"
  | argumentList => "ARGUMENT_LIST"
  | condition => "CONDITION"
  | comparison => "CONDITIONAL_OPERATOR"
  | expression => "EXPRESSION"
  | term => "TERM"
  | factor => "FACTOR"

/-- The label under which a check reports the rule. -/
def label : Rule → String
  | statementPart => "<statement part>"
  | statementList => "<statement list>"
  | statement => "<statement>"
  | assignment => "<assignment statement>"
  | ifStatement => "<if statement>"
  | whileStatement => "<while statement>"
  | procedureStatement => "<procedure statement>"
  | untilStatement => "<until statement>"
  | forStatement => "<for statement>"
  | argumentList => "<argument list>"
  | condition => "<condition>"
  | comparison => "<conditional operator>"
  | expression => "<expression>"
  | term => "<term>"
  | factor => "<factor>"

/-- What the rule's link of an error chain says was expected. The statement rules other
than the list name themselves; the others name what they are made of. -/
def expects : Rule → String
  | statementPart => "<statement list> between 'begin' and 'end'"
  | statementList => "<statement list>"
  | statement => "<assignment>, <if>, <while>, <procedure>, <until>, or <for>"
  | assignment => "<expression> or string constant"
  | argumentList => "<argument list>"
  | condition => "<condition>"
  | comparison => "> , >= , = , /= , < or <="
  | expression => "<term>"
  | term => "<factor>"
  | factor => "identifier, number constant, or <expression>"
  | r => r.label

end Rule

end ImpSyntax
