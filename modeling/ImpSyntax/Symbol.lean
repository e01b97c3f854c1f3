/-!
# Terminal symbols

The closed set of token kinds of the language: the end of input, three classes of
literal lexemes (identifiers, number constants, string constants), eleven keywords
and fifteen punctuation marks. Every symbol has a name in capitals, a numeric code,
and a display name for messages; keywords and punctuation marks also have a fixed
spelling, which is their display name.

The vocabulary tables at the end (keywords, punctuation, fixed spellings) list the
language's words for a reader, in alphabetical order. The lexer does not read them: it looks
up a word with `keyword?` and a punctuation mark in `marks`, in the order of the codes.
-/

namespace ImpSyntax

/-- **Terminal symbols** of the language. -/
inductive Symbol where
  /-- End of input. -/
  | eof
  /-- An identifier: a letter-like character or `_`, then identifier characters. -/
  | ident
  /-- A number constant: digits, optionally a point and more digits. -/
  | number
  /-- A string constant: text between double quotes on one line. -/
  | string
  | kwBegin | kwEnd | kwIf | kwThen | kwElse | kwWhile | kwLoop | kwCall | kwDo | kwUntil
  | kwFor
  /-- `:=` -/
  | becomes
  | semicolon | comma | leftParen | rightParen
  | plus | minus | times | divide
  /-- The comparisons `>`, `>=`, `=`, `/=`, `<`, `<=`. -/
  | greater | greaterEq | equal | notEqual | less | lessEq
  deriving DecidableEq, Repr, Inhabited

namespace Symbol

/-- Every symbol, in the order of their codes. -/
def all : List Symbol :=
  [eof, ident, number, string, kwBegin, kwEnd, kwIf, kwThen, kwElse, kwWhile, kwLoop, kwCall,
    kwDo, kwUntil, kwFor, becomes, semicolon, comma, leftParen, rightParen, plus, minus, times,
    divide, greater, greaterEq, equal, notEqual, less, lessEq]

/-- The numeric code: 0 for the end of input, 1 to 3 for the literal classes, from 10 for
keywords, from 30 for separators, from 40 for arithmetic and from 50 for comparisons. -/
def code : Symbol → Nat
  | eof => 0 | ident => 1 | number => 2 | string => 3
  | kwBegin => 10 | kwEnd => 11 | kwIf => 12 | kwThen => 13 | kwElse => 14 | kwWhile => 15
  | kwLoop => 16 | kwCall => 17 | kwDo => 18 | kwUntil => 19 | kwFor => 20
  | becomes => 30 | semicolon => 31 | comma => 32 | leftParen => 33 | rightParen => 34
  | plus => 40 | minus => 41 | times => 42 | divide => 43
  | greater => 50 | greaterEq => 51 | equal => 52 | notEqual => 53 | less => 54 | lessEq => 55

/-- The name in capitals, as token listings show it. -/
def name : Symbol → String
  | eof => "EOF" | ident => "IDENTIFIER" | number => "NUMBER_CONSTANT"
  | string => "STRING_CONSTANT"
  | kwBegin => "BEGIN" | kwEnd => "END" | kwIf => "IF" | kwThen => "THEN" | kwElse => "ELSE"
  | kwWhile => "WHILE" | kwLoop => "LOOP" | kwCall => "CALL" | kwDo => "DO"
  | kwUntil => "UNTIL" | kwFor => "FOR"
  | becomes => "BECOMES" | semicolon => "SEMICOLON" | comma => "COMMA"
  | leftParen => "LEFT_PARENTHESIS" | rightParen => "RIGHT_PARENTHESIS"
  | plus => "PLUS" | minus => "MINUS" | times => "TIMES" | divide => "DIVIDE"
  | greater => "GREATER_THAN" | greaterEq => "GREATER_EQUAL" | equal => "EQUAL"
  | notEqual => "NOT_EQUAL" | less => "LESS_THAN" | lessEq => "LESS_EQUAL"

/-- The fixed spelling of a keyword or punctuation mark; the end of input and the literal
classes have none. -/
def spelling? : Symbol → Option String
  | eof | ident | number | string => none
  | kwBegin => "begin" | kwEnd => "end" | kwIf => "if" | kwThen => "then" | kwElse => "else"
  | kwWhile => "while" | kwLoop => "loop" | kwCall => "call" | kwDo => "do"
  | kwUntil => "until" | kwFor => "for"
  | becomes => ":=" | semicolon => ";" | comma => "," | leftParen => "(" | rightParen => ")"
  | plus => "+" | minus => "-" | times => "*" | divide => "/"
  | greater => ">" | greaterEq => ">=" | equal => "=" | notEqual => "/=" | less => "<"
  | lessEq => "<="

/-- The name used in messages: the spelling where there is one. -/
def display : Symbol → String
  | eof => "end of file"
  | ident => "identifier"
  | number => "number constant"
  | string => "string constant"
  | s => s.spelling?.getD ""

/-- Keywords are the symbols spelled with letters. -/
def isKeyword : Symbol → Bool
  | kwBegin | kwEnd | kwIf | kwThen | kwElse | kwWhile | kwLoop | kwCall | kwDo | kwUntil
  | kwFor => true
  | _ => false

/-- The symbol of a name in capitals. -/
def ofName? (n : String) : Option Symbol :=
  all.find? (·.name == n)

/-- The keyword spelled `w`, if any; keywords are matched with their case. -/
def keyword? (w : String) : Option Symbol :=
  all.find? fun s => s.isKeyword && s.spelling? == some w

/-- The additive operators `+` and `-`. -/
def isAdding (s : Symbol) : Bool := s == plus || s == minus

/-- The multiplicative operators `*` and `/`. -/
def isMultiplying (s : Symbol) : Bool := s == times || s == divide

/-- The six comparisons. -/
def isComparison : Symbol → Bool
  | greater | greaterEq | equal | notEqual | less | lessEq => true
  | _ => false

/-- What may stand on the right of a comparison: an identifier or a constant. -/
def isOperand : Symbol → Bool
  | ident | number | string => true
  | _ => false

/-- Names tell symbols apart: reading a symbol's name gives the symbol back. -/
theorem ofName?_name (s : Symbol) : ofName? s.name = some s := by
  cases s <;> rfl

theorem ne_eof_of_isAdding {s : Symbol} (h : s.isAdding = true) : s ≠ eof := by
  rintro rfl; simp [isAdding] at h

theorem ne_eof_of_isMultiplying {s : Symbol} (h : s.isMultiplying = true) : s ≠ eof := by
  rintro rfl; simp [isMultiplying] at h

theorem ne_eof_of_isComparison {s : Symbol} (h : s.isComparison = true) : s ≠ eof := by
  rintro rfl; simp [isComparison] at h

theorem ne_eof_of_isOperand {s : Symbol} (h : s.isOperand = true) : s ≠ eof := by
  rintro rfl; simp [isOperand] at h

/-! ## Vocabulary tables -/

/-- Keywords as pairs of spelling and symbol, by spelling. -/
def keywords : List (String × Symbol) :=
  (all.filterMap fun s => if s.isKeyword then s.spelling?.map (·, s) else none).mergeSort
    fun a b => a.1 ≤ b.1

/-- Punctuation marks as pairs of spelling and symbol, in the order of their codes. -/
def marks : List (String × Symbol) :=
  all.filterMap fun s => if s.isKeyword then none else s.spelling?.map (·, s)

/-- Punctuation marks as pairs of spelling and symbol, by spelling. -/
def punctuation : List (String × Symbol) :=
  marks.mergeSort fun a b => a.1 ≤ b.1

/-- Every symbol with a fixed spelling, paired with it, by the symbol's name. -/
def spellings : List (Symbol × String) :=
  (all.filterMap fun s => s.spelling?.map (s, ·)).mergeSort fun a b => a.1.name ≤ b.1.name

end Symbol

end ImpSyntax
