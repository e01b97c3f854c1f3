/-!
# Caret snippets

A snippet shows one line of a source and, under it, a caret at a column:

```text
  x := 1 @
         ^
```

The line is found the way the source finds it, by offsets in the text. Starting at offset
0, it skips `line - 1` line feeds, each time moving past the next one, and stops at the end
of the text as soon as none is left (`lineStartOffset`). The line shown is the one around
where it stopped: from just after the last line feed before that offset, or the start of
the text, to the first line feed from it on, or the end of the text (`lineBounds`). Only
line feeds separate lines. A line number below 1 skips nothing and shows the first line;
a number past the last line shows the last one, which is empty when the source ends with
a line feed.

The caret stands after `col - 1` spaces, so at the start of the line for any column up
to 1. On a machine the count of spaces is a signed 64-bit word: `snippet?` refuses a column
whose count does not fit, and one whose spaces would not fit in memory.
-/

namespace ImpSyntax.Source

/-- **The first line feed at or after offset `pos`**, as `str.find` looks for one. -/
def findNewline (cs : List Char) (pos : Nat) : Option Nat :=
  ((cs.drop pos).idxOf? '\n').map (pos + ·)

/-- **The last line feed before offset `pos`**, as `str.rfind` looks for one in `[0, pos)`. -/
def rfindNewline (cs : List Char) (pos : Nat) : Option Nat :=
  ((cs.take pos).reverse.idxOf? '\n').map ((cs.take pos).length - 1 - ·)

/-- **The line around offset `pos`**, as the offsets `[start, stop)` it spans: from just
after the last line feed before `pos`, or the start of the text, to the first line feed from
`pos` on, or the end of the text. -/
def lineBounds (cs : List Char) (pos : Nat) : Nat × Nat :=
  let start := match rfindNewline cs pos with
    | none => 0
    | some i => i + 1
  let stop := match findNewline cs pos with
    | none => cs.length
    | some j => j
  (start, stop)

/-- **Skipping `n` lines from offset `pos`**: past the next line feed, `n` times, and at the
end of the text as soon as no line feed is left. -/
def skipLines (cs : List Char) (pos : Nat) : Nat → Nat
  | 0 => pos
  | n + 1 =>
    match findNewline cs pos with
    | none => cs.length
    | some j => skipLines cs (j + 1) n

/-- **Where line number `line` starts**: `line - 1` lines skipped from the start of the
text, none for a number up to 1. -/
def lineStartOffset (cs : List Char) (line : Int) : Nat := skipLines cs 0 (line - 1).toNat

/-- The text between offsets `start` and `stop`, as the slice `src[start:stop]` reads it. -/
def slice (cs : List Char) (start stop : Nat) : List Char := (cs.drop start).take (stop - start)

/-- **The line shown for line number `line`**: the text of the line around the offset where
that line starts. -/
def lineAt (src : String) (line : Int) : String :=
  let cs := src.toList
  let bounds := lineBounds cs (lineStartOffset cs line)
  String.ofList (slice cs bounds.1 bounds.2)

/-- **A caret snippet**: the line, a line feed, and a caret under column `col`. -/
def snippet (src : String) (line col : Int) : String :=
  lineAt src line ++ "\n" ++ String.ofList (List.replicate (col - 1).toNat ' ') ++ "^"

/-- Why a caret indent cannot be built. The indent is a count of spaces held in a signed
machine word, so a count outside the 64-bit range is refused before anything is allocated;
a count that fits but asks for more spaces than memory holds fails when the text is made. -/
inductive IndentError
  | indexOverflow
  | outOfMemory
  deriving DecidableEq, Repr

/-- The text that goes with an indent failure. -/
def IndentError.message : IndentError → String
  | .indexOverflow => "cannot fit 'int' into an index-sized integer"
  | .outOfMemory => ""

/-- The most spaces an indent may hold, 2^32; a longer one does not fit in memory. -/
def indentLimit : Int := 4294967296

/-- **The indent for a caret under column `col`**, checked against the machine: `col - 1`
must lie in the signed 64-bit range, from -2^63 to 2^63 - 1, and below `indentLimit`. -/
def checkIndent (col : Int) : Except IndentError Unit :=
  if col - 1 < -9223372036854775808 ∨ 9223372036854775808 ≤ col - 1 then .error .indexOverflow
  else if indentLimit ≤ col - 1 then .error .outOfMemory
  else .ok ()

/-- **A caret snippet built on a machine**: the snippet, unless its indent fails. -/
def snippet? (src : String) (line col : Int) : Except IndentError String :=
  (checkIndent col).map fun _ => snippet src line col

example : snippet "begin\n  x :=\nend" 2 3 = "  x :=\n  ^" ∧ snippet "a\n" 7 1 = "\n^" ∧
    snippet "x\n\n\ny" (-4) 0 = "x\n^" := by decide +kernel

example : snippet? "ab" 1 (-9223372036854775807) = .ok "ab\n^" := rfl

example : snippet? "ab" 1 (-9223372036854775808) = .error .indexOverflow ∧
    snippet? "ab" 1 9223372036854775808 = .error .outOfMemory ∧
    snippet? "ab" 1 9223372036854775809 = .error .indexOverflow := ⟨rfl, rfl, rfl⟩

end ImpSyntax.Source
