import ImpSyntax.Text.Printable

/-!
# Quoted literals

Text that a message or a listing shows is written as a quoted literal: the text
between two quote characters, with every character that could not be read back
written as an escape.

* The single quote is used, unless the text holds a single quote and no double
  quote; then the double quote is used, and nothing in the text needs escaping for it.
* The backslash and the chosen quote are escaped with a backslash; tab, line feed
  and carriage return are written `\t`, `\n`, `\r`.
* A printable character stands for itself. Any other is written `\xhh`, `\uhhhh` or
  `\Uhhhhhhhh` in lowercase hexadecimal, by the shortest of the three that holds it.
-/

namespace ImpSyntax.Text

/-- Lowercase hexadecimal digits of `n`, padded on the left with zeros to `width`. -/
def hexDigits (width n : Nat) : List Char :=
  let ds := Nat.toDigits 16 n
  List.replicate (width - ds.length) '0' ++ ds

/-- **The quote a literal uses.** The double quote when the text holds a single quote
and no double quote, the single quote otherwise. -/
def quoteFor (cs : List Char) : Char :=
  if cs.contains '\'' && !cs.contains '"' then '"' else '\''

/-- **How one character is written** inside a literal quoted with `q`. -/
def escapeChar (q c : Char) : List Char :=
  if c = '\\' then ['\\', '\\']
  else if c = q then ['\\', q]
  else if c = '\t' then ['\\', 't']
  else if c = '\n' then ['\\', 'n']
  else if c = '\r' then ['\\', 'r']
  else if isPrintable c then [c]
  else if c.toNat < 0x100 then '\\' :: 'x' :: hexDigits 2 c.toNat
  else if c.toNat < 0x10000 then '\\' :: 'u' :: hexDigits 4 c.toNat
  else '\\' :: 'U' :: hexDigits 8 c.toNat

/-- **Quoted literal of a text**, quote characters included. -/
def quote (s : String) : String :=
  let cs := s.toList
  let q := quoteFor cs
  String.ofList (q :: cs.flatMap (escapeChar q) ++ [q])

theorem escapeChar_of_printable {q c : Char} (hp : isPrintable c = true) (hb : c ≠ '\\')
    (hq : c ≠ q) (ht : c ≠ '\t') (hn : c ≠ '\n') (hr : c ≠ '\r') : escapeChar q c = [c] := by
  simp [escapeChar, hp, hb, hq, ht, hn, hr]

example : quote "it's" = "\"it's\"" ∧ quote "\"it's\"" = "'\"it\\'s\"'" ∧
    quote "a\tb" = "'a\\tb'" := by decide +kernel

example : quote "\xa0\u200b\x85" = "'\\xa0\\u200b\\x85'" ∧
    quote (String.singleton (Char.ofNat 0xE0001)) = "'\\U000e0001'" := by
  decide +kernel

end ImpSyntax.Text
