import ImpSyntax.Text.Utf8

/-!
# Loading a program's source

A program file is read as UTF-8 text with line ends made uniform:

* one leading byte-order mark (`EF BB BF`) is dropped, and offsets in a decoding fault
  count from after it; a file of one or two bytes that begin a byte-order mark reads as
  empty text, as does an empty file;
* a carriage return followed by a line feed, and a carriage return alone, both become a
  line feed. Other line separators stay as they are.
-/

namespace ImpSyntax.Source

/-- The byte-order mark. -/
def byteOrderMark : List UInt8 := [0xEF, 0xBB, 0xBF]

/-- **Uniform line ends**: `\r\n` and a lone `\r` become `\n`. -/
def normalizeNewlines : List Char → List Char
  | [] => []
  | '\r' :: '\n' :: rest => '\n' :: normalizeNewlines rest
  | '\r' :: rest => '\n' :: normalizeNewlines rest
  | c :: rest => c :: normalizeNewlines rest

/-- **The text of a program file.** -/
def load (bs : List UInt8) : Except Text.DecodeError String :=
  if bs.length < 3 && bs.isPrefixOf byteOrderMark then .ok ""
  else
    let body := if byteOrderMark.isPrefixOf bs then bs.drop 3 else bs
    (Text.decodeUtf8 body).map fun s => String.ofList (normalizeNewlines s.toList)

theorem normalizeNewlines_no_cr (cs : List Char) : '\r' ∉ normalizeNewlines cs := by
  induction cs using normalizeNewlines.induct <;> simp_all [normalizeNewlines, eq_comm]

/-- **A loaded text holds no carriage return**: every line ends in a line feed alone. -/
theorem load_no_cr {bs : List UInt8} {s : String} (h : load bs = .ok s) : '\r' ∉ s.toList := by
  unfold load at h
  split at h
  · cases h
    simp
  · simp only [Except.map] at h
    split at h
    · cases h
    · cases h
      simpa using normalizeNewlines_no_cr _

example : (load [0x0D, 0x0D, 0x0A]).toOption = some "\n\n" ∧ (load [0xEF, 0xBB]).toOption = some ""
    := by decide +kernel

end ImpSyntax.Source
