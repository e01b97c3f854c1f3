import ImpSyntax.Text.Quoted

/-!
# Decoding UTF-8

Bytes are read as UTF-8 by the well-formedness table of the Unicode standard: a lead
byte says how many continuation bytes follow, and the range of the first of them is
narrowed after `E0`, `ED`, `F0` and `F4`, so that overlong forms, surrogates and code
points past `10FFFF` are refused.

Decoding stops at the first ill-formed sequence, and reports its *maximal subpart*: the
longest run of bytes from there that starts some well-formed sequence.

* An empty subpart is an invalid start byte (`80`–`C1`, `F5`–`FF`); the report covers
  that byte.
* A subpart that runs to the end of the bytes is unexpected end of data.
* Any other subpart is followed by an invalid continuation byte; the report covers the
  subpart.
-/

namespace ImpSyntax.Text

/-- **Why bytes are no UTF-8.** -/
inductive DecodeReason where
  | invalidStart
  | invalidContinuation
  | unexpectedEnd
  deriving DecidableEq, Repr, Inhabited

/-- **A decoding fault**: the offset of the ill-formed part and its bytes. -/
structure DecodeError where
  start : Nat
  bytes : List UInt8
  reason : DecodeReason
  deriving DecidableEq, Repr, Inhabited

namespace DecodeError

/-- The reason in words. -/
def reasonText : DecodeReason → String
  | .invalidStart => "invalid start byte"
  | .invalidContinuation => "invalid continuation byte"
  | .unexpectedEnd => "unexpected end of data"

/-- **How a decoding fault is written**: the byte and its offset, or the first and last
offsets of the bytes, and the reason. -/
def message (e : DecodeError) : String :=
  "'utf-8' codec can't decode " ++
    (match e.bytes with
      | [b] => "byte 0x" ++ String.ofList (hexDigits 2 b.toNat) ++ " in position " ++
          toString e.start
      | bs => "bytes in position " ++ toString e.start ++ "-" ++
          toString (e.start + bs.length - 1)) ++
    ": " ++ reasonText e.reason

end DecodeError

/-- **What a byte starts**: an ASCII character (no continuation bytes), a sequence of `n`
continuation bytes whose first lies in `lo`–`hi`, or nothing. -/
def leadOf (b : UInt8) : Option (Nat × UInt8 × UInt8) :=
  if b < 0x80 then some (0, 0, 0)
  else if b < 0xC2 then none
  else if b < 0xE0 then some (1, 0x80, 0xBF)
  else if b == 0xE0 then some (2, 0xA0, 0xBF)
  else if b == 0xED then some (2, 0x80, 0x9F)
  else if b < 0xF0 then some (2, 0x80, 0xBF)
  else if b == 0xF0 then some (3, 0x90, 0xBF)
  else if b < 0xF4 then some (3, 0x80, 0xBF)
  else if b == 0xF4 then some (3, 0x80, 0x8F)
  else none

/-- Continuation bytes lie in `80`–`BF`. -/
def isContinuation (b : UInt8) : Bool := 0x80 ≤ b && b ≤ 0xBF

/-- The code point of a lead byte and its continuation bytes. -/
def codePoint (lead : UInt8) (cont : List UInt8) : Nat :=
  let first := match cont.length with
    | 0 => lead.toNat
    | 1 => lead.toNat % 0x20
    | 2 => lead.toNat % 0x10
    | _ => lead.toNat % 0x08
  cont.foldl (fun acc b => acc * 64 + b.toNat % 64) first

/-- Whether a byte may follow a lead as its first continuation byte, which must lie in
`lo`–`hi`. -/
def inSpan (lo hi b : UInt8) : Bool := lo ≤ b && b ≤ hi

/-- The character of a lead byte and its continuation bytes, in front of what follows. -/
def consChar (b : UInt8) (cont : List UInt8) (r : Except DecodeError (List Char)) :
    Except DecodeError (List Char) :=
  r.map (Char.ofNat (codePoint b cont) :: ·)

/-- **Decoding bytes** that start at offset `pos`: the characters, or the first fault. -/
def decodeFrom (pos : Nat) : List UInt8 → Except DecodeError (List Char)
  | [] => .ok []
  | b :: rest =>
    let bad := fun (k : Nat) => Except.error ⟨pos, b :: rest.take k, .invalidContinuation⟩
    let short := Except.error ⟨pos, b :: rest, .unexpectedEnd⟩
    match leadOf b, rest with
    | some (0, _, _), tail => consChar b [] (decodeFrom (pos + 1) tail)
    | some (1, _, _), [] => short
    | some (1, lo, hi), c1 :: tail =>
      if inSpan lo hi c1 then consChar b [c1] (decodeFrom (pos + 2) tail) else bad 0
    | some (2, _, _), [] => short
    | some (2, lo, hi), [c1] => if inSpan lo hi c1 then short else bad 0
    | some (2, lo, hi), c1 :: c2 :: tail =>
      if !inSpan lo hi c1 then bad 0
      else if !isContinuation c2 then bad 1
      else consChar b [c1, c2] (decodeFrom (pos + 3) tail)
    | some (3, _, _), [] => short
    | some (3, lo, hi), [c1] => if inSpan lo hi c1 then short else bad 0
    | some (3, lo, hi), [c1, c2] =>
      if !inSpan lo hi c1 then bad 0 else if !isContinuation c2 then bad 1 else short
    | some (3, lo, hi), c1 :: c2 :: c3 :: tail =>
      if !inSpan lo hi c1 then bad 0
      else if !isContinuation c2 then bad 1
      else if !isContinuation c3 then bad 2
      else consChar b [c1, c2, c3] (decodeFrom (pos + 4) tail)
    | _, _ => .error ⟨pos, [b], .invalidStart⟩

/-- **Decoding UTF-8 bytes.** -/
def decodeUtf8 (bs : List UInt8) : Except DecodeError String :=
  (decodeFrom 0 bs).map String.ofList

example : (decodeUtf8 [0x61, 0xC3, 0xA9, 0xF0, 0x9F, 0x98, 0x80]).toOption = some "aé😀" := by
  decide +kernel

example : (match decodeUtf8 [0xE2, 0x82] with | .error e => e.message | .ok _ => "") =
      "'utf-8' codec can't decode bytes in position 0-1: unexpected end of data" ∧
    (match decodeUtf8 [0xED, 0xA0, 0x80] with | .error e => e.message | .ok _ => "") =
      "'utf-8' codec can't decode byte 0xed in position 0: invalid continuation byte" := by
  decide +kernel

end ImpSyntax.Text
