/-!
# Reading bytes as text

Bytes that are well-formed UTF-8 are read exactly.  A lossy reading puts one replacement character
U+FFFD for every longest run of bytes that could have begun a character but does not go on as one.

Main definitions:

- `strict?`: the text of well-formed bytes.
- `lossy`: a text for any bytes.
-/

namespace LayerNet.Text.Utf8

/-- The text whose encoding the bytes are. -/
def strict? (bytes : ByteArray) : Option String :=
  String.fromUTF8? bytes

/-- A text is read back from its encoding. -/
theorem strict?_toUTF8 (text : String) : strict? text.toUTF8 = some text := by
  rw [strict?, String.fromUTF8?, String.toUTF8_eq_toByteArray, dif_pos text.isValidUTF8]
  rfl

/-- For the first byte of a character of several bytes: how many bytes follow, and the range of the
first of them. -/
def leadShape (b : UInt8) : Option (Nat × UInt8 × UInt8) :=
  if 0xC2 ≤ b && b ≤ 0xDF then some (1, 0x80, 0xBF)
  else if b == 0xE0 then some (2, 0xA0, 0xBF)
  else if b == 0xED then some (2, 0x80, 0x9F)
  else if 0xE1 ≤ b && b ≤ 0xEF then some (2, 0x80, 0xBF)
  else if b == 0xF0 then some (3, 0x90, 0xBF)
  else if b == 0xF4 then some (3, 0x80, 0x8F)
  else if 0xF1 ≤ b && b ≤ 0xF3 then some (3, 0x80, 0xBF)
  else none

/-- The value bits of the first byte of a character. -/
def leadBits (b : UInt8) : Nat :=
  if b < 0xE0 then b.toNat % 32 else if b < 0xF0 then b.toNat % 16 else b.toNat % 8

/-- A character being read: its value so far, how many bytes are missing, and the range of the next
of them. -/
structure Partial where
  value : Nat
  missing : Nat
  low : UInt8
  high : UInt8

/-- What a byte does when no character is begun. -/
def start (b : UInt8) : List Char × Option Partial :=
  if b < 0x80 then ([Char.ofNat b.toNat], none)
  else match leadShape b with
    | some (missing, low, high) => ([], some ⟨leadBits b, missing, low, high⟩)
    | none => (['\uFFFD'], none)

/-- What a byte does: the characters that it completes and the character then begun. -/
def step : Option Partial → UInt8 → List Char × Option Partial
  | none, b => start b
  | some p, b =>
    if p.low ≤ b && b ≤ p.high then
      let value := p.value * 64 + b.toNat % 64
      if p.missing ≤ 1 then ([Char.ofNat value], none)
      else ([], some ⟨value, p.missing - 1, 0x80, 0xBF⟩)
    else
      let (chars, next) := start b
      ('\uFFFD' :: chars, next)

/-- Reads all bytes; `acc` holds the characters read, in reverse. -/
def lossyFrom (pending : Option Partial) (acc : List Char) : List UInt8 → List Char
  | [] => (if pending.isSome then '\uFFFD' :: acc else acc).reverse
  | b :: bytes =>
    let (chars, next) := step pending b
    lossyFrom next (chars.reverse ++ acc) bytes

/-- The text of the bytes, with U+FFFD for what is not a character. -/
def lossy (bytes : ByteArray) : String :=
  match strict? bytes with
  | some text => text
  | none => String.ofList (lossyFrom none [] bytes.toList)

end LayerNet.Text.Utf8
