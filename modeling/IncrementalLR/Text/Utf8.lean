/-!
# UTF-8 decoding

`Utf8.decode` reads one character from the front of a byte string.
-/

namespace IncrementalLR

/-- One decoding step: the character read, if the bytes were well formed, and how
    many bytes it took. -/
structure Decoded where
  char : Option Char
  size : Nat
deriving Repr, DecidableEq, Inhabited

namespace Utf8

/-- The result for a byte that starts no well-formed character. -/
def stray : Decoded := ⟨none, 1⟩

/-- The width announced by a lead byte and the payload bits it carries; `none` for
    bytes that never start a multi-byte character (continuations, overlong leads,
    and leads past U+10FFFF). -/
def leadByte (b : UInt8) : Option (Nat × Nat) :=
  if 0xC2 ≤ b ∧ b ≤ 0xDF then some (2, (b &&& 0x1F).toNat)
  else if 0xE0 ≤ b ∧ b ≤ 0xEF then some (3, (b &&& 0x0F).toNat)
  else if 0xF0 ≤ b ∧ b ≤ 0xF4 then some (4, (b &&& 0x07).toNat)
  else none

/-- Appends the payloads of `count` continuation bytes to `acc`; `none` if the input
    ends first or a byte is not of the form `10xxxxxx`. -/
def continuation (acc : Nat) : List UInt8 → Nat → Option Nat
  | _, 0 => some acc
  | [], _ + 1 => none
  | b :: bs, count + 1 =>
    if b &&& 0xC0 = 0x80 then continuation (acc * 64 + (b &&& 0x3F).toNat) bs count
    else none

/-- Whether a code point decoded from `width` bytes is in that width's shortest-form
    range and is a scalar value (no surrogate). -/
def fitsWidth (width cp : Nat) : Bool :=
  let inRange :=
    if width = 2 then 0x80 ≤ cp
    else if width = 3 then 0x800 ≤ cp
    else 0x10000 ≤ cp ∧ cp ≤ 0x10FFFF
  inRange && (cp < 0xD800 || (0xDFFF < cp && cp < 0x110000))

/-- Reads the first character of `bytes`. -/
def decode : List UInt8 → Decoded
  | [] => ⟨none, 0⟩
  | b :: rest =>
    if b < 0x80 then ⟨some (Char.ofNat b.toNat), 1⟩
    else
      match leadByte b with
      | none => stray
      | some (width, bits) =>
        match continuation bits rest (width - 1) with
        | none => stray
        | some cp => if fitsWidth width cp then ⟨some (Char.ofNat cp), width⟩ else stray

/-- Reads the character that starts at byte `offset` of `text`. -/
def decodeAt (text : ByteArray) (offset : Nat) : Decoded :=
  decode (text.extract offset (offset + 4)).toList

/-- The UTF-8 bytes of a character. -/
def encodeChar (c : Char) : List UInt8 := String.utf8EncodeChar c

@[simp] theorem decode_nil : decode [] = ⟨none, 0⟩ := rfl

end Utf8

end IncrementalLR
