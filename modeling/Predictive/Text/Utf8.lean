import Predictive.Text.Quoted

/-!
# UTF-8

A text is written as its UTF-8 bytes, and bytes are read as UTF-8 one at a time. What is refused is
the shortest run of bytes that no text starts with, or the unfinished character at the end.
-/

namespace Predictive.Text.Utf8

/-- Why bytes are no text. -/
inductive Fault where
  /-- No character starts with this byte. -/
  | startByte
  /-- The bytes so far do not go on with this byte. -/
  | continuationByte
  /-- The last character is unfinished. -/
  | endOfData
  deriving DecidableEq, Repr

/-- Where bytes stop being a text: the fault, the first byte of the character that fails, its
position, and the number of its bytes that were in order, which is one for a bad first byte. -/
structure Malformed where
  fault : Fault
  byte : UInt8
  position : Nat
  length : Nat
  deriving DecidableEq, Repr

/-- A character of which more bytes are to come. -/
structure Pending where
  /-- The character's first byte. -/
  byte : UInt8
  /-- The position of that byte. -/
  position : Nat
  /-- The number of bytes read so far. -/
  taken : Nat
  /-- The number of bytes after the next one. -/
  owed : Nat
  /-- The least byte that may come next. -/
  low : UInt8
  /-- The greatest byte that may come next. -/
  high : UInt8
  /-- The bits read so far. -/
  bits : Nat
  deriving DecidableEq, Repr

/-- What a character's first byte announces: the whole character, or more bytes. The bounds of the
second byte keep out overlong forms, surrogates and numbers above the last code point. -/
def start? (position : Nat) (b : UInt8) : Option (Char ⊕ Pending) :=
  let more (owed : Nat) (low high : UInt8) (bits : Nat) : Option (Char ⊕ Pending) :=
    some (.inr ⟨b, position, 1, owed, low, high, bits⟩)
  let n := b.toNat
  if b < 0x80 then some (.inl (Char.ofNat n))
  else if b < 0xC2 then none
  else if b < 0xE0 then more 0 0x80 0xBF (n - 0xC0)
  else if b = 0xE0 then more 1 0xA0 0xBF 0
  else if b = 0xED then more 1 0x80 0x9F 0xD
  else if b < 0xF0 then more 1 0x80 0xBF (n - 0xE0)
  else if b = 0xF0 then more 2 0x90 0xBF 0
  else if b < 0xF4 then more 2 0x80 0xBF (n - 0xF0)
  else if b = 0xF4 then more 2 0x80 0x8F 4
  else none

/-- The character or the rest of it after one more byte, which must be within bounds. -/
def Pending.next? (p : Pending) (b : UInt8) : Option (Char ⊕ Pending) :=
  if p.low ≤ b ∧ b ≤ p.high then
    -- Each byte after the first carries six bits.
    let bits := p.bits * 64 + (b.toNat - 0x80)
    match p.owed with
    | 0 => some (.inl (Char.ofNat bits))
    | owed + 1 => some (.inr ⟨p.byte, p.position, p.taken + 1, owed, 0x80, 0xBF, bits⟩)
  else none

/-- The characters of the bytes from a position on, with a character begun before it if there is
one. -/
def decodeFrom (position : Nat) (pending : Option Pending) :
    List UInt8 → Except Malformed (List Char)
  | [] =>
    match pending with
    | none => .ok []
    | some p => .error ⟨.endOfData, p.byte, p.position, p.taken⟩
  | b :: rest =>
    -- The byte goes on with a character that is pending, and starts one otherwise.
    let step := match pending with
      | none => start? position b
      | some p => p.next? b
    match step with
    | some (.inl c) => (decodeFrom (position + 1) none rest).map (c :: ·)
    | some (.inr p) => decodeFrom (position + 1) (some p) rest
    | none =>
      -- A refused byte is no part of what is reported unless it stands alone.
      match pending with
      | none => .error ⟨.startByte, b, position, 1⟩
      | some p => .error ⟨.continuationByte, p.byte, p.position, p.taken⟩

/-- The characters of the bytes. -/
def decode (bytes : List UInt8) : Except Malformed (List Char) :=
  decodeFrom 0 none bytes

/-- The bytes of a text. -/
def encode (text : String) : List UInt8 :=
  text.toUTF8.data.toList

/-- What a fault is called. -/
def Fault.message : Fault → String
  | .startByte => "invalid start byte"
  | .continuationByte => "invalid continuation byte"
  | .endOfData => "unexpected end of data"

/-- A single bad byte is shown in hexadecimal; of several, the first and last positions are. -/
def Malformed.message (m : Malformed) : String :=
  let what :=
    if m.length = 1 then
      "byte 0x" ++ String.ofList (hexDigits 2 m.byte.toNat) ++ " in position " ++
        toString m.position
    else
      "bytes in position " ++ toString m.position ++ "-" ++ toString (m.position + m.length - 1)
  "'utf-8' codec can't decode " ++ what ++ ": " ++ m.fault.message

end Predictive.Text.Utf8
