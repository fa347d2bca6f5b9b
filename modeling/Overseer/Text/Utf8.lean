/-!
# Reading UTF-8

Bytes are read one at a time by a machine that is either between characters or inside one.  A
byte that cannot go on closes the piece before it with a replacement character and is read
afresh, so every ill-formed piece is replaced by one character and no byte is read twice.

The machine knows the bits of the open character that it has read, how many bytes it is owed, and
between which bounds the next byte has to be.  The bounds leave no second way to write a character
and none for a surrogate.
-/

namespace Overseer.Text

/-- The character that stands for bytes which form no character. -/
def replacement : Char := '\uFFFD'

/-- A character that is still open: its bits so far, how many bytes are owed, and the bounds of
the next byte. -/
structure Utf8Partial where
  bits : Nat
  owed : Nat
  low : Nat
  high : Nat
deriving Repr, DecidableEq

/-- What the first byte of a character opens. -/
inductive Utf8Lead where
  | whole (c : Char)
  | opens (part : Utf8Partial)
  | bad
deriving Repr, DecidableEq

/-- The first byte of a character.  The bounds of the second byte leave out overlong forms,
surrogates and numbers past the last code point. -/
def Utf8Lead.ofByte (b : Nat) : Utf8Lead :=
  if b < 0x80 then .whole (Char.ofNat b)
  else if b < 0xC2 then .bad
  else if b < 0xE0 then .opens ⟨b - 0xC0, 1, 0x80, 0xBF⟩
  else if b == 0xE0 then .opens ⟨0, 2, 0xA0, 0xBF⟩
  else if b == 0xED then .opens ⟨0xD, 2, 0x80, 0x9F⟩
  else if b < 0xF0 then .opens ⟨b - 0xE0, 2, 0x80, 0xBF⟩
  else if b == 0xF0 then .opens ⟨0, 3, 0x90, 0xBF⟩
  else if b < 0xF4 then .opens ⟨b - 0xF0, 3, 0x80, 0xBF⟩
  else if b == 0xF4 then .opens ⟨4, 3, 0x80, 0x8F⟩
  else .bad

/-- The reader's place in a byte string: the characters read, last first, and the open one. -/
structure Utf8Reader where
  read : List Char
  part : Option Utf8Partial
deriving Repr, DecidableEq

namespace Utf8Reader

/-- Nothing read yet. -/
def empty : Utf8Reader := ⟨[], none⟩

/-- Reads a byte between characters. -/
def start (read : List Char) (b : Nat) : Utf8Reader :=
  match Utf8Lead.ofByte b with
  | .whole c => ⟨c :: read, none⟩
  | .opens part => ⟨read, some part⟩
  | .bad => ⟨replacement :: read, none⟩

/-- Reads one byte. -/
def step (r : Utf8Reader) (b : UInt8) : Utf8Reader :=
  match r.part with
  | none => start r.read b.toNat
  | some part =>
    if part.low ≤ b.toNat && b.toNat ≤ part.high then
      let bits := part.bits * 64 + (b.toNat - 0x80)
      if part.owed ≤ 1 then ⟨Char.ofNat bits :: r.read, none⟩
      else ⟨r.read, some ⟨bits, part.owed - 1, 0x80, 0xBF⟩⟩
    else
      -- The open piece ends here, and the byte may begin a character of its own.
      start (replacement :: r.read) b.toNat

/-- The characters read, an open one replaced. -/
def finish (r : Utf8Reader) : List Char :=
  match r.part with
  | none => r.read.reverse
  -- All bytes of the open piece together are replaced by one character.
  | some _ => (replacement :: r.read).reverse

end Utf8Reader

/-- The characters of a byte string, each ill-formed piece replaced by one character. -/
def decodeLossy (bytes : List UInt8) : List Char :=
  (bytes.foldl Utf8Reader.step .empty).finish

/-- The characters of a byte string, if it is well formed. -/
def decode? (bytes : List UInt8) : Option (List Char) :=
  let s := decodeLossy bytes
  -- A replacement shows in the bytes, unless it was there from the start.
  if (String.ofList s).toUTF8.toList == bytes then some s else none

/-- The bytes of a text. -/
def encode (s : String) : List UInt8 := s.toUTF8.toList

end Overseer.Text
