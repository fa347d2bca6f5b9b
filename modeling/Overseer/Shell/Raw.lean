import Overseer.Text.Utf8

/-!
# Raw Text

Shells and the programs they run handle bytes, whatever these stand for.  A raw text is a text in
which each character stands for one byte.
-/

namespace Overseer.Raw

/-- The raw text of bytes. -/
def ofBytes (bytes : List UInt8) : List Char := bytes.map fun b => Char.ofNat b.toNat

/-- The bytes of a raw text. -/
def toBytes (raw : List Char) : List UInt8 := raw.map fun c => UInt8.ofNat c.toNat

/-- The raw text of a text. -/
def ofText (s : String) : String := String.ofList (ofBytes (Text.encode s))

/-- The text that a raw text stands for. -/
def toText (raw : String) : String := String.ofList (Text.decodeLossy (toBytes raw.toList))

end Overseer.Raw
