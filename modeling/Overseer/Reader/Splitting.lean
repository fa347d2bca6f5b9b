import Overseer.Text.Parts
import Overseer.Text.Utf8

/-!
# Splitting Bytes Into Lines

A line ends at a newline byte.  A line longer than the limit is handed out in pieces, cut where no
character is split.  A carriage return at the end of a piece is dropped and the rest is decoded.

A cut is looked for at the limit and in the three places in front of it.  In bytes that are a text
one of them is between two characters, since no character has more than four bytes.
-/

namespace Overseer.Reader

/-- The byte that ends a line. -/
def newline : UInt8 := 0x0A

/-- The byte that is dropped at the end of a line. -/
def carriageReturn : UInt8 := 0x0D

/-- The longest line that is handed out in one piece. -/
def maxLineBytes : Nat := 64 * 1024

theorem maxLineBytes_pos : 0 < maxLineBytes := by decide

/-- The segments that a newline ends, and the fragment after the last newline. -/
def completeSegments (bytes : List UInt8) : List (List UInt8) × List UInt8 :=
  Text.endedParts (· == newline) bytes

/-- Whether a byte goes on with a character. -/
def isContinuation (b : UInt8) : Bool := b &&& 0xC0 == 0x80

/-- The last place at or shortly before the limit at which no character is split; the limit itself
if there is none. -/
def charBoundary (bytes : List UInt8) (limit : Nat) : Nat :=
  ([limit, limit - 1, limit - 2, limit - 3].find? fun i =>
    0 < i && !(bytes[i]?.any isContinuation)).getD limit

/-- A cut is made behind a byte at least. -/
theorem charBoundary_pos {bytes : List UInt8} {limit : Nat} (h : 0 < limit) :
    0 < charBoundary bytes limit := by
  unfold charBoundary
  cases hf : [limit, limit - 1, limit - 2, limit - 3].find? fun i =>
      0 < i && !(bytes[i]?.any isContinuation) with
  | none => simpa using h
  | some i =>
    have := List.find?_some hf
    simp only [Bool.and_eq_true, decide_eq_true_eq] at this
    simpa using this.1

/-- The pieces cut off bytes that are longer than the limit, and what is left of them.  A piece is
never empty, so the bytes get shorter with each. -/
def cutLong (limit : Nat) (h : 0 < limit) (bytes : List UInt8) :
    List (List UInt8) × List UInt8 :=
  if _short : bytes.length ≤ limit then ([], bytes)
  else
    let cut := charBoundary bytes limit
    let (pieces, rest) := cutLong limit h (bytes.drop cut)
    (bytes.take cut :: pieces, rest)
termination_by bytes.length
decreasing_by
  have : 0 < charBoundary bytes limit := charBoundary_pos h
  simp only [List.length_drop]
  omega

/-- The bytes without a carriage return at their end. -/
def dropReturn (bytes : List UInt8) : List UInt8 :=
  if bytes.getLast? = some carriageReturn then bytes.dropLast else bytes

/-- The text of a piece: without a carriage return at its end, and with a replacement character for
what is no text. -/
def pieceText (bytes : List UInt8) : String := String.ofList (Text.decodeLossy (dropReturn bytes))

/-- All pieces of a segment that is complete.  The last one is what is left behind the cuts, and
there is one even if the segment is empty. -/
def piecesOf (bytes : List UInt8) : List (List UInt8) :=
  let (pieces, rest) := cutLong maxLineBytes maxLineBytes_pos bytes
  pieces ++ [rest]

end Overseer.Reader
