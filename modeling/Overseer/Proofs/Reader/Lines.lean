import Overseer.Proofs.Reader.Cutting

/-!
# The Lines of a Whole Stream

A stream that is there as a whole is taken apart at its newlines; each segment is cut into pieces
from its front for as long as it is too long, and each piece is decoded.  A reader that has the
whole stream pending hands out the same texts and the fragment that is left.
-/

namespace Overseer.Reader

/-! ## Section 1: Segments and pieces

These definitions are the measure for the reader: they have the whole stream before them, know of no
chunks and no polls, and say in one line what the reader does in many steps. -/

/-- What stands between the newlines of a stream, and behind the last one if that is not nothing. -/
def segments (stream : List UInt8) : List (List UInt8) :=
  let parts := stream.splitOn newline
  if parts.getLast? = some [] then parts.dropLast else parts

/-- A segment in pieces: as long as it is too long, bytes are cut off where no character is
split. -/
def greedyPieces (bytes : List UInt8) : List (List UInt8) :=
  if _short : bytes.length ≤ maxLineBytes then [bytes]
  else
    bytes.take (charBoundary bytes maxLineBytes) ::
      greedyPieces (bytes.drop (charBoundary bytes maxLineBytes))
termination_by bytes.length
decreasing_by
  have : 0 < charBoundary bytes maxLineBytes := charBoundary_pos (by decide)
  have : 0 < maxLineBytes := by decide
  rw [List.length_drop]
  omega

/-- The lines of a whole stream. -/
def streamLines (stream : List UInt8) : List String :=
  ((segments stream).flatMap greedyPieces).map pieceText

theorem segments_of_not_mem {bytes : List UInt8} (h : newline ∉ bytes) :
    segments bytes = if bytes = [] then [] else [bytes] := by
  simp only [segments, List.splitOn_eq_singleton h, List.getLast?_singleton, Option.some.injEq,
    List.dropLast_singleton]

theorem segments_append_cons {segment : List UInt8} (h : newline ∉ segment) (bytes : List UInt8) :
    segments (segment ++ newline :: bytes) = segment :: segments bytes := by
  have hparts : bytes.splitOn newline ≠ [] := List.splitOn_ne_nil newline bytes
  simp only [segments, List.splitOn_append_cons_self_of_not_mem h, List.getLast?_cons,
    List.dropLast_cons_of_ne_nil hparts]
  rw [List.getLast?_eq_some_getLast hparts, Option.getD_some]
  split <;> rfl

theorem greedyPieces_eq_piecesOf (bytes : List UInt8) : greedyPieces bytes = piecesOf bytes := by
  fun_induction greedyPieces bytes with
  | case1 bytes short => rw [piecesOf_of_le short]
  | case2 bytes long ih => rw [ih, piecesOf_of_lt (Nat.lt_of_not_le long)]

/-! ## Section 2: Against the bytes that are pending

A reader that has the stream pending cuts the fragment that no newline ends, too, since it may go on
for ever.  So the fragment comes out in the pieces in which it would have come as a line. -/

namespace OutputReader

/-- The texts of a fragment that nothing follows. -/
def lastText (fragment : List UInt8) : List String :=
  if fragment.isEmpty then [] else [pieceText fragment]

/-- **The lines of a stream are those of its pending bytes and the fragment that is left.** At the
end of the output, this is what the reader has handed out. -/
theorem streamLines_eq_splitPending (stream : List UInt8) :
    streamLines stream = (splitPending stream).1 ++ lastText (splitPending stream).2 := by
  simp only [streamLines]
  induction stream using line_induction with
  | fragment bytes h =>
    rw [segments_of_not_mem h, splitPending_of_not_mem h]
    -- an empty stream has no lines; any other fragment is handed out in full pieces and a last one
    by_cases hnil : bytes = []
    · subst hnil
      rw [cutLong_of_le (by decide)]
      rfl
    · have hrest := @cutLong_ne_nil maxLineBytes (by decide) bytes hnil
      simp only [hnil, if_false, List.flatMap_singleton, greedyPieces_eq_piecesOf, piecesOf,
        lastText, List.isEmpty_iff, hrest, List.map_append, List.map_singleton]
  | line segment bytes h ih =>
    -- the first line is handed out by both, and the rest follows
    rw [segments_append_cons h, List.flatMap_cons, List.map_append, ih,
      splitPending_append_cons h, greedyPieces_eq_piecesOf, List.append_assoc]

end OutputReader

end Overseer.Reader
