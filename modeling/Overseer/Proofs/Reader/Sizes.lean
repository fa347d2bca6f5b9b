import Overseer.Proofs.Reader.Joining

/-!
# How Long the Texts of a Reader Are

A piece has no more bytes than the limit.  Its text can be longer than that: each byte that belongs
to no character is read as the replacement character, which has three bytes.

- `length_le_of_mem_greedyPieces`: the limit is one on bytes that are read
- `utf8ByteSize_pieceText`: how long a text is
- `kept_of_mem_segments`, `kept_of_mem_greedyPieces`: where no byte is replaced
- `Reading.sized_after`: the texts of a reader after any moves
-/

namespace Overseer.Reader

open Text

/-! ## Section 1: One piece

The limit is one on the bytes that are read.  What is handed out is measured in the bytes of its
text, and of these a replacement character has three. -/

theorem length_le_of_mem_greedyPieces {line piece : List UInt8} (h : piece ∈ greedyPieces line) :
    piece.length ≤ maxLineBytes := by
  fun_induction greedyPieces line with
  | case1 line short => exact List.mem_singleton.mp h ▸ short
  | case2 line long ih =>
    rcases List.mem_cons.mp h with rfl | h
    · rw [List.length_take]
      exact Nat.le_trans (Nat.min_le_left ..) (charBoundary_le line maxLineBytes)
    · exact ih h

theorem length_dropReturn_le (piece : List UInt8) : (dropReturn piece).length ≤ piece.length := by
  rw [dropReturn]
  split
  · rw [List.length_dropLast]
    exact Nat.sub_le ..
  · exact Nat.le_refl _

theorem utf8ByteSize_pieceText (piece : List UInt8) :
    (pieceText piece).utf8ByteSize = lossyLength (dropReturn piece) := by
  rw [pieceText, utf8ByteSize_ofList]
  rfl

/-- A text is at most three times as long as its piece. -/
theorem utf8ByteSize_pieceText_le (piece : List UInt8) :
    (pieceText piece).utf8ByteSize ≤ 3 * piece.length := by
  obtain ⟨parts, hparts⟩ := exists_takenApart (dropReturn piece)
  have hgrowth := hparts.growth_le
  have hlength := length_dropReturn_le piece
  rw [utf8ByteSize_pieceText, hparts.lossyLength_eq]
  omega

/-! ## Section 2: Where no byte is replaced

Where nothing is replaced a text has the bytes of its piece but for the return that is dropped, so
the limit holds of the texts as well. -/

/-- A newline is read on its own. -/
theorem decodeLossy_newline_cons (bytes : List UInt8) :
    decodeLossy (newline :: bytes) = decodeLossy [newline] ++ decodeLossy bytes :=
  finish_foldl_step bytes ['\n']

/-- The lines of a stream have no byte that is replaced unless the stream has one. -/
theorem kept_of_mem_segments {stream line : List UInt8} (h : Kept stream)
    (hline : line ∈ segments stream) : Kept line := by
  induction stream using line_induction with
  | fragment bytes hbytes =>
    rw [segments_of_not_mem hbytes] at hline
    split at hline
    · exact absurd hline List.not_mem_nil
    · exact List.mem_singleton.mp hline ▸ h
  | line first bytes hfirst ih =>
    -- a newline closes the character that is open, and opens none
    have hnewline : ¬IsInner newline := by decide
    obtain ⟨hkept, hrest⟩ := h.of_append (decodeLossy_append_cons hnewline first bytes)
    rw [segments_append_cons hfirst] at hline
    rcases List.mem_cons.mp hline with rfl | hline
    · exact hkept
    · exact ih (@Kept.of_append [newline] bytes hrest (decodeLossy_newline_cons bytes)).2 hline

theorem kept_of_mem_greedyPieces {line piece : List UInt8} (h : Kept line)
    (hpiece : piece ∈ greedyPieces line) : Kept piece := by
  fun_induction greedyPieces line with
  | case1 line short => exact List.mem_singleton.mp hpiece ▸ h
  | case2 line long ih =>
    have hcut := decodeLossy_cut (by decide) (Nat.lt_of_not_le long)
    rw [← List.take_append_drop (charBoundary line maxLineBytes) line] at h
    obtain ⟨hfront, hrest⟩ := h.of_append (by rwa [List.take_append_drop])
    rcases List.mem_cons.mp hpiece with rfl | hpiece
    · exact hfront
    · exact ih hrest hpiece

/-- The text of a piece of which no byte is replaced is no longer than the piece. -/
theorem utf8ByteSize_pieceText_of_kept {piece : List UInt8} (h : Kept piece) :
    (pieceText piece).utf8ByteSize ≤ piece.length := by
  have hwhole := decodeLossy_eq_pieceText piece
  -- a return that is dropped can only make the text shorter
  have hsum : lossyLength piece =
      (pieceText piece).utf8ByteSize + ((returnBehind piece).map Char.utf8Size).sum := by
    rw [utf8ByteSize_pieceText, lossyLength, hwhole, List.map_append, List.sum_append,
      toList_pieceText]
    rfl
  rw [← h, hsum]
  exact Nat.le_add_right _ _

/-! ## Section 3: What a reader hands out

The texts of a reader are a beginning of those of the whole stream, so it is enough to know the
pieces of the stream. -/

namespace Reading

/-- What is handed out after any moves are the first lines of what has arrived, with a newline put
in wherever a fragment was taken. -/
theorem texts_prefix_streamLines (moves : List Move) :
    (after moves).texts <+: streamLines (withBreaks (after moves).stream (after moves).breaks) := by
  obtain ⟨taken, chunks, htracks⟩ := tracks_after moves
  -- a reader that is open has handed out the first lines, and a closed one has handed out all of
  -- them
  cases hclosed : (after moves).reader.closed with
  | false =>
    have hsplit := htracks.of_open hclosed
    rw [htracks.stream_eq, withBreaks_append htracks.breaks_le,
      OutputReader.streamLines_eq_splitPending, OutputReader.splitPending_append, hsplit,
      List.append_assoc]
    exact List.prefix_append ..
  | true =>
    obtain ⟨-, rfl, -, htexts⟩ := htracks.of_closed hclosed
    rw [htracks.stream_eq, List.flatten_nil, List.append_nil]
    exact htexts ▸ List.prefix_refl _

/-- The pieces of a stream whose texts were handed out. -/
def pieces (r : Reading) : List (List UInt8) :=
  ((segments (withBreaks r.stream r.breaks)).flatMap greedyPieces).take r.texts.length

/-- How long the texts of a reader are.  A piece is counted in bytes as it came, and its text in the
bytes that its characters take. -/
structure Sized (r : Reading) : Prop where
  /-- What is handed out are texts of pieces. -/
  texts_eq : r.texts = r.pieces.map pieceText
  /-- No piece is longer than the limit. -/
  length_le : ∀ piece ∈ r.pieces, piece.length ≤ maxLineBytes
  /-- A text is as long as its piece without the return at its end, and what the replacement
  characters add. -/
  size_eq : ∀ piece ∈ r.pieces, ∃ parts, TakenApart (dropReturn piece) parts ∧
    (pieceText piece).utf8ByteSize = (dropReturn piece).length + growth parts
  /-- No text is longer than three times the limit. -/
  size_le : ∀ text ∈ r.texts, text.utf8ByteSize ≤ 3 * maxLineBytes
  /-- Where the output is written in characters, and no fragment is taken inside of one, no text is
  longer than the limit. -/
  size_le_of_encode : ∀ s, withBreaks r.stream r.breaks = encode s →
    ∀ text ∈ r.texts, text.utf8ByteSize ≤ maxLineBytes
  /-- Else no text is longer than the limit exactly when each piece leaves room for what the
  replacement characters add. -/
  size_le_iff : (∀ text ∈ r.texts, text.utf8ByteSize ≤ maxLineBytes) ↔
    ∀ piece ∈ r.pieces, ∀ parts, TakenApart (dropReturn piece) parts →
      (dropReturn piece).length + growth parts ≤ maxLineBytes

/-- **The texts of a reader after any moves**: whatever arrives and in whatever chunks, however
often the reader is polled, and wherever fragments are taken.  Pieces keep to the limit; their texts
may be longer, by what replacement characters are longer than the bytes they stand for. -/
theorem sized_after (moves : List Move) : (after moves).Sized := by
  -- the texts handed out are pieces of lines, cut greedily
  have htexts : (after moves).texts = (after moves).pieces.map pieceText := by
    rw [pieces, List.map_take]
    exact List.prefix_iff_eq_take.mp (texts_prefix_streamLines moves)
  have hpieces : ∀ piece ∈ (after moves).pieces, ∃ line ∈
      segments (withBreaks (after moves).stream (after moves).breaks), piece ∈ greedyPieces line :=
    fun piece hpiece => List.mem_flatMap.mp (List.mem_of_mem_take hpiece)
  have hlength : ∀ piece ∈ (after moves).pieces, piece.length ≤ maxLineBytes := by
    intro piece hpiece
    obtain ⟨line, -, hline⟩ := hpieces piece hpiece
    exact length_le_of_mem_greedyPieces hline
  refine ⟨htexts, hlength, ?size_eq, ?size_le, ?encoded, ?exactly⟩
  -- the exact size, by any way in which the bytes of a piece are taken apart
  case size_eq =>
    intro piece _
    obtain ⟨parts, hparts⟩ := exists_takenApart (dropReturn piece)
    exact ⟨parts, hparts, by rw [utf8ByteSize_pieceText, hparts.lossyLength_eq]⟩
  -- each byte becomes three at most
  case size_le =>
    rw [htexts, List.forall_mem_map]
    exact fun piece hpiece => Nat.le_trans (utf8ByteSize_pieceText_le piece)
      (Nat.mul_le_mul_left 3 (hlength piece hpiece))
  -- what was encoded is kept byte for byte, so nothing grows
  case encoded =>
    rw [htexts]
    intro s hs
    rw [List.forall_mem_map]
    intro piece hpiece
    obtain ⟨line, hline, hcut⟩ := hpieces piece hpiece
    have hkept := kept_of_mem_greedyPieces (kept_of_mem_segments (hs ▸ kept_encode s) hline) hcut
    exact Nat.le_trans (utf8ByteSize_pieceText_of_kept hkept) (hlength piece hpiece)
  -- a text fits exactly if every way to take its piece apart fits
  case exactly =>
    rw [htexts, List.forall_mem_map]
    refine forall₂_congr fun piece _ => ?_
    rw [utf8ByteSize_pieceText]
    constructor
    · intro h parts hparts
      rwa [← hparts.lossyLength_eq]
    · intro h
      obtain ⟨parts, hparts⟩ := exists_takenApart (dropReturn piece)
      rw [hparts.lossyLength_eq]
      exact h parts hparts

/-- **A text that is too long**: one byte of its line is replaced by three. -/
theorem not_size_le_stray :
    ¬∀ text ∈ (after (wholly (fullPieceChunks 0xFF [newline]))).texts,
      text.utf8ByteSize ≤ maxLineBytes := by
  -- the piece has only bytes that are no text, without a newline or a return
  have hnewline : newline ∉ fullPiece 0xFF := not_mem_fullPiece (by decide) (by decide)
  have hreturn : carriageReturn ∉ fullPiece 0xFF := not_mem_fullPiece (by decide) (by decide)
  have hpieces : greedyPieces (fullPiece 0xFF) = [fullPiece 0xFF] := by
    rw [greedyPieces, dif_pos (Nat.le_of_eq (length_fullPiece _))]
  -- each of its bytes but the last is kept, and the last one becomes three
  have hlong : maxLineBytes < lossyLength (fullPiece 0xFF) := by
    have hstray : ¬IsInner 0xFF := by decide
    have hfront := length_le_lossyLength (List.replicate (maxLineBytes - 1) 0x61)
    have hlast : lossyLength [0xFF] = 3 := by decide
    rw [List.length_replicate] at hfront
    rw [fullPiece, lossyLength_append (decodeLossy_append_cons hstray _ []), hlast]
    omega
  rw [texts_wholly_line (streamOf_fullPieceChunks _ _) hnewline, lineTexts, hpieces,
    List.map_singleton, List.forall_mem_singleton, utf8ByteSize_pieceText,
    dropReturn_of_not_mem hreturn]
  exact Nat.not_le_of_lt hlong

end Reading

end Overseer.Reader
