import Overseer.Proofs.Reader.Schedule
import Overseer.Proofs.Text.Lossy

/-!
# Joining the Pieces of a Line

A long line is handed out in pieces.  A cut splits no character, so the pieces put together are read
as the line is; but a carriage return is dropped at the end of each piece, and not only at the end
of the line.

- `decodeLossy_cut`: both sides of a cut are read on their own
- `decodeLossy_eq_flatMap_pieces`: a line is the texts of its pieces and the returns behind them
- `join_lineTexts_iff`: the texts put together are the line exactly when no return stands at a cut
- `Reading.joined_after`: the lines of a stream that is read to its end
-/

namespace Overseer.Reader

/-! ## Section 1: Both sides of a cut

A character that is broken off counts as one here, too: bytes that go on with no character are read
one by one, so a cut between them does no harm either. -/

theorem isContinuation_iff (b : UInt8) : isContinuation b = true ↔ Text.IsInner b := by
  have hall : ∀ n < 256, n &&& 0xC0 = 0x80 ↔ 0x80 ≤ n ∧ n ≤ 0xBF := by decide +kernel
  rw [isContinuation, beq_iff_eq, ← UInt8.toNat_inj, UInt8.toNat_and]
  exact hall b.toNat b.toNat_lt

/-- A cut is made in front of a byte that goes on with no character, or at the limit behind bytes
that all do. -/
theorem charBoundary_cases {bytes : List UInt8} {limit : Nat} (hlimit : 3 < limit)
    (h : limit < bytes.length) :
    (∃ b rest, bytes.drop (charBoundary bytes limit) = b :: rest ∧ isContinuation b = false) ∨
      charBoundary bytes limit = limit ∧
        ∀ c ∈ (bytes.take limit).drop (limit - 3), isContinuation c = true := by
  unfold charBoundary
  cases hf : [limit, limit - 1, limit - 2, limit - 3].find? fun i =>
      0 < i && !(bytes[i]?.any isContinuation) with
  | none =>
    -- the bytes at all places that are tried go on with a character
    refine .inr ⟨rfl, fun c hc => ?_⟩
    obtain ⟨i, hi⟩ := List.mem_iff_getElem?.mp hc
    rw [List.getElem?_drop, List.getElem?_take] at hi
    split at hi
    · have hplace : limit - 3 + i ∈ [limit, limit - 1, limit - 2, limit - 3] := by
        simp only [List.mem_cons, List.not_mem_nil, or_false]
        omega
      have hnot := List.find?_eq_none.mp hf _ hplace
      have hpos : 0 < limit - 3 + i := by omega
      simpa [hi, hpos] using hnot
    · cases hi
  | some i =>
    have hi := List.mem_of_find?_eq_some hf
    have hnot := List.find?_some hf
    have hbound : i < bytes.length := by
      simp only [List.mem_cons, List.not_mem_nil, or_false] at hi
      omega
    refine .inl ⟨bytes[i], bytes.drop (i + 1), List.drop_eq_getElem_cons hbound, ?_⟩
    rw [List.getElem?_eq_getElem hbound, Option.any_some, Bool.and_eq_true,
      Bool.not_eq_true'] at hnot
    exact hnot.2

/-- The limit is tried first. -/
theorem charBoundary_of_any {bytes : List UInt8} {limit : Nat} (hlimit : 0 < limit)
    (h : bytes[limit]?.any isContinuation = false) : charBoundary bytes limit = limit := by
  rw [charBoundary, List.find?_cons_of_pos, Option.getD_some]
  rw [h, decide_eq_true hlimit]
  rfl

/-- **A cut splits no character**: both sides of it are read on their own.  Where no place near the
limit is between two characters, the bytes there are part of none. -/
theorem decodeLossy_cut {bytes : List UInt8} {limit : Nat} (hlimit : 3 < limit)
    (h : limit < bytes.length) :
    Text.decodeLossy bytes =
      Text.decodeLossy (bytes.take (charBoundary bytes limit)) ++
        Text.decodeLossy (bytes.drop (charBoundary bytes limit)) := by
  -- either a character begins at the limit, or the cut was moved back over inner bytes
  rcases charBoundary_cases hlimit h with ⟨b, rest, hdrop, hb⟩ | ⟨hcut, hinner⟩
  · have hnot : ¬Text.IsInner b := by
      rw [← isContinuation_iff, hb]
      exact Bool.false_ne_true
    rw [hdrop, ← Text.decodeLossy_append_cons hnot, ← hdrop, List.take_append_drop]
  · -- a character has three bytes at most behind its first one
    have hthree : ((bytes.take limit).drop (limit - 3)).length = 3 := by
      rw [List.length_drop, List.length_take]
      omega
    have hfront : bytes.take limit =
        (bytes.take limit).take (limit - 3) ++ (bytes.take limit).drop (limit - 3) :=
      (List.take_append_drop _ _).symm
    rw [hcut, hfront, ← Text.decodeLossy_append_of_inner hthree fun c hc =>
      (isContinuation_iff c).mp (hinner c hc), ← hfront, List.take_append_drop]

/-! ## Section 2: The texts of a line

Two things are dropped or put in on the way from a line to its texts: the returns at the ends of the
pieces, and nothing else.  So the returns behind the pieces but the last are all that the texts can
lack. -/

/-- The carriage return that is dropped behind a piece. -/
def returnBehind (piece : List UInt8) : List Char :=
  if piece.getLast? = some carriageReturn then ['\r'] else []

/-- The texts that are handed out for one line. -/
def lineTexts (line : List UInt8) : List String := (greedyPieces line).map pieceText

theorem returnBehind_eq_nil_iff {piece : List UInt8} :
    returnBehind piece = [] ↔ piece.getLast? ≠ some carriageReturn := by
  rw [returnBehind]
  split <;> simp [*]

theorem toList_pieceText (piece : List UInt8) :
    (pieceText piece).toList = Text.decodeLossy (dropReturn piece) := by
  rw [pieceText, String.toList_ofList]

theorem dropReturn_concat (bytes : List UInt8) :
    dropReturn (bytes ++ [carriageReturn]) = bytes := by
  rw [dropReturn, if_pos List.getLast?_concat, List.dropLast_concat]

theorem dropReturn_of_not_mem {bytes : List UInt8} (h : carriageReturn ∉ bytes) :
    dropReturn bytes = bytes := by
  rw [dropReturn, if_neg fun hlast => h (List.mem_of_getLast? hlast)]

/-- A piece is read as its text and the carriage return behind it. -/
theorem decodeLossy_eq_pieceText (piece : List UInt8) :
    Text.decodeLossy piece = (pieceText piece).toList ++ returnBehind piece := by
  rw [toList_pieceText, dropReturn, returnBehind]
  split
  · next hlast =>
    obtain ⟨front, rfl⟩ := List.getLast?_eq_some_iff.mp hlast
    have hnot : ¬Text.IsInner carriageReturn := by decide
    rw [Text.decodeLossy_append_cons hnot, List.dropLast_concat]
    rfl
  · rw [List.append_nil]

/-- **A line is the texts of its pieces** with the carriage returns that were dropped behind
them. -/
theorem decodeLossy_eq_flatMap_pieces (line : List UInt8) :
    Text.decodeLossy line =
      (greedyPieces line).flatMap fun piece => (pieceText piece).toList ++ returnBehind piece := by
  fun_induction greedyPieces line with
  | case1 line short => rw [List.flatMap_singleton, decodeLossy_eq_pieceText]
  | case2 line long ih =>
    rw [List.flatMap_cons, ← ih, ← decodeLossy_eq_pieceText]
    exact decodeLossy_cut (by decide) (Nat.lt_of_not_le long)

/-- The last piece of a line ends as the line does. -/
theorem returnBehind_cutLong {limit : Nat} {hpos : 0 < limit} (line : List UInt8) :
    returnBehind (cutLong limit hpos line).2 = returnBehind line := by
  by_cases hnil : line = []
  · rw [hnil, cutLong_of_le (Nat.zero_le _)]
  · have hlast := congrArg List.getLast? (@flatten_cutLong limit hpos line)
    rw [List.getLast?_append, Option.or_of_isSome (by simpa using cutLong_ne_nil hnil)] at hlast
    rw [returnBehind, returnBehind, hlast]

/-- Nothing is missing between the parts of a list exactly when nothing was put between them. -/
theorem flatMap_eq_flatMap_append_iff {α β : Type} (l : List α) (f g : α → List β) :
    l.flatMap f = (l.flatMap fun a => f a ++ g a) ↔ ∀ a ∈ l, g a = [] := by
  have hlength : (l.flatMap fun a => f a ++ g a).length =
      (l.flatMap f).length + (l.flatMap g).length := by
    induction l with
    | nil => rfl
    | cons a l ih =>
      simp only [List.flatMap_cons, List.length_append, ih]
      omega
  -- the two lists agree only if what was put between has no length
  constructor
  · intro h
    have hnone : (l.flatMap g).length = 0 := by
      rw [← h] at hlength
      omega
    exact List.flatMap_eq_nil_iff.mp (List.eq_nil_of_length_eq_zero hnone)
  · intro h
    have hsame : l.map (fun a => f a ++ g a) = l.map f :=
      List.map_congr_left fun a ha => by rw [h a ha, List.append_nil]
    rw [List.flatMap_def, List.flatMap_def, hsame]

/-- **The texts of a line put together** are the line as it would be read in one piece exactly when
no piece but the last ends in a carriage return. -/
theorem join_lineTexts_iff (line : List UInt8) :
    String.join (lineTexts line) = pieceText line ↔
      ∀ piece ∈ (greedyPieces line).dropLast, piece.getLast? ≠ some carriageReturn := by
  have hwhole := decodeLossy_eq_flatMap_pieces line
  -- the last piece ends as the line does, so what is dropped behind it cancels
  rw [decodeLossy_eq_pieceText, ← @returnBehind_cutLong maxLineBytes maxLineBytes_pos line] at hwhole
  rw [← String.toList_inj, String.toList_join, lineTexts, List.flatMap_map]
  simp only [greedyPieces_eq_piecesOf, piecesOf, List.dropLast_concat, List.flatMap_append,
    List.flatMap_singleton, ← List.append_assoc] at hwhole ⊢
  rw [List.append_cancel_right hwhole, List.append_cancel_right_eq, flatMap_eq_flatMap_append_iff]
  simp only [returnBehind_eq_nil_iff]

/-- A piece that fills a line to the limit is cut off whole where a character begins behind it. -/
theorem greedyPieces_append_cons {front : List UInt8} {b : UInt8}
    (hlength : front.length = maxLineBytes) (hb : isContinuation b = false) (rest : List UInt8) :
    greedyPieces (front ++ b :: rest) = front :: greedyPieces (b :: rest) := by
  have hget : (front ++ b :: rest)[maxLineBytes]? = some b := by
    rw [← hlength, List.getElem?_append_right (Nat.le_refl _), Nat.sub_self,
      List.getElem?_cons_zero]
  have hcut : charBoundary (front ++ b :: rest) maxLineBytes = maxLineBytes :=
    charBoundary_of_any maxLineBytes_pos (by rw [hget, Option.any_some, hb])
  rw [greedyPieces, dif_neg, hcut, ← hlength, List.take_left, List.drop_left]
  rw [List.length_append, List.length_cons]
  omega

/-! ## Section 3: The lines of a stream

A stream of one full piece with a return as its last byte is the smallest one whose texts lack
something.  A piece that is shorter than the limit is never cut, so no stream of short lines is
concerned. -/

/-- A stream that is one line. -/
theorem segments_append_newline {line : List UInt8} (h : newline ∉ line) :
    segments (line ++ [newline]) = [line] := by
  rw [segments_append_cons h, segments_of_not_mem List.not_mem_nil, if_pos rfl]

theorem streamLines_eq_flatMap (stream : List UInt8) :
    streamLines stream = (segments stream).flatMap lineTexts :=
  List.map_flatMap

namespace Reading

/-- Bytes that are as many as a piece may have. -/
def fullPiece (last : UInt8) : List UInt8 := List.replicate (maxLineBytes - 1) 0x61 ++ [last]

/-- The chunks in which they arrive, and what comes behind them. -/
def fullPieceChunks (last : UInt8) (rest : List UInt8) : List (List UInt8) :=
  List.replicate 15 (List.replicate chunkBytes 0x61) ++
    [List.replicate (chunkBytes - 1) 0x61 ++ [last], rest]

theorem length_fullPiece (last : UInt8) : (fullPiece last).length = maxLineBytes := by
  rw [fullPiece, List.length_append, List.length_replicate, List.length_singleton]
  exact Nat.sub_add_cancel maxLineBytes_pos

theorem not_mem_fullPiece {b last : UInt8} (h : b ≠ 0x61) (hlast : b ≠ last) :
    b ∉ fullPiece last :=
  List.not_mem_append (fun hmem => h (List.eq_of_mem_replicate hmem))
    (fun hmem => hlast (List.mem_singleton.mp hmem))

theorem streamOf_fullPieceChunks (last : UInt8) (rest : List UInt8) :
    streamOf (wholly (fullPieceChunks last rest)) = fullPiece last ++ rest := by
  have hlength : 15 * chunkBytes + (chunkBytes - 1) = maxLineBytes - 1 := by decide
  rw [streamOf_wholly, fullPieceChunks, List.flatten_append, List.flatten_replicate_replicate,
    fullPiece, ← hlength, ← List.replicate_append_replicate]
  simp only [List.flatten_cons, List.flatten_nil, List.append_assoc, List.append_nil]

/-- Where no fragment is taken, a stream that is read to its end is handed out line by line. -/
theorem texts_of_untaken {moves : List Move} (h : (after moves).foundClosed = true)
    (hmoves : .takeFragment ∉ moves) :
    (after moves).texts = (segments (streamOf moves)).flatMap lineTexts := by
  obtain ⟨taken, chunks, htracks⟩ := tracks_after moves
  obtain ⟨-, rfl, -, htexts⟩ := htracks.of_closed (htracks.closed_of_found h)
  have hstream : streamOf moves = taken := by
    rw [← stream_after, htracks.stream_eq, List.flatten_nil, List.append_nil]
  rw [htexts, breaks_after hmoves, hstream, ← streamLines_eq_flatMap]
  rfl

/-- Chunks that are one line with its newline. -/
theorem texts_wholly_line {chunks : List (List UInt8)} {line : List UInt8}
    (hstream : streamOf (wholly chunks) = line ++ [newline]) (h : newline ∉ line) :
    (after (wholly chunks)).texts = lineTexts line := by
  rw [texts_of_untaken (foundClosed_wholly _) (not_mem_wholly _), hstream,
    segments_append_newline h, List.flatMap_singleton]

/-- What is handed out for the lines of a stream. -/
structure Joined (texts : List String) (stream : List UInt8) : Prop where
  /-- The texts of one line after those of the other. -/
  texts_eq : texts = (segments stream).flatMap lineTexts
  /-- Nothing is lost of a line but carriage returns behind its pieces. -/
  lossless : ∀ line ∈ segments stream, Text.decodeLossy line =
    (greedyPieces line).flatMap fun piece => (pieceText piece).toList ++ returnBehind piece
  /-- The texts of a line are the line, without the carriage return at its end, exactly when no
  piece of it but the last ends in one. -/
  join_iff : ∀ line ∈ segments stream, String.join (lineTexts line) = pieceText line ↔
    ∀ piece ∈ (greedyPieces line).dropLast, piece.getLast? ≠ some carriageReturn

/-- **The lines of a stream that is read to its end**, whatever its bytes are and however long its
lines.  Cutting a line loses nothing of it but returns that happen to stand in front of a cut. -/
theorem joined_after (moves : List Move) (h : (after moves).foundClosed = true)
    (hmoves : .takeFragment ∉ moves) : Joined (after moves).texts (streamOf moves) where
  texts_eq := texts_of_untaken h hmoves
  lossless line _ := decodeLossy_eq_flatMap_pieces line
  join_iff line _ := join_lineTexts_iff line

/-- A character that comes in two chunks, a line that ends in a carriage return, and one that holds
one. -/
theorem joined_wholly_shortLines :
    (after (wholly [[0xE2, 0x9A], [0xA0, 0x0D, 0x0A], [0x61, 0x0D, 0x62]])).texts = ["⚠", "a\rb"] ∧
      Joined (after (wholly [[0xE2, 0x9A], [0xA0, 0x0D, 0x0A], [0x61, 0x0D, 0x62]])).texts
        (streamOf (wholly [[0xE2, 0x9A], [0xA0, 0x0D, 0x0A], [0x61, 0x0D, 0x62]])) :=
  ⟨by decide +kernel, joined_after _ (foundClosed_wholly _) (not_mem_wholly _)⟩

/-- A line with a carriage return where it is cut. -/
def cutReturn : List UInt8 := fullPiece carriageReturn ++ [0x62]

/-- **A return that nobody reads**: it stands inside the line, and the texts of the line put
together are not the line. -/
theorem not_join_cutReturn :
    (after (wholly (fullPieceChunks carriageReturn [0x62, newline]))).foundClosed = true ∧
      .takeFragment ∉ wholly (fullPieceChunks carriageReturn [0x62, newline]) ∧
      streamOf (wholly (fullPieceChunks carriageReturn [0x62, newline])) = cutReturn ++ [newline] ∧
      newline ∉ cutReturn ∧
      String.join (after (wholly (fullPieceChunks carriageReturn [0x62, newline]))).texts ≠
        pieceText cutReturn := by
  -- a line of one full piece with a return at its end, and one byte behind it
  have hstream : streamOf (wholly (fullPieceChunks carriageReturn [0x62, newline])) =
      cutReturn ++ [newline] := by
    rw [streamOf_fullPieceChunks, cutReturn, List.append_assoc]
    rfl
  have hmem : newline ∉ cutReturn :=
    List.not_mem_append (not_mem_fullPiece (by decide) (by decide)) (by decide)
  have hpieces : greedyPieces cutReturn = [fullPiece carriageReturn, [0x62]] := by
    rw [cutReturn, greedyPieces_append_cons (length_fullPiece _) (by decide), greedyPieces,
      dif_pos (by decide)]
  -- every piece but the last is cut in the middle of the line, and the first one ends with a return
  refine ⟨foundClosed_wholly _, not_mem_wholly _, hstream, hmem, ?_⟩
  rw [texts_wholly_line hstream hmem, ne_eq, join_lineTexts_iff, hpieces]
  exact fun h => h _ List.mem_cons_self List.getLast?_concat

end Reading

end Overseer.Reader
