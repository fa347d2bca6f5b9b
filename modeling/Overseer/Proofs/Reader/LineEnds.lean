import Overseer.Proofs.Reader.Joining

/-!
# Lines That End in a Carriage Return and a Newline

A carriage return in front of each newline is dropped again, so the lines are those of the stream
without it.  But the return counts among the bytes of its line: behind a piece that is full already
it is a piece of its own, and an empty text is handed out for it.

- `lineTexts_append_return`: the texts of one line
- `segments_withReturns`: the lines of a stream
- `Reading.unchanged_after`: what is handed out with and without the returns
-/

namespace Overseer.Reader

/-! ## Section 1: One line

The return is behind the line, so it can only join the last of its pieces.  Whether there is room
decides alone; where each byte is a character, that is whether the length is a multiple of the
limit. -/

/-- The last piece of a line is as long as a piece may be. -/
def Fills (line : List UInt8) : Prop :=
  (cutLong maxLineBytes maxLineBytes_pos line).2.length = maxLineBytes

instance (line : List UInt8) : Decidable (Fills line) := inferInstanceAs (Decidable (_ = _))

theorem fills_of_length_eq {line : List UInt8} (h : line.length = maxLineBytes) : Fills line := by
  rw [Fills, cutLong_of_le (Nat.le_of_eq h)]
  exact h

theorem not_fills_of_lt {line : List UInt8} (h : line.length < maxLineBytes) : ¬Fills line := by
  rw [Fills, cutLong_of_le (Nat.le_of_lt h)]
  exact Nat.ne_of_lt h

/-- Where every byte begins a character, a line is cut at the limit. -/
theorem charBoundary_of_forall {bytes : List UInt8} (h : ∀ b ∈ bytes, isContinuation b = false) :
    charBoundary bytes maxLineBytes = maxLineBytes := by
  have hat : bytes[maxLineBytes]?.any isContinuation = false := by
    rw [Option.any_eq_false]
    intro b hb
    simp [h b (List.mem_of_getElem? hb)]
  exact charBoundary_of_any maxLineBytes_pos hat

/-- A line of characters that have one byte each fills its last piece at every multiple of the
limit. -/
theorem fills_iff_dvd {line : List UInt8} (h : ∀ b ∈ line, isContinuation b = false) :
    Fills line ↔ line ≠ [] ∧ maxLineBytes ∣ line.length := by
  have hpos := maxLineBytes_pos
  rw [Fills]
  fun_induction cutLong maxLineBytes maxLineBytes_pos line with
  | case1 line short =>
    constructor
    · rintro (hfull : line.length = maxLineBytes)
      refine ⟨?_, hfull ▸ Nat.dvd_refl _⟩
      rintro rfl
      exact Nat.ne_of_lt hpos hfull
    · rintro ⟨hne, hdvd⟩
      exact Nat.le_antisymm short (Nat.le_of_dvd (List.length_pos_iff.mpr hne) hdvd)
  | case2 line long cut pieces rest hrest ih =>
    -- a cut takes away as many bytes as the limit, and leaves some
    have hcut : cut = maxLineBytes := charBoundary_of_forall h
    have hne : line ≠ [] := by
      rintro rfl
      exact long (Nat.zero_le _)
    have hdrop : line.drop cut ≠ [] := by
      rw [hcut, ne_eq, List.drop_eq_nil_iff]
      exact long
    have ih := ih fun b hb => h b (List.mem_of_mem_drop hb)
    rw [hrest, List.length_drop, hcut,
      Nat.dvd_sub_iff_left (Nat.le_of_not_le long) (Nat.dvd_refl _)] at ih
    exact ih.trans (and_congr_left fun _ => iff_of_true (hcut ▸ hdrop) hne)

/-- A return behind the last piece of a line finds room in it, or is a piece of its own. -/
theorem map_pieceText_append_return {last : List UInt8} (hlength : last.length ≤ maxLineBytes)
    (h : carriageReturn ∉ last) :
    (greedyPieces (last ++ [carriageReturn])).map pieceText =
      pieceText last :: if last.length = maxLineBytes then [""] else [] := by
  -- a full piece leaves no room for the return, which then begins a piece of its own
  by_cases hfull : last.length = maxLineBytes
  · have hreturn : isContinuation carriageReturn = false := by decide
    rw [if_pos hfull, greedyPieces_append_cons hfull hreturn, greedyPieces, dif_pos (by decide)]
    rfl
  · have hroom : (last ++ [carriageReturn]).length ≤ maxLineBytes := by
      rw [List.length_append, List.length_singleton]
      omega
    rw [if_neg hfull, greedyPieces, dif_pos hroom, List.map_singleton, pieceText, pieceText,
      dropReturn_concat, dropReturn_of_not_mem h]

/-- **A line with a return behind it** is handed out as the line, and as an empty text more where
the return finds no room in the last piece. -/
theorem lineTexts_append_return {line : List UInt8} (h : carriageReturn ∉ line) :
    lineTexts (line ++ [carriageReturn]) = lineTexts line ++ if Fills line then [""] else [] := by
  have hrest : carriageReturn ∉ (cutLong maxLineBytes maxLineBytes_pos line).2 := fun hmem =>
    h (@flatten_cutLong maxLineBytes maxLineBytes_pos line ▸ List.mem_append_right _ hmem)
  have hlast := map_pieceText_append_return (length_cutLong_le line) hrest
  -- the other pieces are cut off in front of the return, as they are without it
  rw [lineTexts, lineTexts, greedyPieces_eq_piecesOf, greedyPieces_eq_piecesOf, piecesOf_append,
    ← greedyPieces_eq_piecesOf, List.map_append, hlast, piecesOf, List.map_append, List.append_assoc]
  rfl

/-! ## Section 2: A stream

Lines are looked at one by one, since a newline divides the stream without and with the returns in
the same places. -/

/-- A stream with a carriage return put in front of each newline. -/
def withReturns (stream : List UInt8) : List UInt8 :=
  stream.flatMap fun b => if b = newline then [carriageReturn, newline] else [b]

theorem withReturns_of_not_mem {bytes : List UInt8} (h : newline ∉ bytes) :
    withReturns bytes = bytes := by
  induction bytes with
  | nil => rfl
  | cons b bytes ih =>
    simp only [List.mem_cons, not_or] at h
    rw [withReturns, List.flatMap_cons, if_neg (Ne.symm h.1)]
    exact congrArg (b :: ·) (ih h.2)

theorem withReturns_append_cons {line : List UInt8} (h : newline ∉ line) (bytes : List UInt8) :
    withReturns (line ++ newline :: bytes) =
      line ++ [carriageReturn] ++ newline :: withReturns bytes := by
  rw [List.append_assoc, withReturns, List.flatMap_append]
  exact congrArg (· ++ _) (withReturns_of_not_mem h)

/-- The lines of a stream are the complete ones and what stands behind the last newline. -/
theorem segments_eq_completeSegments (stream : List UInt8) :
    segments stream = (completeSegments stream).1 ++ segments (completeSegments stream).2 := by
  induction stream using line_induction with
  | fragment bytes h => rw [completeSegments_of_not_mem h, List.nil_append]
  | line line bytes h ih =>
    rw [segments_append_cons h, completeSegments_append_newline h, ih, List.cons_append]

/-- With the returns, each complete line has one behind it. -/
theorem segments_withReturns (stream : List UInt8) :
    segments (withReturns stream) =
      (completeSegments stream).1.map (· ++ [carriageReturn]) ++
        segments (completeSegments stream).2 := by
  induction stream using line_induction with
  | fragment bytes h =>
    rw [withReturns_of_not_mem h, completeSegments_of_not_mem h, List.map_nil, List.nil_append]
  | line line bytes h ih =>
    have hreturn : newline ∉ line ++ [carriageReturn] := List.not_mem_append h (by decide)
    rw [withReturns_append_cons h, segments_append_cons hreturn, completeSegments_append_newline h,
      ih, List.map_cons, List.cons_append]

/-- The bytes of a complete line are bytes of the stream. -/
theorem mem_of_mem_completeSegments {stream line : List UInt8} {b : UInt8}
    (hline : line ∈ (completeSegments stream).1) (hb : b ∈ line) : b ∈ stream := by
  induction stream using line_induction with
  | fragment bytes h =>
    rw [completeSegments_of_not_mem h] at hline
    exact absurd hline List.not_mem_nil
  | line first bytes h ih =>
    rw [completeSegments_append_newline h] at hline
    rcases List.mem_cons.mp hline with rfl | hline
    · exact List.mem_append_left _ hb
    · exact List.mem_append_right _ (List.mem_cons_of_mem _ (ih hline))

/-- The texts of a stream with the returns. -/
theorem flatMap_lineTexts_withReturns {stream : List UInt8} (h : carriageReturn ∉ stream) :
    (segments (withReturns stream)).flatMap lineTexts =
      ((completeSegments stream).1.flatMap fun line =>
          lineTexts line ++ if Fills line then [""] else []) ++
        (segments (completeSegments stream).2).flatMap lineTexts := by
  have hlines : ∀ line ∈ (completeSegments stream).1, lineTexts (line ++ [carriageReturn]) =
      lineTexts line ++ if Fills line then [""] else [] := fun line hline =>
    lineTexts_append_return fun hmem => h (mem_of_mem_completeSegments hline hmem)
  rw [segments_withReturns, List.flatMap_append, List.flatMap_map, List.flatMap_def,
    List.map_congr_left hlines, ← List.flatMap_def]

namespace Reading

/-- What is handed out for a stream and for that stream with its returns. -/
structure Unchanged (texts returned : List String) (stream : List UInt8) : Prop where
  /-- Each line of the stream is handed out piece by piece. -/
  texts_eq : texts = (completeSegments stream).1.flatMap lineTexts ++
    (segments (completeSegments stream).2).flatMap lineTexts
  /-- With the returns, an empty text is handed out behind each complete line that fills its last
  piece, and nothing else is changed. -/
  returned_eq : returned =
    ((completeSegments stream).1.flatMap fun line =>
        lineTexts line ++ if Fills line then [""] else []) ++
      (segments (completeSegments stream).2).flatMap lineTexts
  /-- So it is all the same exactly when no complete line does that. -/
  returned_eq_iff : returned = texts ↔ ∀ line ∈ (completeSegments stream).1, ¬Fills line
  /-- A line that is shorter than a piece may be does not. -/
  not_fills : ∀ line : List UInt8, line.length < maxLineBytes → ¬Fills line
  /-- A line of characters of one byte each does so at the multiples of the limit. -/
  fills_iff : ∀ line : List UInt8, (∀ b ∈ line, isContinuation b = false) →
    (Fills line ↔ line ≠ [] ∧ maxLineBytes ∣ line.length)

/-- **Two schedules, with and without the returns**: both read their stream to its end.  What they
hand out differs only behind lines that fill their last piece, where the return does not fit into it
any more. -/
theorem unchanged_after (moves others : List Move) (h : (after moves).foundClosed = true)
    (hothers : (after others).foundClosed = true) (hmoves : .takeFragment ∉ moves)
    (hothermoves : .takeFragment ∉ others) (hstream : carriageReturn ∉ streamOf moves)
    (hreturns : streamOf others = withReturns (streamOf moves)) :
    Unchanged (after moves).texts (after others).texts (streamOf moves) := by
  have htexts := texts_of_untaken h hmoves
  have hreturned := texts_of_untaken hothers hothermoves
  rw [segments_eq_completeSegments, List.flatMap_append] at htexts
  rw [hreturns, flatMap_lineTexts_withReturns hstream] at hreturned
  refine ⟨htexts, hreturned, ?_, fun line => not_fills_of_lt, fun line => fills_iff_dvd⟩
  rw [htexts, hreturned, List.append_cancel_right_eq, eq_comm, flatMap_eq_flatMap_append_iff]
  simp only [ite_eq_right_iff, List.cons_ne_nil, imp_false]

/-- Two lines and a fragment. -/
theorem unchanged_wholly_shortLines :
    (after (wholly [[0x61, 0x0A, 0x0A], [0x62]])).texts = ["a", "", "b"] ∧
      Unchanged (after (wholly [[0x61, 0x0A, 0x0A], [0x62]])).texts
        (after (wholly [[0x61, 0x0D], [0x0A, 0x0D, 0x0A, 0x62]])).texts
        (streamOf (wholly [[0x61, 0x0A, 0x0A], [0x62]])) :=
  ⟨by decide +kernel,
    unchanged_after _ _ (foundClosed_wholly _) (foundClosed_wholly _) (not_mem_wholly _)
      (not_mem_wholly _) (by decide +kernel) (by decide +kernel)⟩

/-- **A line that is not there**: behind a full line, the return is handed out as an empty text. -/
theorem texts_ne_fullPiece :
    (after (wholly (fullPieceChunks 0x61 [newline]))).foundClosed = true ∧
      (after (wholly (fullPieceChunks 0x61 [carriageReturn, newline]))).foundClosed = true ∧
      .takeFragment ∉ wholly (fullPieceChunks 0x61 [newline]) ∧
      .takeFragment ∉ wholly (fullPieceChunks 0x61 [carriageReturn, newline]) ∧
      carriageReturn ∉ streamOf (wholly (fullPieceChunks 0x61 [newline])) ∧
      streamOf (wholly (fullPieceChunks 0x61 [carriageReturn, newline])) =
        withReturns (streamOf (wholly (fullPieceChunks 0x61 [newline]))) ∧
      (after (wholly (fullPieceChunks 0x61 [carriageReturn, newline]))).texts ≠
        (after (wholly (fullPieceChunks 0x61 [newline]))).texts := by
  -- neither a return nor a newline is among the bytes of the piece
  have hreturn : carriageReturn ∉ fullPiece 0x61 := not_mem_fullPiece (by decide) (by decide)
  have hnewline : newline ∉ fullPiece 0x61 := not_mem_fullPiece (by decide) (by decide)
  have hlong : newline ∉ fullPiece 0x61 ++ [carriageReturn] :=
    List.not_mem_append hnewline (by decide)
  have hfills := fills_of_length_eq (length_fullPiece 0x61)
  refine ⟨foundClosed_wholly _, foundClosed_wholly _, not_mem_wholly _, not_mem_wholly _, ?_, ?_,
    ?_⟩
  · rw [streamOf_fullPieceChunks]
    exact List.not_mem_append hreturn (by decide)
  · rw [streamOf_fullPieceChunks, streamOf_fullPieceChunks, withReturns_append_cons hnewline,
      List.append_assoc]
    rfl
  · -- the return makes the line one byte too long, and the piece behind it is empty without it
    have hstream : streamOf (wholly (fullPieceChunks 0x61 [carriageReturn, newline])) =
        fullPiece 0x61 ++ [carriageReturn] ++ [newline] := by
      rw [streamOf_fullPieceChunks, List.append_cons]
    rw [texts_wholly_line hstream hlong, texts_wholly_line (streamOf_fullPieceChunks _ _) hnewline,
      lineTexts_append_return hreturn, if_pos hfills, ne_eq, List.append_right_eq_self]
    exact List.cons_ne_nil _ _

end Reading

end Overseer.Reader
