import Overseer.Reader.Basic

/-!
# Cutting Bytes Into Lines Piece by Piece

Bytes can be split as a whole or in two goes.  Going on with what was left pending gives the lines
that the whole would have given, because a cut looks only at bytes in front of it and at the first
byte behind it.

- `cutLong_append`: the cuts of a long fragment do not depend on what comes later
- `splitPending_append`: splitting a stream in two goes
- `splitPending_append_newline`: a newline hands out the fragment that is pending
-/

namespace Overseer.Reader

/-! ## Section 1: Where cuts are made

A cut that would fall inside of a character is moved to the front of it, by three bytes at most.  To
decide that, the bytes in front of the limit and the one behind it are enough. -/

/-- A cut is made at the limit or in one of the three places in front of it. -/
theorem charBoundary_mem (bytes : List UInt8) (limit : Nat) :
    charBoundary bytes limit ∈ [limit, limit - 1, limit - 2, limit - 3] := by
  unfold charBoundary
  cases hf : [limit, limit - 1, limit - 2, limit - 3].find? fun i =>
      0 < i && !(bytes[i]?.any isContinuation) with
  | none => exact List.mem_cons_self
  | some i => exact List.mem_of_find?_eq_some hf

theorem charBoundary_le (bytes : List UInt8) (limit : Nat) : charBoundary bytes limit ≤ limit := by
  have hmem := charBoundary_mem bytes limit
  simp only [List.mem_cons, List.not_mem_nil, or_false] at hmem
  omega

theorem le_charBoundary (bytes : List UInt8) (limit : Nat) :
    limit - 3 ≤ charBoundary bytes limit := by
  have hmem := charBoundary_mem bytes limit
  simp only [List.mem_cons, List.not_mem_nil, or_false] at hmem
  omega

/-- A cut does not depend on what follows the byte at the limit. -/
theorem charBoundary_append {bytes : List UInt8} {limit : Nat} (h : limit < bytes.length)
    (later : List UInt8) : charBoundary (bytes ++ later) limit = charBoundary bytes limit := by
  have hget : ∀ i ≤ limit, (bytes ++ later)[i]? = bytes[i]? := fun i hi =>
    List.getElem?_append_left (by omega)
  unfold charBoundary
  congr 1
  simp only [List.find?_cons, List.find?_nil, hget limit (Nat.le_refl _),
    hget (limit - 1) (Nat.sub_le ..), hget (limit - 2) (Nat.sub_le ..),
    hget (limit - 3) (Nat.sub_le ..)]

/-! ## Section 2: Cutting what is too long

Cutting goes on as long as more than a piece is left.  It is a recursion on the length, and what is
left when it stops is a piece or less. -/

variable {limit : Nat} {hpos : 0 < limit}

theorem cutLong_of_le {bytes : List UInt8} (h : bytes.length ≤ limit) :
    cutLong limit hpos bytes = ([], bytes) := by
  rw [cutLong, dif_pos h]

theorem cutLong_of_lt {bytes : List UInt8} (h : limit < bytes.length) :
    cutLong limit hpos bytes =
      (bytes.take (charBoundary bytes limit) ::
          (cutLong limit hpos (bytes.drop (charBoundary bytes limit))).1,
        (cutLong limit hpos (bytes.drop (charBoundary bytes limit))).2) := by
  rw [cutLong, dif_neg (by omega)]

/-- What is left after cutting is not too long. -/
theorem length_cutLong_le (bytes : List UInt8) : (cutLong limit hpos bytes).2.length ≤ limit := by
  fun_induction cutLong limit hpos bytes with
  | case1 bytes short => exact short
  | case2 bytes long cut pieces rest hrest ih =>
    rw [hrest] at ih
    exact ih

/-- Cutting loses nothing. -/
theorem flatten_cutLong (bytes : List UInt8) :
    (cutLong limit hpos bytes).1.flatten ++ (cutLong limit hpos bytes).2 = bytes := by
  fun_induction cutLong limit hpos bytes with
  | case1 bytes short => rfl
  | case2 bytes long cut pieces rest hrest ih =>
    rw [hrest] at ih
    rw [List.flatten_cons, List.append_assoc, ih, List.take_append_drop]

/-- What is left of something is something. -/
theorem cutLong_ne_nil {bytes : List UInt8} (h : bytes ≠ []) :
    (cutLong limit hpos bytes).2 ≠ [] := by
  fun_induction cutLong limit hpos bytes with
  | case1 bytes short => exact h
  | case2 bytes long cut pieces rest hrest ih =>
    rw [hrest] at ih
    have hcut := charBoundary_le bytes limit
    refine ih fun hnil => ?_
    have := List.drop_eq_nil_iff.mp hnil
    omega

/-- A fragment that goes on is cut as before, and then from what was left. -/
theorem cutLong_append (bytes later : List UInt8) :
    cutLong limit hpos (bytes ++ later) =
      ((cutLong limit hpos bytes).1 ++
          (cutLong limit hpos ((cutLong limit hpos bytes).2 ++ later)).1,
        (cutLong limit hpos ((cutLong limit hpos bytes).2 ++ later)).2) := by
  fun_induction cutLong limit hpos bytes with
  | case1 bytes short => rw [List.nil_append]
  | case2 bytes long cut pieces rest hrest ih =>
    rw [hrest] at ih
    -- Both cut at the same place, and then the rest is shorter.
    have hlong : limit < bytes.length := by omega
    have hwhole : limit < (bytes ++ later).length := by
      rw [List.length_append]
      omega
    have hcut : cut ≤ bytes.length := Nat.le_trans (charBoundary_le bytes limit) (by omega)
    rw [cutLong_of_lt hwhole, charBoundary_append hlong, List.take_append_of_le_length hcut,
      List.drop_append_of_le_length hcut, ih, List.cons_append]

/-- The pieces of a segment that goes on. -/
theorem piecesOf_append (segment later : List UInt8) :
    piecesOf (segment ++ later) =
      (cutLong maxLineBytes (by decide) segment).1 ++
        piecesOf ((cutLong maxLineBytes (by decide) segment).2 ++ later) := by
  simp only [piecesOf]
  rw [cutLong_append, List.append_assoc]

/-- A segment that is not too long is its only piece. -/
theorem piecesOf_of_le {segment : List UInt8} (h : segment.length ≤ maxLineBytes) :
    piecesOf segment = [segment] := by
  simp only [piecesOf, cutLong_of_le h, List.nil_append]

/-- The first piece of a segment that is too long. -/
theorem piecesOf_of_lt {segment : List UInt8} (h : maxLineBytes < segment.length) :
    piecesOf segment =
      segment.take (charBoundary segment maxLineBytes) ::
        piecesOf (segment.drop (charBoundary segment maxLineBytes)) := by
  simp only [piecesOf]
  rw [cutLong_of_lt h, List.cons_append]

/-! ## Section 3: Taking bytes apart at newlines

An induction along the newlines: bytes are either a fragment, or a line with its newline and shorter
bytes behind it. -/

/-- Bytes are a fragment without a newline, or a line, its newline and more bytes. -/
theorem line_induction {motive : List UInt8 → Prop}
    (fragment : ∀ bytes, newline ∉ bytes → motive bytes)
    (line : ∀ segment bytes, newline ∉ segment → motive bytes →
      motive (segment ++ newline :: bytes)) (bytes : List UInt8) : motive bytes := by
  induction hn : bytes.length using Nat.strongRecOn generalizing bytes with
  | ind n ih =>
    by_cases hmem : newline ∈ bytes
    · obtain ⟨segment, later, rfl, hsegment⟩ := List.eq_append_cons_of_mem hmem
      refine line segment later hsegment (ih later.length ?_ later rfl)
      rw [← hn, List.length_append, List.length_cons]
      omega
    · exact fragment bytes hmem

theorem partsAround_of_not_mem {bytes : List UInt8} (h : newline ∉ bytes) :
    Text.partsAround (· == newline) bytes = (bytes, []) := by
  induction bytes with
  | nil => rfl
  | cons b bytes ih =>
    simp only [List.mem_cons, not_or] at h
    have hne : (b == newline) = false := beq_false_of_ne (Ne.symm h.1)
    have := ih h.2
    simp only [Text.partsAround, List.foldr_cons, hne] at this ⊢
    rw [this]
    rfl

/-- The first part goes up to the first newline, and the others are those of what is behind it. -/
theorem partsAround_append_newline {segment : List UInt8} (h : newline ∉ segment)
    (bytes : List UInt8) :
    Text.partsAround (· == newline) (segment ++ newline :: bytes) =
      (segment, (Text.partsAround (· == newline) bytes).1 ::
        (Text.partsAround (· == newline) bytes).2) := by
  induction segment with
  | nil => simp [Text.partsAround]
  | cons b segment ih =>
    -- the byte is no newline, so it goes to the part in front of the first one
    simp only [List.mem_cons, not_or] at h
    have hne : (b == newline) = false := beq_false_of_ne (Ne.symm h.1)
    have := ih h.2
    simp only [Text.partsAround, List.cons_append, List.foldr_cons, hne] at this ⊢
    rw [this]
    rfl

theorem completeSegments_of_not_mem {bytes : List UInt8} (h : newline ∉ bytes) :
    completeSegments bytes = ([], bytes) := by
  simp only [completeSegments, Text.endedParts, partsAround_of_not_mem h]
  rfl

theorem completeSegments_append_newline {segment : List UInt8} (h : newline ∉ segment)
    (bytes : List UInt8) :
    completeSegments (segment ++ newline :: bytes) =
      (segment :: (completeSegments bytes).1, (completeSegments bytes).2) := by
  simp only [completeSegments, Text.endedParts, partsAround_append_newline h]
  rfl

/-! ## Section 4: Splitting in two goes

What is pending is a fragment that was already cut, so it is short and has no newline.  Putting
later bytes behind it gives the same lines as putting them behind the whole fragment, because its
cuts were made in the same places. -/

namespace OutputReader

/-- A fragment is only cut. -/
theorem splitPending_of_not_mem {bytes : List UInt8} (h : newline ∉ bytes) :
    splitPending bytes =
      ((cutLong maxLineBytes (by decide) bytes).1.map pieceText,
        (cutLong maxLineBytes (by decide) bytes).2) := by
  simp only [splitPending, completeSegments_of_not_mem h, List.flatMap_nil, List.nil_append]

/-- The first line is complete, and the bytes behind it are split on their own. -/
theorem splitPending_append_cons {segment : List UInt8} (h : newline ∉ segment)
    (bytes : List UInt8) :
    splitPending (segment ++ newline :: bytes) =
      ((piecesOf segment).map pieceText ++ (splitPending bytes).1, (splitPending bytes).2) := by
  simp only [splitPending, completeSegments_append_newline h, List.flatMap_cons, List.append_assoc,
    List.map_append]

/-- The fragment that stays pending is no longer than a line and has no newline. -/
theorem splitPending_rest (bytes : List UInt8) :
    (splitPending bytes).2.length ≤ maxLineBytes ∧ newline ∉ (splitPending bytes).2 := by
  induction bytes using line_induction with
  | fragment bytes h =>
    rw [splitPending_of_not_mem h]
    refine ⟨length_cutLong_le bytes, fun hmem => h ?_⟩
    have hwhole := @flatten_cutLong maxLineBytes (by decide) bytes
    exact hwhole ▸ List.mem_append_right _ hmem
  | line segment bytes h ih => rwa [splitPending_append_cons h]

/-- **Splitting in two goes**: going on with what was pending gives what the whole gives.  This is
what makes the schedule of chunks not matter. -/
theorem splitPending_append (bytes later : List UInt8) :
    splitPending (bytes ++ later) =
      ((splitPending bytes).1 ++ (splitPending ((splitPending bytes).2 ++ later)).1,
        (splitPending ((splitPending bytes).2 ++ later)).2) := by
  induction bytes using line_induction with
  | fragment bytes h =>
    have hrest := (splitPending_rest bytes).2
    rw [splitPending_of_not_mem h] at hrest ⊢
    by_cases hlater : newline ∈ later
    · -- The fragment goes on to the first newline that comes later.
      obtain ⟨segment, others, rfl, hsegment⟩ := List.eq_append_cons_of_mem hlater
      have hwhole : newline ∉ bytes ++ segment := by simp [h, hsegment]
      have hpart := (List.not_mem_append hrest hsegment)
      simp only [← List.append_assoc]
      rw [splitPending_append_cons hwhole, splitPending_append_cons hpart, piecesOf_append,
        List.map_append, List.append_assoc]
    · have hwhole : newline ∉ bytes ++ later := by simp [h, hlater]
      have hpart := (List.not_mem_append hrest hlater)
      rw [splitPending_of_not_mem hwhole, splitPending_of_not_mem hpart, cutLong_append,
        List.map_append]
  | line segment bytes h ih =>
    -- the first line is the same on both sides
    rw [List.append_assoc, List.cons_append, splitPending_append_cons h,
      splitPending_append_cons h, ih, List.append_assoc]

/-- A newline hands out the fragment that was pending. -/
theorem splitPending_append_newline (bytes : List UInt8) :
    splitPending (bytes ++ [newline]) =
      ((splitPending bytes).1 ++ [pieceText (splitPending bytes).2], []) := by
  obtain ⟨hlength, hmem⟩ := splitPending_rest bytes
  have hempty : splitPending [] = ([], []) := by
    rw [splitPending_of_not_mem List.not_mem_nil, cutLong_of_le (by decide)]
    rfl
  rw [splitPending_append, splitPending_append_cons hmem, piecesOf_of_le hlength, hempty,
    List.append_nil]
  rfl

end OutputReader

end Overseer.Reader
