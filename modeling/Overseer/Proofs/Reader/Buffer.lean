import Mathlib.Data.List.Induction
import Overseer.Proofs.Reader.Digest
import Overseer.Proofs.Reader.Sizes

/-!
# What a Reader Has Pending

Between two calls a reader has part of one line pending, and no more of it than a piece may have.
While a poll is under way more is pending: chunks are taken for as long as the limit is not reached,
so the last one passes it, and then the lines and the pieces are cut off from the front.

- `OutputReader.stages`: the bytes that are pending in the course of a poll
- `OutputReader.length_le_of_mem_stages`: how many they are
- `infix_of_infix_withBreaks`: a piece is a part of the stream, wherever fragments are taken
- `Reading.orderly_after`: a reader after any moves
-/

namespace Overseer.Reader

namespace OutputReader

/-! ## Section 1: A poll that is under way

A poll is one step of the reader, but it takes time, and meanwhile more is pending than between two
polls.  The stages list what is pending behind each of the small steps that a poll is made of, in
their order. -/

/-- The pending bytes in front of each chunk that is taken at once, and behind the last one. -/
def readyStages : List UInt8 → List Arrival → List (List UInt8)
  | pending, [] => [pending]
  | pending, .ended :: _ => [pending]
  | pending, .bytes chunk :: queue =>
    if pending.length < maxLineBytes then pending :: readyStages (pending ++ chunk) queue
    else [pending]

/-- The pending bytes of a fragment in front of each piece that is cut off, and behind the last
one. -/
def cutStages (fragment : List UInt8) : List (List UInt8) :=
  if _short : fragment.length ≤ maxLineBytes then [fragment]
  else fragment :: cutStages (fragment.drop (charBoundary fragment maxLineBytes))
termination_by fragment.length
decreasing_by
  have : 0 < charBoundary fragment maxLineBytes := charBoundary_pos maxLineBytes_pos
  have := maxLineBytes_pos
  rw [List.length_drop]
  omega

/-- The pending bytes when the lines among them are gone, when each piece of the fragment is, and at
the end of the output when the fragment is. -/
def handOutStages (pending : List UInt8) (ended : Bool) : List (List UInt8) :=
  cutStages (completeSegments pending).2 ++ if ended then [[]] else []

/-- **The course of a poll**: the bytes that are pending at its start, behind each chunk that it
takes, behind the lines, behind each piece, and at its end. -/
def stages (r : OutputReader) : List (List UInt8) :=
  if r.closed then [r.pending]
  else
    match r.queue with
    | [] => [r.pending]
    | .ended :: _ => r.pending :: handOutStages r.pending true
    | .bytes chunk :: queue =>
      let (pending, ended, _) := takeReady (r.pending ++ chunk) queue
      r.pending :: readyStages (r.pending ++ chunk) queue ++ handOutStages pending ended

/-! The stages end where the poll does -/

theorem getLast?_readyStages (pending : List UInt8) (queue : List Arrival) :
    (readyStages pending queue).getLast? = some (takeReady pending queue).1 := by
  fun_induction takeReady pending queue with
  | case1 pending => rfl
  | case2 pending queue hroom chunk ih =>
    rw [readyStages, if_pos hroom, List.getLast?_cons, ih, Option.getD_some]
  | case3 pending queue hroom => rfl
  | case4 pending a queue hfull =>
    cases a with
    | bytes chunk => rw [readyStages, if_neg hfull, List.getLast?_singleton]
    | ended => rfl

theorem getLast?_cutStages (fragment : List UInt8) :
    (cutStages fragment).getLast? = some (cutLong maxLineBytes maxLineBytes_pos fragment).2 := by
  fun_induction cutStages fragment with
  | case1 fragment short => rw [cutLong_of_le short, List.getLast?_singleton]
  | case2 fragment long ih =>
    rw [cutLong_of_lt (Nat.lt_of_not_le long), List.getLast?_cons, ih, Option.getD_some]

theorem getLast?_handOutStages (r : OutputReader) (ended : Bool) :
    (handOutStages r.pending ended).getLast? = some (r.handOut ended).2.pending := by
  cases ended with
  | true => exact List.getLast?_concat
  | false =>
    rw [(handOut_false r).2.2, handOutStages, if_neg Bool.false_ne_true, List.append_nil,
      getLast?_cutStages]
    rfl

theorem head?_stages (r : OutputReader) : r.stages.head? = some r.pending := by
  simp only [stages]
  split
  · rfl
  · split <;> rfl

/-- A poll leaves the reader as it is, or it takes what arrived and hands out what is complete. -/
theorem poll_stages (r : OutputReader) :
    (r.poll.2 = r ∧ r.stages = [r.pending] ∧ r.poll.1 ≠ .lines []) ∨
      ∃ reader ended front, r.poll = handOut reader ended ∧
        r.stages = front ++ handOutStages reader.pending ended := by
  -- a reader that is closed, or to which nothing came, stays as it is
  cases hclosed : r.closed with
  | true => exact .inl (by simp [poll, stages, hclosed])
  | false =>
    cases hqueue : r.queue with
    | nil => exact .inl (by simp [poll, stages, hclosed, hqueue])
    | cons a queue =>
      refine .inr ?_
      -- the end of the output, or the chunks that are ready
      cases a with
      | ended =>
        refine ⟨{ r with queue }, true, [r.pending], ?_, ?_⟩
        · simp [poll, hclosed, hqueue]
        · simp [stages, hclosed, hqueue]
      | bytes chunk =>
        refine ⟨{ r with
          queue := (takeReady (r.pending ++ chunk) queue).2.2
          pending := (takeReady (r.pending ++ chunk) queue).1 },
          (takeReady (r.pending ++ chunk) queue).2.1,
          r.pending :: readyStages (r.pending ++ chunk) queue, ?_, ?_⟩
        · simp [poll, hclosed, hqueue]
        · simp [stages, hclosed, hqueue]

theorem getLast?_stages (r : OutputReader) : r.stages.getLast? = some r.poll.2.pending := by
  obtain ⟨hreader, hstages, -⟩ | ⟨reader, ended, front, hpoll, hstages⟩ := r.poll_stages
  · rw [hstages, hreader, List.getLast?_singleton]
  · rw [hstages, hpoll, List.getLast?_append, getLast?_handOutStages, Option.some_or]

/-! ## Section 2: How much is pending

Each small step is looked at by itself: a chunk comes on top of less than a limit, a cut takes away
what it hands out, and handing out lines leaves a part of what was there. -/

variable {pending fragment held : List UInt8} {queue : List Arrival}

/-- A chunk is taken only below the limit, so the limit is passed by one chunk at most. -/
theorem length_le_of_mem_readyStages
    (hqueue : ∀ chunk, .bytes chunk ∈ queue → chunk.length ≤ chunkBytes)
    (hpending : pending.length ≤ maxLineBytes + chunkBytes) (h : held ∈ readyStages pending queue) :
    held.length ≤ maxLineBytes + chunkBytes := by
  induction queue generalizing pending with
  | nil => exact List.mem_singleton.mp h ▸ hpending
  | cons a queue ih =>
    -- the end leaves what is pending as it is, and a chunk is taken if there is room
    cases a with
    | ended => exact List.mem_singleton.mp h ▸ hpending
    | bytes chunk =>
      rw [readyStages] at h
      split at h
      · next hroom =>
        rcases List.mem_cons.mp h with rfl | h
        · exact hpending
        · refine ih (fun c hc => hqueue c (List.mem_cons_of_mem _ hc)) ?_ h
          have hchunk := hqueue chunk List.mem_cons_self
          rw [List.length_append]
          omega
      · -- at the limit nothing more is taken
        exact List.mem_singleton.mp h ▸ hpending

/-- Cutting makes the fragment shorter. -/
theorem length_le_of_mem_cutStages (h : held ∈ cutStages fragment) :
    held.length ≤ fragment.length := by
  fun_induction cutStages fragment with
  | case1 fragment short => exact Nat.le_of_eq (congrArg _ (List.mem_singleton.mp h))
  | case2 fragment long ih =>
    rcases List.mem_cons.mp h with rfl | h
    · exact Nat.le_refl _
    · exact Nat.le_trans (ih h) (List.length_drop ▸ Nat.sub_le ..)

theorem length_completeSegments_le (bytes : List UInt8) :
    (completeSegments bytes).2.length ≤ bytes.length := by
  induction bytes using line_induction with
  | fragment bytes h => exact completeSegments_of_not_mem h ▸ Nat.le_refl _
  | line segment bytes h ih =>
    simp only [completeSegments_append_newline h, List.length_append, List.length_cons]
    omega

theorem length_le_of_mem_handOutStages {ended : Bool} (h : held ∈ handOutStages pending ended) :
    held.length ≤ pending.length := by
  rcases List.mem_append.mp h with h | h
  · exact Nat.le_trans (length_le_of_mem_cutStages h) (length_completeSegments_le pending)
  · cases ended with
    | true => exact List.mem_singleton.mp h ▸ Nat.zero_le _
    | false => exact absurd h List.not_mem_nil

/-- **How much is pending in the course of a poll**: one chunk above the limit at most.  A chunk is
taken only while less than the limit is pending. -/
theorem length_le_of_mem_stages {r : OutputReader}
    (hqueue : ∀ chunk, .bytes chunk ∈ r.queue → chunk.length ≤ chunkBytes)
    (hpending : r.pending.length ≤ maxLineBytes) (h : held ∈ r.stages) :
    held.length ≤ maxLineBytes + chunkBytes := by
  have hstart : r.pending.length ≤ maxLineBytes + chunkBytes := Nat.le_add_right_of_le hpending
  simp only [stages] at h
  -- closed, nothing there, the end, or chunks that are ready
  split at h
  · exact List.mem_singleton.mp h ▸ hstart
  · split at h
    · exact List.mem_singleton.mp h ▸ hstart
    · rcases List.mem_cons.mp h with rfl | h
      · exact hstart
      · exact Nat.le_trans (length_le_of_mem_handOutStages h) hstart
    · next chunk queue heq =>
      rw [heq] at hqueue
      have hfirst : (r.pending ++ chunk).length ≤ maxLineBytes + chunkBytes := by
        rw [List.length_append]
        exact Nat.add_le_add hpending (hqueue chunk List.mem_cons_self)
      have hready := fun held => @length_le_of_mem_readyStages _ held _
        (fun c hc => hqueue c (List.mem_cons_of_mem _ hc)) hfirst
      -- what is pending while chunks are taken, or while lines are handed out
      rcases List.mem_append.mp h with h | h
      · rcases List.mem_cons.mp h with rfl | h
        · exact hstart
        · exact hready _ h
      · -- nothing is handed out but what was pending behind the last chunk
        exact Nat.le_trans (length_le_of_mem_handOutStages h)
          (hready _ (List.mem_of_getLast? (getLast?_readyStages _ _)))

/-! ## Section 3: What a poll finds -/

theorem handOut_ne (r : OutputReader) (ended : Bool) :
    (r.handOut ended).1 ≠ .idle ∧ (r.handOut ended).1 ≠ .lines [] := by
  -- both ends of a poll ask for lines first, and say something else if there are none
  have hne : ∀ (lines : List String) (other : Poll), other ≠ .idle → other ≠ .lines [] →
      (if lines.isEmpty then other else .lines lines) ≠ .idle ∧
        (if lines.isEmpty then other else .lines lines) ≠ .lines [] := by
    intro lines other hidle hlines
    cases lines with
    | nil => exact ⟨hidle, hlines⟩
    | cons text lines => exact ⟨nofun, nofun⟩
  cases ended with
  | true => exact hne _ .closed nofun nofun
  | false => exact hne _ .pending nofun nofun

/-- A poll never hands out an empty list of lines. -/
theorem poll_ne_nil (r : OutputReader) : r.poll.1 ≠ .lines [] := by
  obtain ⟨-, -, hne⟩ | ⟨reader, ended, front, hpoll, -⟩ := r.poll_stages
  · exact hne
  · exact hpoll ▸ (handOut_ne reader ended).2

/-- A poll that finds nothing leaves the reader as it is. -/
theorem poll_of_idle {r : OutputReader} (h : r.poll.1 = .idle) : r.poll.2 = r := by
  obtain ⟨hreader, -⟩ | ⟨reader, ended, front, hpoll, -⟩ := r.poll_stages
  · exact hreader
  · exact absurd (hpoll ▸ h) (handOut_ne reader ended).1

end OutputReader

/-! ## Section 4: Pieces are parts of the stream

A text that was handed out can be traced back to the stream.  Where fragments were taken a line is
cut in two, so a piece is a part of the stream but need not be one of its lines. -/

/-- A part in which `b` is not found stands on one side of it. -/
theorem infix_of_infix_append_cons {part front rest : List UInt8} {b : UInt8} (hb : b ∉ part)
    (h : part <:+: front ++ b :: rest) : part <:+: front ∨ part <:+: rest := by
  -- only an empty part is found at the front of what begins with `b`
  have hempty : ∀ {l : List UInt8}, b ∉ l → l <+: b :: rest → l = [] := by
    intro l hl h
    rcases List.prefix_cons_iff.mp h with hnil | ⟨t, rfl, -⟩
    · exact hnil
    · exact absurd List.mem_cons_self hl
  rcases List.infix_append_iff.mp h with h | h | ⟨before, behind, rfl, hbefore, hbehind⟩
  · exact .inl h
  · rcases List.infix_cons_iff.mp h with h | h
    · exact .inr (hempty hb h ▸ List.nil_infix)
    · exact .inr h
  · -- a part across `b` would hold it
    have hnil := hempty (fun hmem => hb (List.mem_append_right _ hmem)) hbehind
    rw [hnil, List.append_nil]
    exact .inl hbefore.isInfix

theorem infix_of_infix_insertIdx {part bytes : List UInt8} {offset : Nat} (hpart : newline ∉ part)
    (h : part <:+: bytes.insertIdx offset newline) : part <:+: bytes := by
  by_cases hoffset : offset ≤ bytes.length
  · obtain ⟨front, rest, rfl, rfl⟩ : ∃ front rest, bytes = front ++ rest ∧ front.length = offset :=
      ⟨_, _, (List.take_append_drop offset bytes).symm, List.length_take_of_le hoffset⟩
    rw [insertIdx_append_of_le (Nat.le_refl _), List.insertIdx_length_self, List.append_assoc] at h
    rcases infix_of_infix_append_cons hpart h with h | h
    · exact h.trans (List.prefix_append ..).isInfix
    · exact h.trans (List.suffix_append ..).isInfix
  · rwa [List.insertIdx_of_length_lt (Nat.lt_of_not_le hoffset)] at h

/-- A part without a newline is a part of the stream, wherever newlines are put into it. -/
theorem infix_of_infix_withBreaks {part stream : List UInt8} {offsets : List Nat}
    (hpart : newline ∉ part) (h : part <:+: withBreaks stream offsets) : part <:+: stream := by
  induction offsets with
  | nil => exact h
  | cons offset offsets ih => exact ih (infix_of_infix_insertIdx hpart h)

/-- A line of a stream is a part of the stream and has no newline in it. -/
theorem infix_of_mem_segments {stream line : List UInt8} (h : line ∈ segments stream) :
    line <:+: stream ∧ newline ∉ line := by
  induction stream using line_induction with
  -- without a newline there is one line, if there is anything
  | fragment bytes hbytes =>
    rw [segments_of_not_mem hbytes] at h
    split at h
    · exact absurd h List.not_mem_nil
    · obtain rfl := List.mem_singleton.mp h
      exact ⟨List.infix_rfl, hbytes⟩
  | line first bytes hfirst ih =>
    rw [segments_append_cons hfirst] at h
    -- the first line stands at the front, and the others behind its newline
    rcases List.mem_cons.mp h with rfl | h
    · exact ⟨(List.prefix_append ..).isInfix, hfirst⟩
    · obtain ⟨hinside, hline⟩ := ih h
      have hrest : bytes <:+ first ++ newline :: bytes :=
        (List.suffix_cons ..).trans (List.suffix_append ..)
      exact ⟨hinside.trans hrest.isInfix, hline⟩

theorem infix_of_mem_greedyPieces {line piece : List UInt8} (h : piece ∈ greedyPieces line) :
    piece <:+: line := by
  fun_induction greedyPieces line with
  | case1 line short => exact List.mem_singleton.mp h ▸ List.infix_rfl
  | case2 line long ih =>
    rcases List.mem_cons.mp h with rfl | h
    · exact (List.take_prefix ..).isInfix
    · exact (ih h).trans (List.drop_suffix ..).isInfix

/-! ## Section 5: A reader after any moves

By induction on the moves, one claim at a time: which chunks are waiting, what is pending, what a
closed reader has left.  They are put together at the end. -/

namespace Reading

open OutputReader

theorem after_append (moves later : List Move) :
    after (moves ++ later) = later.foldl step (after moves) := List.foldl_append

theorem after_concat (moves : List Move) (move : Move) :
    after (moves ++ [move]) = (after moves).step move := after_append moves [move]

/-- The chunks in the queue are chunks that have arrived. -/
theorem arrived_of_mem_queue {moves : List Move} {chunk : List UInt8}
    (h : .bytes chunk ∈ (after moves).reader.queue) : .arrive (.bytes chunk) ∈ moves := by
  induction moves using List.reverseRecOn with
  | nil => exact absurd h List.not_mem_nil
  | append_singleton moves move ih =>
    rw [after_concat] at h
    rw [List.mem_append, List.mem_singleton]
    cases move with
    | arrive a =>
      -- behind the end nothing is queued any more
      simp only [step, OutputReader.arrive] at h
      split at h
      · exact .inl (ih h)
      · cases a with
        | bytes c =>
          rcases List.mem_append.mp h with h | h
          · exact .inl (ih h)
          · cases List.mem_singleton.mp h
            exact .inr rfl
        | ended =>
          rcases List.mem_append.mp h with h | h
          · exact .inl (ih h)
          · cases List.mem_singleton.mp h
    | poll => exact .inl (ih ((queue_poll_suffix _).mem h))
    | takeFragment => exact .inl (ih h)

/-- The texts that were handed out are the texts of pieces. -/
theorem exists_piece_of_mem_texts {moves : List Move} {text : String}
    (h : text ∈ (after moves).texts) :
    ∃ piece, piece <:+: (after moves).stream ∧ piece.length ≤ maxLineBytes ∧
      pieceText piece = text := by
  have hlines := (texts_prefix_streamLines moves).mem h
  obtain ⟨piece, hpiece, rfl⟩ := List.mem_map.mp hlines
  obtain ⟨line, hline, hcut⟩ := List.mem_flatMap.mp hpiece
  obtain ⟨hinside, hnewline⟩ := infix_of_mem_segments hline
  have hpart := infix_of_mem_greedyPieces hcut
  exact ⟨piece, infix_of_infix_withBreaks (fun hmem => hnewline (hpart.mem hmem))
    (hpart.trans hinside), length_le_of_mem_greedyPieces hcut, rfl⟩

/-- What a reader has pending, and what it hands out, at any time between two calls. -/
structure Orderly (r : Reading) : Prop where
  /-- A part of one line is pending, and not more of it than a piece may have. -/
  newline_not_mem : newline ∉ r.reader.pending
  length_le : r.reader.pending.length ≤ maxLineBytes
  /-- In the course of the next poll, one chunk more is pending at most. -/
  course : r.reader.stages.head? = some r.reader.pending ∧
    r.reader.stages.getLast? = some r.reader.poll.2.pending
  length_le_of_mem_stages : ∀ held ∈ r.reader.stages, held.length ≤ maxLineBytes + chunkBytes
  /-- Each text that was handed out is that of a part of the stream, and so is the fragment that is
  shown. -/
  exists_piece : ∀ text, text ∈ r.texts ∨ r.reader.fragment? = some text → ∃ piece,
    piece <:+: r.stream ∧ piece.length ≤ maxLineBytes ∧ pieceText piece = text
  /-- A poll hands out a line if it hands out lines. -/
  lines_ne_nil : r.reader.poll.1 ≠ .lines []
  /-- A poll that finds nothing leaves what is pending. -/
  pending_of_idle : r.reader.poll.1 = .idle → r.reader.poll.2.pending = r.reader.pending
  /-- A closed reader has seen the end, and has nothing left. -/
  of_closed : r.reader.closed = true →
    r.reader.sourceEnded = true ∧ r.reader.queue = [] ∧ r.reader.pending = []
  /-- Once a poll has found the close, each later one does, and no fragment is shown. -/
  closed_for_good : r.foundClosed = true → ∀ later : List Move,
    (later.foldl step r).reader.poll.1 = .closed ∧ (later.foldl step r).reader.fragment? = none

theorem pending_after (moves : List Move) :
    (after moves).reader.pending.length ≤ maxLineBytes ∧ newline ∉ (after moves).reader.pending := by
  obtain ⟨taken, chunks, htracks⟩ := tracks_after moves
  cases hclosed : (after moves).reader.closed with
  | true =>
    obtain ⟨-, -, hpending, -⟩ := htracks.of_closed hclosed
    rw [hpending]
    exact ⟨Nat.zero_le _, List.not_mem_nil⟩
  | false =>
    have hrest := splitPending_rest (withBreaks taken (after moves).breaks)
    rwa [htracks.of_open hclosed] at hrest

/-- A closed reader has seen the end, and has nothing left. -/
theorem closed_after {moves : List Move} (h : (after moves).reader.closed = true) :
    (after moves).reader.sourceEnded = true ∧ (after moves).reader.queue = [] ∧
      (after moves).reader.pending = [] := by
  obtain ⟨taken, chunks, htracks⟩ := tracks_after moves
  obtain ⟨hended, rfl, hpending, -⟩ := htracks.of_closed h
  refine ⟨hended, ?_, hpending⟩
  rw [htracks.queue_eq, h, Bool.not_true, Bool.and_false]
  rfl

/-- A poll that has found the close is not taken back. -/
theorem foundClosed_foldl {r : Reading} (h : r.foundClosed = true) (later : List Move) :
    (later.foldl step r).foundClosed = true := by
  induction later generalizing r with
  | nil => exact h
  | cons move later ih =>
    refine ih ?_
    cases move with
    | arrive a => exact h
    | poll => rw [step_poll, h, Bool.true_or]
    | takeFragment => exact h

/-- **A reader after any moves**, if no chunk is longer than one read may be.  That includes the
moments inside of a poll, between the chunks that it takes. -/
theorem orderly_after (moves : List Move)
    (h : ∀ chunk, .arrive (.bytes chunk) ∈ moves → chunk.length ≤ chunkBytes) :
    (after moves).Orderly where
  newline_not_mem := (pending_after moves).2
  length_le := (pending_after moves).1
  course := ⟨head?_stages _, getLast?_stages _⟩
  length_le_of_mem_stages held hheld :=
    OutputReader.length_le_of_mem_stages (fun chunk hchunk => h chunk (arrived_of_mem_queue hchunk))
      (pending_after moves).1 hheld
  exists_piece := by
    rintro text (htext | htext)
    · exact exists_piece_of_mem_texts htext
    · -- what is shown would be handed out if the fragment were taken
      have hmem : text ∈ (after (moves ++ [.takeFragment])).texts := by
        rw [after_concat]
        exact List.mem_append_right _ (Option.mem_toList.mpr htext)
      have hpiece := exists_piece_of_mem_texts hmem
      rwa [after_concat] at hpiece
  lines_ne_nil := poll_ne_nil _
  pending_of_idle hidle := by rw [poll_of_idle hidle]
  of_closed := closed_after
  closed_for_good := by
    intro hfound later
    rw [← after_append]
    have hlater : (after (moves ++ later)).foundClosed = true := by
      rw [after_append]
      exact foundClosed_foldl hfound later
    obtain ⟨taken, chunks, htracks⟩ := tracks_after (moves ++ later)
    -- the close was found, so the reader is closed, and a closed reader has nothing left
    have hclosed := htracks.closed_of_found hlater
    refine ⟨?_, ?_⟩
    · rw [poll, if_pos hclosed]
    · rw [fragment?, (closed_after hclosed).2.2]
      rfl

/-- A character that comes in two chunks, up to the close. -/
theorem orderly_after_splitCharacter :
    (∀ chunk, .arrive (.bytes chunk) ∈ splitCharacter → chunk.length ≤ chunkBytes) ∧
      (after splitCharacter).Orderly := by
  have hchunks : ∀ chunk, .arrive (.bytes chunk) ∈ splitCharacter →
      chunk.length ≤ chunkBytes := by
    intro chunk hchunk
    simp only [splitCharacter, List.mem_cons, Move.arrive.injEq, Arrival.bytes.injEq, reduceCtorEq,
      List.not_mem_nil, or_false, false_or] at hchunk
    rcases hchunk with rfl | rfl <;> decide
  exact ⟨hchunks, orderly_after splitCharacter hchunks⟩

end Reading

end Overseer.Reader
