import Overseer.Proofs.Reader.Lines

/-!
# Schedules of a Reader

Output arrives in chunks, and between two arrivals the reader may be polled and its fragment may be
taken, as often as one likes.  Whatever the order, the texts that are handed out until the reader
is closed are the lines of the stream, with one newline put in wherever a fragment was taken.

A poll that takes chunks while they arrive is the poll that comes after these arrivals.

- `Reading.tracks_step`: what one move preserves
- `Reading.texts_eq_streamLines`: what a whole schedule hands out
- `Reading.exists_polls_foundClosed`: after the end of the output, polling leads to the close
- `Reading.wholly`: a schedule that reads any chunks to the end
-/

namespace Overseer.Reader

/-! ## Section 1: Moves and what they leave behind

A reading notes what an observer sees who knows the stream: how much of it the reader has taken,
what was handed out, and at which offsets a fragment was taken.  Nothing of that is kept by the
reader itself. -/

/-- What happens to a reader. -/
inductive Move where
  | arrive (a : Arrival)
  | poll
  | takeFragment

/-- The bytes of an arrival. -/
def Arrival.content : Arrival → List UInt8
  | .bytes chunk => chunk
  | .ended => []

/-- The stream of a schedule: all bytes that arrive before the end of the output. -/
def streamOf : List Move → List UInt8
  | [] => []
  | .arrive (.bytes chunk) :: moves => chunk ++ streamOf moves
  | .arrive .ended :: _ => []
  | .poll :: moves | .takeFragment :: moves => streamOf moves

/-- The texts that a poll hands out. -/
def Poll.texts : Poll → List String
  | .lines texts => texts
  | _ => []

/-- A stream with a newline put in at each offset.  The offsets count the bytes of the stream
alone, and the first one comes first. -/
def withBreaks (stream : List UInt8) (offsets : List Nat) : List UInt8 :=
  offsets.foldr (fun offset bytes => bytes.insertIdx offset newline) stream

/-- A reader with what went in and what came out.  The places where fragments were taken are noted
as offsets in the stream. -/
structure Reading where
  reader : OutputReader
  /-- The bytes that arrived. -/
  stream : List UInt8
  /-- How much of the stream the reader had taken, each time that a fragment was taken from it. -/
  breaks : List Nat
  /-- What was handed out. -/
  texts : List String
  /-- A poll has found that all output was handed out. -/
  foundClosed : Bool

namespace Reading

/-- A reader before any output. -/
def start : Reading := ⟨.empty, [], [], [], false⟩

/-- How much of the stream the reader has taken. -/
def received (r : Reading) : Nat :=
  r.stream.length - (r.reader.queue.flatMap Arrival.content).length

/-- One move.  What arrives after the end of the output is lost. -/
def step (r : Reading) : Move → Reading
  | .arrive a =>
    { r with
      reader := r.reader.arrive a
      stream := if r.reader.sourceEnded then r.stream else r.stream ++ a.content }
  | .poll =>
    let (found, reader) := r.reader.poll
    { r with
      reader
      texts := r.texts ++ found.texts
      foundClosed := r.foundClosed || found == .closed }
  | .takeFragment =>
    let (text, reader) := r.reader.takeFragment
    { r with
      reader
      texts := r.texts ++ text.toList
      breaks := if text.isSome then r.breaks ++ [r.received] else r.breaks }

/-- What a schedule leaves behind. -/
def after (moves : List Move) : Reading := moves.foldl step start

end Reading

/-! ## Section 2: Newlines put into a stream -/

/-- A byte is put into the front of a list, whatever stands behind it. -/
theorem insertIdx_append_of_le {bytes : List UInt8} {offset : Nat} (h : offset ≤ bytes.length)
    (b : UInt8) (later : List UInt8) :
    (bytes ++ later).insertIdx offset b = bytes.insertIdx offset b ++ later := by
  induction bytes generalizing offset with
  | nil =>
    obtain rfl : offset = 0 := Nat.le_zero.mp h
    rfl
  | cons c bytes ih =>
    -- in front of the first byte, or one place further on
    cases offset with
    | zero => rfl
    | succ offset =>
      rw [List.cons_append, List.insertIdx_succ_cons, List.insertIdx_succ_cons,
        ih (Nat.le_of_succ_le_succ h), List.cons_append]

/-- Newlines put into the front of a stream leave what comes later as it is. -/
theorem withBreaks_append {stream : List UInt8} {offsets : List Nat}
    (h : ∀ offset ∈ offsets, offset ≤ stream.length) (later : List UInt8) :
    withBreaks (stream ++ later) offsets = withBreaks stream offsets ++ later := by
  have hlength : ∀ offsets : List Nat, stream.length ≤ (withBreaks stream offsets).length := by
    intro offsets
    induction offsets with
    | nil => exact Nat.le_refl _
    | cons offset offsets ih => exact Nat.le_trans ih List.length_le_length_insertIdx
  -- the breaks are put in from the last one on, and each stays within the front
  induction offsets with
  | nil => rfl
  | cons offset offsets ih =>
    have hoffset := Nat.le_trans (h offset List.mem_cons_self) (hlength offsets)
    simp only [withBreaks, List.foldr_cons] at ih hoffset ⊢
    rw [ih fun o ho => h o (List.mem_cons_of_mem _ ho), insertIdx_append_of_le hoffset]

/-- A newline at the end of what was taken so far. -/
theorem withBreaks_concat {stream : List UInt8} {offsets : List Nat}
    (h : ∀ offset ∈ offsets, offset ≤ stream.length) :
    withBreaks stream (offsets ++ [stream.length]) = withBreaks stream offsets ++ [newline] := by
  rw [← withBreaks_append h, withBreaks, List.foldr_append, List.foldr_cons, List.foldr_nil,
    List.insertIdx_length_self]
  rfl

/-! ## Section 3: What one poll does

A poll that finds less than a limit pending takes one chunk after the other.  It ends with nothing,
with lines, or with the close; each of these three is a case of its own below, with all that is
known of it. -/

/-- What is behind the chunks of a queue. -/
def endMark (ended : Bool) : List Arrival := if ended then [.ended] else []

namespace OutputReader

/-- The chunks that are taken at once come from the front of the queue.  The end is met only behind
the last of them. -/
theorem takeReady_spec (pending : List UInt8) (chunks : List (List UInt8)) (ended : Bool) :
    ∃ got left met, chunks = got ++ left ∧ (met = true → left = [] ∧ ended = true) ∧
      takeReady pending (chunks.map .bytes ++ endMark ended) =
        (pending ++ got.flatten, met, left.map .bytes ++ endMark (ended && !met)) := by
  induction chunks generalizing pending with
  | nil =>
    cases ended with
    | false => exact ⟨[], [], false, rfl, nofun, by simp [endMark, takeReady]⟩
    | true =>
      -- the end is met only if there is room for it, as for a chunk
      by_cases hroom : pending.length < maxLineBytes
      · exact ⟨[], [], true, rfl, fun _ => ⟨rfl, rfl⟩, by simp [endMark, takeReady, hroom]⟩
      · exact ⟨[], [], false, rfl, nofun, by simp [endMark, takeReady, hroom]⟩
  | cons chunk chunks ih =>
    -- the chunk is taken as long as there is room, and otherwise all stay in the queue
    by_cases hroom : pending.length < maxLineBytes
    · obtain ⟨got, left, met, rfl, hmet, htake⟩ := ih (pending ++ chunk)
      refine ⟨chunk :: got, left, met, rfl, hmet, ?_⟩
      rw [List.map_cons, List.cons_append, takeReady, if_pos hroom, htake, List.flatten_cons,
        List.append_assoc]
    · refine ⟨[], chunk :: chunks, false, rfl, nofun, ?_⟩
      rw [List.map_cons, List.cons_append, takeReady, if_neg hroom]
      simp

/-- What is handed out before the end of the output. -/
theorem handOut_false (r : OutputReader) :
    (r.handOut false).1 ≠ .closed ∧ (r.handOut false).1.texts = (splitPending r.pending).1 ∧
      (r.handOut false).2 = { r with pending := (splitPending r.pending).2 } := by
  simp only [handOut]
  cases hlines : (splitPending r.pending).1 <;> simp [Poll.texts]

/-- What is handed out at the end of the output. -/
theorem handOut_true (r : OutputReader) :
    (r.handOut true).1.texts = streamLines r.pending ∧
      (r.handOut true).2 = { r with pending := [], closed := true } := by
  simp only [handOut, streamLines_eq_splitPending, lastText]
  cases hrest : (splitPending r.pending).2.isEmpty <;>
    cases hlines : (splitPending r.pending).1 <;> simp [Poll.texts]

/-- A poll of an open reader finds nothing, takes chunks from the queue and hands out what is
complete, or takes the whole queue and closes the reader. -/
theorem poll_cases {r : OutputReader} {chunks : List (List UInt8)} (hopen : r.closed = false)
    (hqueue : r.queue = chunks.map .bytes ++ endMark r.sourceEnded) :
    (r.sourceEnded = false ∧ r.poll = (.idle, r)) ∨
      (∃ got left, chunks = got ++ left ∧ left.length < chunks.length ∧ r.poll.1 ≠ .closed ∧
        r.poll.1.texts = (splitPending (r.pending ++ got.flatten)).1 ∧
        r.poll.2 =
          { r with
            queue := left.map .bytes ++ endMark r.sourceEnded
            pending := (splitPending (r.pending ++ got.flatten)).2 }) ∨
      (r.sourceEnded = true ∧ r.poll.1.texts = streamLines (r.pending ++ chunks.flatten) ∧
        r.poll.2 = { r with queue := [], pending := [], closed := true }) := by
  -- what the poll finds first in the queue decides: nothing, the end, or a chunk
  cases chunks with
  | nil =>
    cases hended : r.sourceEnded with
    | false =>
      have hnil : r.queue = [] := by rw [hqueue, hended]; rfl
      exact .inl ⟨rfl, by simp only [poll, hopen, hnil]; rfl⟩
    | true =>
      have hmark : r.queue = [.ended] := by rw [hqueue, hended]; rfl
      have hpoll : r.poll = handOut { r with queue := [] } true := by
        simp only [poll, hopen, hmark]; rfl
      obtain ⟨htexts, hreader⟩ := handOut_true { r with queue := [] }
      rw [hpoll, List.flatten_nil, List.append_nil]
      exact .inr (.inr ⟨rfl, htexts, hended ▸ hreader⟩)
  | cons chunk chunks =>
    obtain ⟨got, left, met, rfl, hmet, htake⟩ :=
      takeReady_spec (r.pending ++ chunk) chunks r.sourceEnded
    have hcons : r.queue = .bytes chunk :: ((got ++ left).map .bytes ++ endMark r.sourceEnded) :=
      hqueue
    rw [List.append_assoc, ← List.flatten_cons] at htake
    -- whether the end was met behind the chunks that were taken
    cases met with
    | false =>
      have hpoll : r.poll = handOut
          { r with
            queue := left.map .bytes ++ endMark r.sourceEnded
            pending := r.pending ++ (chunk :: got).flatten } false := by
        simp only [poll, hopen, hcons, htake, Bool.not_false, Bool.and_true]; rfl
      refine .inr (.inl ⟨chunk :: got, left, rfl, ?_, ?_⟩)
      · simp only [List.length_append, List.length_cons]
        omega
      · rw [hpoll]
        exact handOut_false _
    | true =>
      obtain ⟨rfl, hended⟩ := hmet rfl
      have hpoll : r.poll = handOut
          { r with queue := [], pending := r.pending ++ (chunk :: got).flatten } true := by
        simp only [poll, hopen, hcons, htake, Bool.not_true, Bool.and_false]; rfl
      rw [hpoll, List.append_nil]
      exact .inr (.inr ⟨hended, handOut_true _⟩)

end OutputReader

/-! ## Section 4: What every move preserves

The stream is divided in two at the place that the reader has reached.  In front of it the newlines
are put in, behind it the chunks wait; a move either shifts the place or puts a newline there. -/

namespace Reading

open OutputReader

/-- **The invariant of a schedule**: the reader has taken some bytes of the stream and the others
wait as chunks.  What was handed out, and what is pending, is what splitting the taken bytes gives;
a closed reader has handed out all lines. -/
structure Tracks (r : Reading) (taken : List UInt8) (chunks : List (List UInt8)) : Prop where
  queue_eq : r.reader.queue =
    chunks.map .bytes ++ endMark (r.reader.sourceEnded && !r.reader.closed)
  stream_eq : r.stream = taken ++ chunks.flatten
  breaks_le : ∀ offset ∈ r.breaks, offset ≤ taken.length
  of_open : r.reader.closed = false →
    splitPending (withBreaks taken r.breaks) = (r.texts, r.reader.pending)
  of_closed : r.reader.closed = true → r.reader.sourceEnded = true ∧ chunks = [] ∧
    r.reader.pending = [] ∧ r.texts = streamLines (withBreaks taken r.breaks)
  closed_of_found : r.foundClosed = true → r.reader.closed = true

variable {r : Reading} {taken : List UInt8} {chunks : List (List UInt8)}

theorem tracks_start : start.Tracks [] [] where
  queue_eq := rfl
  stream_eq := rfl
  breaks_le := nofun
  of_open _ := by
    rw [withBreaks, start, List.foldr_nil, splitPending_of_not_mem List.not_mem_nil,
      cutLong_of_le (by decide)]
    rfl
  of_closed := nofun
  closed_of_found := nofun

/-- The bytes that were not taken wait in the queue. -/
theorem taken_append_queue (h : r.Tracks taken chunks) :
    taken ++ r.reader.queue.flatMap Arrival.content = r.stream := by
  have hmark : ∀ ended, (endMark ended).flatMap Arrival.content = [] := by decide
  rw [h.stream_eq, h.queue_eq, List.flatMap_append, hmark, List.append_nil, List.flatMap_map]
  simp [Arrival.content]

theorem received_eq (h : r.Tracks taken chunks) : r.received = taken.length := by
  rw [received, ← taken_append_queue h, List.length_append, Nat.add_sub_cancel]

/-- After the end of the output nothing arrives any more. -/
theorem step_arrive_of_ended (h : r.reader.sourceEnded = true) (a : Arrival) :
    r.step (.arrive a) = r := by
  simp only [step, OutputReader.arrive, h, if_true]

/-- What arrives is put at the end of the queue, and the reader keeps track of it. -/
theorem tracks_arrive (h : r.Tracks taken chunks) (a : Arrival) :
    ∃ chunks, (r.step (.arrive a)).Tracks taken chunks := by
  -- what arrives behind the end is not taken any more
  cases hended : r.reader.sourceEnded with
  | true => exact ⟨chunks, by rwa [step_arrive_of_ended hended]⟩
  | false =>
    -- a reader whose output goes on cannot have been closed
    have hopen : r.reader.closed = false := by
      cases hclosed : r.reader.closed with
      | false => rfl
      | true => exact absurd (h.of_closed hclosed).1 (by simp [hended])
    have hqueue := h.queue_eq
    cases a with
    | bytes chunk =>
      refine ⟨chunks ++ [chunk], ?_, ?_, h.breaks_le, ?_, ?_, ?_⟩
      · simp [step, arrive, hended, hqueue, endMark]
      · simp [step, hended, h.stream_eq, Arrival.content]
      · simpa [step, arrive, hended] using h.of_open
      · simp [step, arrive, hended, hopen]
      · simpa [step, arrive, hended] using h.closed_of_found
    | ended =>
      refine ⟨chunks, ?_, ?_, h.breaks_le, ?_, ?_, ?_⟩
      · simp [step, arrive, hended, hopen, hqueue, endMark]
      · simp [step, hended, h.stream_eq, Arrival.content]
      · simpa [step, arrive, hended] using h.of_open
      · simp [step, arrive, hended, hopen]
      · simpa [step, arrive, hended] using h.closed_of_found

/-- What a poll adds to a reading. -/
theorem step_poll (r : Reading) :
    r.step .poll =
      { r with
        reader := r.reader.poll.2
        texts := r.texts ++ r.reader.poll.1.texts
        foundClosed := r.foundClosed || r.reader.poll.1 == .closed } := rfl

/-- A poll takes a front of the queue, hands out what is complete, and keeps track of what is
pending. -/
theorem tracks_poll (h : r.Tracks taken chunks) :
    ∃ taken chunks, (r.step .poll).Tracks taken chunks := by
  rw [step_poll]
  cases hclosed : r.reader.closed with
  -- a closed reader finds nothing and hands nothing out
  | true =>
    refine ⟨taken, chunks, ?_⟩
    simp only [poll, hclosed, if_true, Poll.texts, List.append_nil]
    exact { h with closed_of_found := fun _ => hclosed }
  | false =>
    have hqueue := h.queue_eq
    rw [hclosed, Bool.not_false, Bool.and_true] at hqueue
    have hsplit := fun got => splitPending_append (withBreaks taken r.breaks) got
    simp only [h.of_open hclosed, ← withBreaks_append h.breaks_le] at hsplit
    have hbreaks : ∀ got : List UInt8, ∀ offset ∈ r.breaks, offset ≤ (taken ++ got).length := by
      intro got offset hoffset
      rw [List.length_append]
      exact Nat.le_add_right_of_le (h.breaks_le offset hoffset)
    obtain ⟨-, hpoll⟩ | ⟨got, left, rfl, -, hfound, htexts, hreader⟩ | ⟨hended, htexts, hreader⟩ :=
      poll_cases hclosed hqueue
    · -- nothing was found, and the reader is as it was
      refine ⟨taken, chunks, ?_⟩
      simp only [hpoll, Poll.texts, List.append_nil]
      exact { h with closed_of_found := by simpa using h.closed_of_found }
    · -- What was taken now is split in a second go, behind what was pending.
      refine ⟨taken ++ got.flatten, left, ?_⟩
      rw [hreader, htexts]
      refine ⟨?_, ?_, hbreaks _, fun _ => hsplit _, ?_, ?_⟩
      · rw [hclosed, Bool.not_false, Bool.and_true]
      · rw [h.stream_eq, List.flatten_append, List.append_assoc]
      · simp [hclosed]
      · have hopen : r.foundClosed = false := by
          simpa [hclosed] using mt h.closed_of_found
        simp [hopen, hfound]
    · -- the end was met, so what is pending is handed out and the reader is closed
      refine ⟨taken ++ chunks.flatten, [], ?_⟩
      rw [hreader, htexts]
      refine ⟨?_, ?_, hbreaks _, nofun, fun _ => ⟨hended, rfl, rfl, ?_⟩, fun _ => rfl⟩
      · rw [Bool.not_true, Bool.and_false]
        rfl
      · rw [h.stream_eq, List.flatten_nil, List.append_nil]
      · rw [streamLines_eq_splitPending, streamLines_eq_splitPending, hsplit, List.append_assoc]

/-- Taking a fragment hands out what is pending as if a newline came behind it. -/
theorem tracks_takeFragment (h : r.Tracks taken chunks) :
    (r.step .takeFragment).Tracks taken chunks := by
  by_cases hpending : r.reader.pending = []
  · -- Nothing is handed out, and no newline is put in.
    have hnone : r.reader.takeFragment = (none, r.reader) := by
      simp only [takeFragment, fragment?, hpending, List.isEmpty_nil, if_true]
      rw [← hpending]
    simp only [step, hnone, Option.toList_none, List.append_nil, Option.isSome_none]
    exact h
  · -- the fragment is handed out, and a newline stands behind it from now on
    have hsome : r.reader.fragment? = some (pieceText r.reader.pending) := by
      simp [fragment?, hpending]
    have hopen : r.reader.closed = false := by
      cases hclosed : r.reader.closed with
      | false => rfl
      | true => exact absurd (h.of_closed hclosed).2.2.1 hpending
    have hsplit := splitPending_append_newline (withBreaks taken r.breaks)
    rw [h.of_open hopen, ← withBreaks_concat h.breaks_le] at hsplit
    refine ⟨h.queue_eq, h.stream_eq, ?_, ?_, ?_, ?_⟩
    · intro offset hoffset
      simp only [step, takeFragment, hsome, Option.isSome_some, if_true, received_eq h,
        List.mem_append, List.mem_singleton] at hoffset
      exact hoffset.elim (h.breaks_le offset) Nat.le_of_eq
    · intro _
      simp only [step, takeFragment, hsome, Option.isSome_some, if_true, received_eq h, hsplit]
      rfl
    · simp [step, takeFragment, hopen]
    · exact h.closed_of_found

/-- Every move preserves the invariant. -/
theorem tracks_step (h : r.Tracks taken chunks) (move : Move) :
    ∃ taken chunks, (r.step move).Tracks taken chunks := by
  cases move with
  | arrive a => exact ⟨taken, tracks_arrive h a⟩
  | poll => exact tracks_poll h
  | takeFragment => exact ⟨taken, chunks, tracks_takeFragment h⟩

/-- The invariant holds after every schedule. -/
theorem tracks_after (moves : List Move) : ∃ taken chunks, (after moves).Tracks taken chunks := by
  suffices h : ∀ r : Reading, (∃ taken chunks, r.Tracks taken chunks) →
      ∃ taken chunks, (moves.foldl step r).Tracks taken chunks from
    h start ⟨[], [], tracks_start⟩
  induction moves with
  | nil => exact fun r h => h
  | cons move moves ih =>
    intro r ⟨taken, chunks, h⟩
    exact ih (r.step move) (tracks_step h move)

/-! ## Section 5: What a whole schedule hands out

A closed reader has taken everything, so the place is at the end of the stream and nothing is
pending.  What remains of the invariant is the statement. -/

theorem poll_sourceEnded (r : OutputReader) : r.poll.2.sourceEnded = r.sourceEnded := by
  simp only [poll, handOut]
  split
  · rfl
  · split
    · rfl
    · rfl
    · split <;> rfl

/-- The stream of a reading is that of its schedule. -/
theorem stream_after (moves : List Move) : (after moves).stream = streamOf moves := by
  -- what comes behind the end of the output is no part of the stream
  suffices h : ∀ r : Reading, (moves.foldl step r).stream =
      if r.reader.sourceEnded then r.stream else r.stream ++ streamOf moves from h start
  induction moves with
  | nil => simp [streamOf]
  | cons move moves ih =>
    intro r
    rw [List.foldl_cons, ih]
    -- only an arrival adds to the stream
    cases move with
    | arrive a =>
      cases hended : r.reader.sourceEnded with
      | true => simp [step_arrive_of_ended hended, hended]
      | false => cases a <;> simp [step, arrive, hended, streamOf, Arrival.content]
    | poll => simp only [step_poll, poll_sourceEnded, streamOf]
    | takeFragment => rfl

/-- No newline is put in where no fragment is taken. -/
theorem breaks_after {moves : List Move} (h : .takeFragment ∉ moves) :
    (after moves).breaks = [] := by
  suffices hfold : ∀ r : Reading, (moves.foldl step r).breaks = r.breaks from hfold start
  induction moves with
  | nil => exact fun r => rfl
  | cons move moves ih =>
    simp only [List.mem_cons, not_or] at h
    intro r
    rw [List.foldl_cons, ih h.2]
    -- the breaks change with a fragment only
    cases move with
    | arrive a => rfl
    | poll => rfl
    | takeFragment => exact absurd rfl h.1

/-- **Schedules do not matter**: what is handed out until the close are the lines of the stream,
with a newline put in wherever a fragment was taken.  Where none was taken, they are the lines of
the stream itself. -/
theorem texts_eq_streamLines (moves : List Move) (h : (after moves).foundClosed = true) :
    (after moves).texts = streamLines (withBreaks (streamOf moves) (after moves).breaks) ∧
      (.takeFragment ∉ moves → (after moves).texts = streamLines (streamOf moves)) := by
  obtain ⟨taken, chunks, htracks⟩ := tracks_after moves
  obtain ⟨-, rfl, -, htexts⟩ := htracks.of_closed (htracks.closed_of_found h)
  have hstream : streamOf moves = taken := by
    rw [← stream_after, htracks.stream_eq, List.flatten_nil, List.append_nil]
  rw [hstream]
  exact ⟨htexts, fun hmoves => by rw [htexts, breaks_after hmoves]; rfl⟩

/-- A schedule in which a fragment is taken before its newline comes. -/
def takenPrompt : List Move :=
  [.arrive (.bytes [0x61, 0x0D]), .poll, .takeFragment, .arrive (.bytes [0x0A, 0x62]), .poll,
    .arrive .ended, .poll, .poll]

/-- A schedule in which a character comes in two chunks. -/
def splitCharacter : List Move :=
  [.arrive (.bytes [0xE2, 0x9A]), .poll, .poll, .arrive (.bytes [0xA0, 0x0D, 0x0A]),
    .arrive .ended, .poll, .poll]

theorem texts_of_takenPrompt_and_splitCharacter :
    ((after takenPrompt).foundClosed = true ∧
        (after takenPrompt).texts =
          streamLines (withBreaks (streamOf takenPrompt) (after takenPrompt).breaks)) ∧
      ((after splitCharacter).foundClosed = true ∧ .takeFragment ∉ splitCharacter ∧
        (after splitCharacter).texts = streamLines (streamOf splitCharacter)) :=
  ⟨⟨by decide +kernel, (texts_eq_streamLines takenPrompt (by decide +kernel)).1⟩,
    ⟨by decide +kernel, by simp [splitCharacter],
      (texts_eq_streamLines splitCharacter (by decide +kernel)).2 (by simp [splitCharacter])⟩⟩

/-! ## Section 6: The close is reached

The invariant says nothing about progress.  What makes it is the queue: it grows no more after the
end of the output, and each poll takes something from it until nothing is left. -/

/-- After the end of the output, each poll makes the queue shorter. -/
theorem length_queue_step_poll (h : r.Tracks taken chunks) (hended : r.reader.sourceEnded = true) :
    (r.step .poll).reader.queue.length ≤ r.reader.queue.length - 1 := by
  rw [step_poll]
  have hqueue := h.queue_eq
  -- a closed reader has an empty queue, and an open one takes at least one arrival
  cases hclosed : r.reader.closed with
  | true =>
    obtain ⟨-, rfl, -, -⟩ := h.of_closed hclosed
    rw [hclosed, Bool.not_true, Bool.and_false] at hqueue
    simp [poll, hclosed, hqueue, endMark]
  | false =>
    rw [hclosed, Bool.not_false, Bool.and_true] at hqueue
    obtain ⟨hnot, -⟩ | ⟨got, left, -, hless, -, -, hreader⟩ | ⟨-, -, hreader⟩ :=
      poll_cases hclosed hqueue
    · exact absurd hended (by simp [hnot])
    · simp only [hreader, hqueue, List.length_append, List.length_map, hended, endMark, if_true,
        List.length_singleton]
      omega
    · simp [hreader]

/-- With nothing left in the queue after the end of the output, a poll finds the close. -/
theorem foundClosed_step_poll (h : r.Tracks taken chunks) (hended : r.reader.sourceEnded = true)
    (hqueue : r.reader.queue = []) : (r.step .poll).foundClosed = true := by
  have hclosed : r.reader.closed = true := by
    cases hclosed : r.reader.closed with
    | true => rfl
    | false => simp [h.queue_eq, hended, hclosed, endMark] at hqueue
  simp [step_poll, poll, hclosed]

/-- Polls take one arrival after the other from the queue, and one poll more finds the close. -/
theorem foundClosed_polls {r : Reading} {n : Nat} (htracks : ∃ taken chunks, r.Tracks taken chunks)
    (hended : r.reader.sourceEnded = true) (hlength : r.reader.queue.length ≤ n) :
    ((List.replicate (n + 1) Move.poll).foldl step r).foundClosed = true := by
  induction n generalizing r with
  | zero =>
    obtain ⟨taken, chunks, htracks⟩ := htracks
    exact foundClosed_step_poll htracks hended (List.eq_nil_of_length_eq_zero (by omega))
  | succ n ih =>
    obtain ⟨taken, chunks, htracks⟩ := htracks
    -- the first poll makes the queue shorter, and the others follow by induction
    rw [List.replicate_succ, List.foldl_cons]
    have hshorter := length_queue_step_poll htracks hended
    refine ih (tracks_poll htracks) ?_ (by omega)
    rw [step_poll, poll_sourceEnded, hended]

/-- **The close is reached**: after the end of the output, some number of polls finds it.  Each poll
takes something from the queue, or finds the end. -/
theorem exists_polls_foundClosed (moves : List Move) (h : (after moves).reader.sourceEnded = true) :
    ∃ count, (after (moves ++ List.replicate count .poll)).foundClosed = true := by
  refine ⟨(after moves).reader.queue.length + 1, ?_⟩
  rw [after, List.foldl_append]
  exact foundClosed_polls (tracks_after moves) h (Nat.le_refl _)

/-! ## Section 7: A stream that is read as a whole

A schedule that exists for every stream: it is used wherever a statement needs a run of the reader
to its end. -/

/-- A stream is read as a whole: its chunks arrive, it ends, and the reader is polled. -/
def wholly (chunks : List (List UInt8)) : List Move :=
  chunks.map (fun chunk => .arrive (.bytes chunk)) ++
    .arrive .ended :: List.replicate (chunks.length + 2) .poll

theorem not_mem_wholly (chunks : List (List UInt8)) : .takeFragment ∉ wholly chunks := by
  simp [wholly]

theorem streamOf_wholly (chunks : List (List UInt8)) : streamOf (wholly chunks) = chunks.flatten := by
  have hfront : ∀ moves, streamOf (chunks.map (fun chunk => .arrive (.bytes chunk)) ++ moves) =
      chunks.flatten ++ streamOf moves := by
    intro moves
    induction chunks with
    | nil => rfl
    | cons chunk chunks ih =>
      rw [List.map_cons, List.cons_append, streamOf, ih, List.flatten_cons, List.append_assoc]
  rw [wholly, hfront, streamOf, List.append_nil]

/-- A stream that is read as a whole is read to its end. -/
theorem foundClosed_wholly (chunks : List (List UInt8)) :
    (after (wholly chunks)).foundClosed = true := by
  -- all chunks and the end wait in the queue when the first poll comes
  have harrive : ∀ r : Reading, r.reader.sourceEnded = false →
      ((chunks.map (fun chunk => Move.arrive (.bytes chunk))).foldl step r).reader.queue =
          r.reader.queue ++ chunks.map .bytes ∧
        ((chunks.map (fun chunk => Move.arrive (.bytes chunk))).foldl step r).reader.sourceEnded =
          false := by
    induction chunks with
    | nil => exact fun r hopen => ⟨(List.append_nil _).symm, hopen⟩
    | cons chunk chunks ih =>
      intro r hopen
      have harrived : (r.step (.arrive (.bytes chunk))).reader =
          { r.reader with queue := r.reader.queue ++ [.bytes chunk] } := by
        simp [step, arrive, hopen]
      obtain ⟨hqueue, hended⟩ := ih (r.step (.arrive (.bytes chunk))) (by rw [harrived]; exact hopen)
      rw [List.map_cons, List.foldl_cons]
      refine ⟨?_, hended⟩
      rw [hqueue, harrived, List.append_assoc]
      rfl
  obtain ⟨hqueue, hopen⟩ := harrive start rfl
  have htracks := tracks_after (chunks.map (fun chunk => .arrive (.bytes chunk)) ++ [.arrive .ended])
  rw [after, List.foldl_append] at htracks
  rw [after, wholly, List.append_cons, List.foldl_append, List.foldl_append]
  generalize (chunks.map (fun chunk => Move.arrive (.bytes chunk))).foldl step start = r at *
  refine foundClosed_polls htracks ?_ ?_
  · simp [step, arrive, hopen]
  · have hlength := congrArg List.length hqueue
    simp only [start, empty, List.nil_append, List.length_map] at hlength
    simp [step, arrive, hopen, hlength]

end Reading

end Overseer.Reader
