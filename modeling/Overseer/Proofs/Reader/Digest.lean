import Overseer.Proofs.Reader.Schedule

/-!
# What a Reader Has Received

A poll takes bytes off the front of the queue.  All bytes that a reader has taken are in the texts
that it handed out or still pending, so nothing that it received is lost as long as somebody asks
for the rest.

- `OutputReader.taken_append_queue`: what a poll takes, and what it leaves
- `OutputReader.Digests`: what was received and what was handed out, whatever happened in between
- `OutputReader.Digests.account`: what was handed out and the fragment left are all lines received
-/

namespace Overseer.Reader

namespace OutputReader

/-! ## Section 1: What a poll takes

A poll goes on taking for as long as the pending bytes are few, so how much it takes depends on what
is there.  That it takes from the front and loses nothing does not. -/

/-- The bytes that a poll takes off the queue. -/
def taken (r : OutputReader) : List UInt8 :=
  (r.queue.take (r.queue.length - r.poll.2.queue.length)).flatMap Arrival.content

theorem takeReady_suffix (pending : List UInt8) (queue : List Arrival) :
    (takeReady pending queue).2.2 <:+ queue := by
  fun_induction takeReady pending queue with
  | case1 => exact List.suffix_rfl
  | case2 pending chunk queue hroom ih => exact ih.trans (List.suffix_cons _ _)
  | case3 => exact List.suffix_cons _ _
  | case4 => exact List.suffix_rfl

theorem queue_handOut (r : OutputReader) (ended : Bool) : (r.handOut ended).2.queue = r.queue := by
  simp only [handOut]
  split <;> rfl

theorem queue_poll_suffix (r : OutputReader) : r.poll.2.queue <:+ r.queue := by
  simp only [poll]
  split
  · exact List.suffix_rfl
  · split
    · exact List.suffix_rfl
    · next queue hqueue =>
      rw [queue_handOut, hqueue]
      exact List.suffix_cons _ _
    · next chunk queue hqueue =>
      rw [queue_handOut, hqueue]
      exact (takeReady_suffix _ queue).trans (List.suffix_cons _ _)

/-- **What a poll takes** was in front of what it leaves in the queue. -/
theorem taken_append_queue (r : OutputReader) :
    r.taken ++ r.poll.2.queue.flatMap Arrival.content = r.queue.flatMap Arrival.content := by
  obtain ⟨front, hfront⟩ := r.queue_poll_suffix
  have hlength : r.queue.length - r.poll.2.queue.length = front.length := by
    rw [← hfront, List.length_append, Nat.add_sub_cancel]
  rw [taken, hlength, ← hfront, List.take_left, List.flatMap_append]

/-- Output that arrives waits in the queue. -/
theorem pending_arrive (r : OutputReader) (a : Arrival) :
    (r.arrive a).pending = r.pending ∧ (r.arrive a).closed = r.closed := by
  simp only [arrive]
  split
  · exact ⟨rfl, rfl⟩
  · cases a <;> exact ⟨rfl, rfl⟩

/-! ## Section 2: What was received and what was handed out

The supervisor polls, takes fragments and lets output arrive in an order of its own.  Each of these
has a lemma, so whatever a run does to its reader, the reader still digests what it was given. -/

/-- A reader that has taken the bytes and handed out the texts.  A newline is put into the bytes
wherever a fragment was taken. -/
def Digests (r : OutputReader) (bytes : List UInt8) (texts : List String) : Prop :=
  ∃ (reading : Reading) (taken : List UInt8) (chunks : List (List UInt8)),
    reading.Tracks taken chunks ∧ reading.reader = r ∧ reading.texts = texts ∧
      withBreaks taken reading.breaks = bytes

namespace Digests

variable {r : OutputReader} {bytes : List UInt8} {texts : List String}

theorem empty : Digests .empty [] [] := ⟨.start, [], [], Reading.tracks_start, rfl, rfl, rfl⟩

theorem arrive (h : r.Digests bytes texts) (a : Arrival) : (r.arrive a).Digests bytes texts := by
  obtain ⟨reading, taken, chunks, htracks, rfl, htexts, hbytes⟩ := h
  obtain ⟨chunks', htracks'⟩ := Reading.tracks_arrive htracks a
  exact ⟨_, taken, chunks', htracks', rfl, htexts, hbytes⟩

/-- A poll digests what it takes: the bytes go to the stream, and the lines that are handed out to
the texts. -/
theorem poll (h : r.Digests bytes texts) :
    r.poll.2.Digests (bytes ++ r.taken) (texts ++ r.poll.1.texts) := by
  obtain ⟨reading, taken, chunks, htracks, rfl, rfl, rfl⟩ := h
  obtain ⟨taken', chunks', htracks'⟩ := Reading.tracks_poll htracks
  -- what the poll took is what the queue lost: the stream itself is the same before and behind it
  have hstream : taken' = taken ++ reading.reader.taken := by
    have hbefore := Reading.taken_append_queue htracks
    have hafter : taken' ++ reading.reader.poll.2.queue.flatMap Arrival.content = reading.stream :=
      Reading.taken_append_queue htracks'
    rw [← reading.reader.taken_append_queue, ← hafter, ← List.append_assoc] at hbefore
    exact (List.append_cancel_right hbefore).symm
  refine ⟨_, taken', chunks', htracks', rfl, rfl, ?_⟩
  rw [hstream]
  -- breaks lie within what was taken before, so what is taken now comes behind them
  exact withBreaks_append htracks.breaks_le _

theorem takeFragment (h : r.Digests bytes texts) :
    r.takeFragment.2.Digests (bytes ++ if r.fragment?.isSome then [newline] else [])
      (texts ++ r.takeFragment.1.toList) := by
  obtain ⟨reading, taken, chunks, htracks, rfl, rfl, rfl⟩ := h
  refine ⟨_, taken, chunks, Reading.tracks_takeFragment htracks, rfl, rfl, ?_⟩
  -- the newline is put in behind everything that was taken so far
  show withBreaks taken
    (if reading.reader.fragment?.isSome then reading.breaks ++ [reading.received]
      else reading.breaks) = _
  split
  · rw [Reading.received_eq htracks, withBreaks_concat htracks.breaks_le]
  · exact (List.append_nil _).symm

/-- **Nothing that was received is lost**: what was handed out, and the fragment that is left, are
the lines of all bytes. -/
theorem account (h : r.Digests bytes texts) : texts ++ lastText r.pending = streamLines bytes := by
  obtain ⟨reading, taken, chunks, htracks, rfl, rfl, rfl⟩ := h
  cases hclosed : reading.reader.closed with
  | true =>
    obtain ⟨-, -, hpending, htexts⟩ := htracks.of_closed hclosed
    rw [hpending, htexts]
    exact List.append_nil _
  | false => rw [streamLines_eq_splitPending, htracks.of_open hclosed]

/-- A closed reader has nothing left. -/
theorem pending_of_closed (h : r.Digests bytes texts) (hclosed : r.closed = true) :
    r.pending = [] := by
  obtain ⟨reading, taken, chunks, htracks, rfl, rfl, rfl⟩ := h
  exact (htracks.of_closed hclosed).2.2.1

end Digests

end OutputReader

end Overseer.Reader
