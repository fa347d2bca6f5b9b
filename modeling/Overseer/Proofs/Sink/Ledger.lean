import Mathlib.Data.List.Induction
import Overseer.Sink.Channel

/-!
# Keeping Account of a Channel

A ledger notes what is done to one channel, on both of its ends and in any order, and what came of
it.  What was queued, what was received and how many events were dropped are read off the notes
alone; the queue itself is nowhere looked at.  Whatever is done, received and queued events together
are those that were queued without those that were dropped.

- `Channel.remaining`: what is left of the queued events when the dropped ones are struck out
- `Ledger.balanced_step`: one operation keeps the account
- `Ledger.conserves_after`: what both ends can rely on, after any operations
-/

namespace Overseer

namespace Channel

/-! ## Section 1: Operations and notes

An operation belongs to the one end or the other, and in a list of operations they are mixed in any
order.  The notes are what somebody sees who watches both ends and cannot look into the channel. -/

/-- Something that is done to a channel.  A consumer that waits for an event looks at the queue
again and again, until it finds one, or finds the end, or its time has run out. -/
inductive Operation where
  | publish (e : Event)
  | look
  | drain
  | close
  | abandon

/-- What was done to a channel and what came of it. -/
inductive Note where
  | published (e : Event) (delivery : Delivery)
  | looked (found : Received)
  | drained (events : List Event)
  | closed
  | abandoned

/-- What comes of an operation. -/
def perform (ch : Channel) : Operation → Note × Channel
  | .publish e => (.published e (ch.publish e).1, (ch.publish e).2)
  | .look => (.looked ch.receive.1, ch.receive.2)
  | .drain => (.drained ch.drain.1, ch.drain.2)
  | .close => (.closed, ch.close)
  | .abandon => (.abandoned, ch.abandon)

namespace Note

/-- The events that the consumer received. -/
def received : Note → List Event
  | .looked (.event e) => [e]
  | .drained events => events
  | _ => []

/-- The event that was queued. -/
def queued : Note → List Event
  | .published e .delivered | .published e (.dropped _) => [e]
  | _ => []

/-- How many events were dropped. -/
def dropped : Note → Nat
  | .published _ (.dropped count) => count
  | _ => 0

/-- What is left of the queued events when `count` of them were received: of the others the oldest go
that were dropped, and an event that was queued comes last. -/
def strike (count : Nat) (events : List Event) (note : Note) : List Event :=
  events.take count ++ events.drop (count + note.dropped) ++ note.queued

end Note

/-- All events that the consumer received, oldest first. -/
def receivedIn (notes : List Note) : List Event := notes.flatMap Note.received

/-- All events that were queued, oldest first. -/
def queuedIn (notes : List Note) : List Event := notes.flatMap Note.queued

/-- How many events were dropped in all. -/
def droppedIn (notes : List Note) : Nat := notes.foldl (fun count note => count + note.dropped) 0

/-- The events that were queued without those that were dropped. -/
def remaining (notes : List Note) : List Event :=
  (notes.foldl (fun (count, events) note => (count + note.received.length, note.strike count events))
    (0, [])).2

section Notes

variable (notes : List Note) (note : Note)

theorem receivedIn_concat : receivedIn (notes ++ [note]) = receivedIn notes ++ note.received := by
  simp [receivedIn]

theorem queuedIn_concat : queuedIn (notes ++ [note]) = queuedIn notes ++ note.queued := by
  simp [queuedIn]

theorem droppedIn_concat : droppedIn (notes ++ [note]) = droppedIn notes + note.dropped := by
  simp [droppedIn]

theorem remaining_concat :
    remaining (notes ++ [note]) = note.strike (receivedIn notes).length (remaining notes) := by
  -- the count that the fold carries is the number of events received so far
  have hcount : ∀ notes : List Note,
      (notes.foldl (fun (count, events) note =>
        (count + note.received.length, note.strike count events)) (0, ([] : List Event))).1 =
          (receivedIn notes).length := by
    intro notes
    induction notes using List.reverseRecOn with
    | nil => rfl
    | append_singleton notes note ih =>
      rw [List.foldl_append, receivedIn_concat, List.length_append, ← ih]
      rfl
  unfold remaining
  rw [List.foldl_append, ← hcount]
  rfl

/-- Nothing but queued events remain, in their order and each at most once. -/
theorem remaining_sublist : (remaining notes).Sublist (queuedIn notes) := by
  induction notes using List.reverseRecOn with
  | nil => exact List.Sublist.slnil
  | append_singleton notes note ih =>
    rw [remaining_concat, queuedIn_concat]
    refine List.Sublist.append_right (List.Sublist.trans ?_ ih) _
    -- cutting something out of the middle leaves a sublist
    conv_rhs => rw [← List.take_append_drop (receivedIn notes).length (remaining notes)]
    rw [← List.drop_drop]
    exact List.Sublist.append_left (List.drop_sublist _ _) _

end Notes

/-! ## Section 2: What an operation does -/

variable {ch : Channel}

theorem publish_abandoned (h : ch.abandoned = true) (e : Event) :
    ch.publish e = (.failed goneReason, ch) := by
  simp [publish, h]

theorem publish_held (h : ch.abandoned = false) (e : Event) :
    ch.publish e = (if ch.excess = 0 then .delivered else .dropped ch.excess,
      { ch with queue := ch.queue.drop ch.excess ++ [e] }) := by
  simp [publish, h]

theorem receive_cons {e : Event} {rest : List Event} (h : ch.queue = e :: rest) :
    ch.receive = (.event e, { ch with queue := rest }) := by
  simp [receive, h]

theorem receive_nil (h : ch.queue = []) :
    ch.receive = (if ch.closed then .closed else .pending, ch) := by
  simp [receive, h]

/-- A consumer finds the end exactly when the run has let go and nothing is queued. -/
theorem receive_eq_closed_iff : ch.receive.1 = .closed ↔ ch.closed = true ∧ ch.queue = [] := by
  cases hqueue : ch.queue with
  | cons e rest => simp [receive_cons hqueue]
  | nil =>
    rw [receive_nil hqueue]
    cases ch.closed <;> simp

end Channel

/-! ## Section 3: The account

Striking out is where the work is.  When an event is queued in a full channel, the oldest of those
go that are not yet received; as received events are always the oldest ones, what is struck out
stands between the received events and the queue. -/

/-- A channel with the notes about it.  The notes say what was done and what came of it, oldest
first. -/
structure Ledger where
  channel : Channel
  notes : List Channel.Note

namespace Ledger

open Channel

/-- The ledger after an operation. -/
def step (l : Ledger) (op : Operation) : Ledger :=
  ⟨(l.channel.perform op).2, l.notes ++ [(l.channel.perform op).1]⟩

/-- The ledger of a new channel after some operations. -/
def after (name : String) (capacity : Nat) (ops : List Operation) : Ledger :=
  ops.foldl step ⟨.new name capacity, []⟩

/-- The notes agree with the channel. -/
structure Balanced (capacity : Nat) (l : Ledger) : Prop where
  capacity_eq : l.channel.capacity = max capacity 1
  fits : l.channel.queue.length ≤ l.channel.capacity
  account : receivedIn l.notes ++ l.channel.queue = remaining l.notes
  count : (queuedIn l.notes).length =
    (receivedIn l.notes).length + l.channel.queue.length + droppedIn l.notes
  newest : l.channel.queue <:+ queuedIn l.notes
  closed_iff : l.channel.closed = true ↔ .closed ∈ l.notes
  abandoned_iff : l.channel.abandoned = true ↔ .abandoned ∈ l.notes

variable {l : Ledger} {capacity : Nat}

/-- A note is added.  The oldest events of the queue were received or dropped, and an event that was
queued stands at its end. -/
theorem Balanced.concat (h : l.Balanced capacity) {ch : Channel} {note : Note}
    (gone rest : List Event) (hbefore : l.channel.queue = note.received ++ gone ++ rest)
    (hafter : ch.queue = rest ++ note.queued) (hgone : gone.length = note.dropped)
    (heither : note.received = [] ∨ gone = []) (hcapacity : ch.capacity = l.channel.capacity)
    (hfits : ch.queue.length ≤ ch.capacity)
    (hclosed : ch.closed = true ↔ l.channel.closed = true ∨ .closed = note)
    (habandoned : ch.abandoned = true ↔ l.channel.abandoned = true ∨ .abandoned = note) :
    (⟨ch, l.notes ++ [note]⟩ : Ledger).Balanced capacity := by
  -- what was received comes off the front, and the rest moves up
  have hrest : note.received ++ rest = (l.channel.queue).drop note.dropped := by
    rw [hbefore, ← hgone]
    rcases heither with hnone | hnone
    · rw [hnone, List.nil_append, List.nil_append, List.drop_left]
    · rw [hnone, List.append_nil, List.length_nil, List.drop_zero]
  constructor
  case capacity_eq => exact hcapacity.trans h.capacity_eq
  case fits => exact hfits
  case account =>
    -- the books without what was dropped are the books before, and the new note adds what it queued
    have hkept : (receivedIn l.notes ++ l.channel.queue).drop
        ((receivedIn l.notes).length + note.dropped) = note.received ++ rest := by
      rw [hrest, ← List.drop_drop, List.drop_left]
    rw [receivedIn_concat, remaining_concat, ← h.account, Note.strike, List.take_left, hkept, hafter]
    simp only [List.append_assoc]
  case count =>
    have hlength := congrArg List.length hbefore
    simp only [List.length_append, hgone] at hlength
    simp only [queuedIn_concat, receivedIn_concat, droppedIn_concat, hafter, List.length_append,
      h.count]
    omega
  case newest =>
    rw [queuedIn_concat]
    -- the rest is the newest of what was queued before, and what is queued now is newer
    obtain ⟨older, holder⟩ : rest <:+ queuedIn l.notes :=
      List.IsSuffix.trans ⟨note.received ++ gone, hbefore.symm⟩ h.newest
    refine ⟨older, ?_⟩
    rw [hafter, ← holder, List.append_assoc]
  case closed_iff => rw [List.mem_append, List.mem_singleton, ← h.closed_iff, hclosed]
  case abandoned_iff => rw [List.mem_append, List.mem_singleton, ← h.abandoned_iff, habandoned]

/-- Queueing an event drops as many of the oldest as it needs room for. -/
theorem Balanced.publish (h : l.Balanced capacity) (e : Event) :
    (l.step (.publish e)).Balanced capacity := by
  cases hgone : l.channel.abandoned with
  | true =>
    simp only [step, perform, publish_abandoned hgone]
    refine h.concat [] l.channel.queue ?_ ?_ rfl (.inl rfl) rfl h.fits ?_ ?_
    all_goals simp [Note.received, Note.queued]
  | false =>
    have hpos := l.channel.capacity_pos
    have hfits := h.fits
    have hexcess : l.channel.excess = l.channel.queue.length + 1 - l.channel.capacity := rfl
    -- a delivery without a drop is a drop of nothing
    obtain ⟨hqueued, hdropped⟩ :
        (Note.published e (l.channel.publish e).1).queued = [e] ∧
          (Note.published e (l.channel.publish e).1).dropped = l.channel.excess := by
      rw [publish_held hgone]
      by_cases hroom : l.channel.excess = 0
      · simp [hroom, Note.queued, Note.dropped]
      · simp [hroom, Note.queued, Note.dropped]
    refine h.concat (l.channel.queue.take l.channel.excess)
      (l.channel.queue.drop l.channel.excess) ?_ ?_ ?_ (.inl rfl) ?_ ?_ ?_ ?_
    · exact (List.take_append_drop _ _).symm
    · simp only [perform, publish_held hgone] at hqueued ⊢
      rw [hqueued]
    · simp only [perform, hdropped, List.length_take]
      omega
    · simp only [perform, publish_held hgone]
    · simp only [perform, publish_held hgone, List.length_append, List.length_drop,
        List.length_singleton]
      omega
    · simp [perform, publish_held hgone]
    · simp [perform, publish_held hgone]

/-- **One operation** keeps the account. -/
theorem balanced_step (h : l.Balanced capacity) (op : Operation) :
    (l.step op).Balanced capacity := by
  cases op with
  | publish e => exact h.publish e
  | look =>
    cases hqueue : l.channel.queue with
    | cons e rest =>
      have hfits := h.fits
      rw [hqueue, List.length_cons] at hfits
      simp only [step, perform, receive_cons hqueue]
      refine h.concat [] rest hqueue ?_ rfl (.inr rfl) rfl ?_ ?_ ?_
      · simp [Note.queued]
      · exact Nat.le_of_succ_le hfits
      all_goals simp
    | nil =>
      -- a look at an empty queue changes nothing
      have hnone : (Note.looked l.channel.receive.1).received = [] := by
        rw [receive_nil hqueue]
        cases l.channel.closed <;> rfl
      refine h.concat [] [] ?_ ?_ rfl (.inr rfl) ?_ ?_ ?_ ?_
      · simp only [perform, hnone, hqueue, List.append_nil]
      all_goals simp [perform, receive_nil hqueue, hqueue, Note.queued]
  | drain =>
    refine h.concat [] [] ?_ rfl rfl (.inr rfl) rfl (Nat.zero_le _) ?_ ?_
    all_goals simp [perform, Channel.drain, Note.received]
  | close =>
    refine h.concat [] l.channel.queue rfl ?_ rfl (.inl rfl) rfl h.fits ?_ ?_
    all_goals simp [perform, Channel.close, Note.queued]
  | abandon =>
    refine h.concat [] l.channel.queue rfl ?_ rfl (.inl rfl) rfl h.fits ?_ ?_
    all_goals simp [perform, Channel.abandon, Note.queued]

/-- The books of a channel balance behind any operations. -/
theorem balanced_after (name : String) (capacity : Nat) (ops : List Operation) :
    (after name capacity ops).Balanced capacity := by
  induction ops using List.reverseRecOn with
  -- nothing is noted yet, and the queue is empty
  | nil =>
    constructor
    case capacity_eq => rfl
    case fits => exact Nat.zero_le _
    case account => rfl
    case count => rfl
    case newest => exact List.suffix_rfl
    case closed_iff => exact ⟨nofun, nofun⟩
    case abandoned_iff => exact ⟨nofun, nofun⟩
  -- one operation more
  | append_singleton ops op ih =>
    rw [after, List.foldl_append]
    exact balanced_step ih op

/-! ## Section 4: What both ends can rely on

These are facts about the notes of both ends.  Nothing is assumed about the order of the operations,
so they also hold of a channel that is read while the run still publishes. -/

/-- What is known of a channel for which a capacity was asked, from the notes about it.  Whoever has
kept the notes knows what the channel holds. -/
structure Conserves (capacity : Nat) (l : Ledger) : Prop where
  /-- The queue never holds more events than was asked for, or one. -/
  bounded : l.channel.queue.length ≤ max capacity 1
  /-- Received and queued events are the queued ones without those that were dropped. -/
  account : receivedIn l.notes ++ l.channel.queue = remaining l.notes
  /-- They stand in the order in which they were queued, and none stands twice. -/
  ordered : (receivedIn l.notes ++ l.channel.queue).Sublist (queuedIn l.notes)
  /-- Every event that was queued was received, is queued or was dropped. -/
  count : (queuedIn l.notes).length =
    (receivedIn l.notes).length + l.channel.queue.length + droppedIn l.notes
  /-- A consumer finds the end exactly when the run has let go and everything that was not dropped
  was received. -/
  ended : l.channel.receive.1 = .closed ↔
    .closed ∈ l.notes ∧ receivedIn l.notes = remaining l.notes
  /-- While the consumer holds on, the next event is queued, and just as many of the oldest are
  dropped as its delivery tells. -/
  served : .abandoned ∉ l.notes → ∀ e, ∃ count ≤ l.channel.queue.length,
    l.channel.publish e = (if count = 0 then .delivered else .dropped count,
      { l.channel with queue := l.channel.queue.drop count ++ [e] })
  /-- When the consumer has let go, an event is refused and changes nothing. -/
  refused : .abandoned ∈ l.notes → ∀ e, l.channel.publish e = (.failed goneReason, l.channel)

/-- **A channel keeps its books**: whatever is published, received, closed or abandoned, and in
whatever order.  No event is lost without having been counted. -/
theorem conserves_after (name : String) (capacity : Nat) (ops : List Operation) :
    (after name capacity ops).Conserves capacity := by
  have h := balanced_after name capacity ops
  generalize after name capacity ops = l at h
  constructor
  case bounded =>
    rw [← h.capacity_eq]
    exact h.fits
  case account => exact h.account
  case ordered =>
    rw [h.account]
    exact remaining_sublist l.notes
  case count => exact h.count
  case ended =>
    -- the channel tells of its end when it is closed and all that was not dropped was received
    rw [receive_eq_closed_iff, h.closed_iff, ← h.account, List.self_eq_append_right]
  case served =>
    intro hheld e
    have hnotGone : l.channel.abandoned = false := by
      rw [Bool.eq_false_iff]
      exact fun hgone => hheld (h.abandoned_iff.mp hgone)
    have hpos := l.channel.capacity_pos
    -- the queue is within its bounds, so the excess is one event or none
    have hfits := h.fits
    have hexcess : l.channel.excess = l.channel.queue.length + 1 - l.channel.capacity := rfl
    exact ⟨l.channel.excess, by omega, publish_held hnotGone e⟩
  case refused =>
    intro hgone e
    exact publish_abandoned (h.abandoned_iff.mpr hgone) e

/-- A channel for which no room was asked holds one event, the newest. -/
example (older newer : Event) :
    receivedIn (after "stream" 0 [.publish older, .publish newer, .look]).notes = [newer] := rfl

end Ledger

end Overseer
