import Overseer.Sink.Basic

/-!
# Event Channels

A queue between a run and one consumer.  It holds a bounded number of events and drops the oldest
to make room, so a slow consumer never holds up the run.

Publishing never waits.  A channel that was let go of on the side of its consumer takes nothing any
more and says so; one that was let go of on the side of the run still hands out what is queued.
-/

namespace Overseer

/-- The state of a channel.  The run and the consumer let go of it each on its own; what is queued
then stays until it is received. -/
structure Channel where
  name : String
  capacity : Nat
  queue : List Event
  /-- The run has let go of the channel. -/
  closed : Bool
  /-- The consumer has let go of the channel. -/
  abandoned : Bool
  capacity_pos : 0 < capacity

/-- What a consumer finds. -/
inductive Received where
  | event (e : Event)
  /-- Nothing is queued yet. -/
  | pending
  /-- Nothing is queued and nothing will be. -/
  | closed

namespace Channel

/-- How many events a channel holds when nothing else is asked for. -/
def defaultCapacity : Nat := 1024

/-- The reason given when the consumer has let go. -/
def goneReason : String := "sink consumer disconnected"

/-- An empty channel.  It has room for one event at least, even if none was asked for. -/
def new (name : String) (capacity : Nat) : Channel where
  name := name
  capacity := max capacity 1
  queue := []
  closed := false
  abandoned := false
  capacity_pos := by omega

/-- How many of the oldest events go when one more comes.  In a channel that was never fuller than
it may be this is at most one. -/
def excess (ch : Channel) : Nat := ch.queue.length + 1 - ch.capacity

/-- Queues an event, for which the oldest ones go if there is no room.  A channel without a consumer
takes nothing and says so. -/
def publish (ch : Channel) (e : Event) : Delivery × Channel :=
  if ch.abandoned then (.failed goneReason, ch)
  else
    (if ch.excess = 0 then .delivered else .dropped ch.excess,
      { ch with queue := ch.queue.drop ch.excess ++ [e] })

/-- Takes the oldest event.  The end is found only where nothing is queued and the run has let go.
-/
def receive (ch : Channel) : Received × Channel :=
  match ch.queue with
  | e :: rest => (.event e, { ch with queue := rest })
  | [] => (if ch.closed then .closed else .pending, ch)

/-- Takes everything that is queued. -/
def drain (ch : Channel) : List Event × Channel := (ch.queue, { ch with queue := [] })

/-- Lets go of the channel on the side of the run. -/
def close (ch : Channel) : Channel := { ch with closed := true }

/-- Lets go of the channel on the side of the consumer; what is queued stays. -/
def abandon (ch : Channel) : Channel := { ch with abandoned := true }

end Channel

end Overseer
