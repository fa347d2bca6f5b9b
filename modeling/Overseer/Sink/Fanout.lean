import Overseer.Sink.Basic

/-!
# Fanning Events Out

Every event of a run goes to each of its sinks in order.  A sink that fails or falls behind for
the first time is reported to the others by a warning; what becomes of a warning is not reported,
and no sink keeps an event from the others.

Each slot remembers what was reported about its sink, so each kind of report is made once in a run.
A warning about a failure is not handed to the sink that has failed; one about an overflow is,
because that sink still takes events.
-/

namespace Overseer

/-- A sink and what was reported about it.  A failure and an overflow are reported once each, and
the one does not keep the other from being reported. -/
structure Slot (σ : Type) where
  sink : σ
  failureReported : Bool
  overflowReported : Bool

/-- The sinks of a run. -/
structure Fanout (σ : Type) where
  slots : List (Slot σ)

/-- A warning about a sink, and the place of the sink that is not told.  That is the sink which has
failed; one that falls behind is told as well. -/
structure SinkWarning where
  except : Option Nat
  message : String

/-- The warning about a sink that falls behind. -/
def overflowMessage (name : String) : String :=
  name ++ " sink is falling behind; oldest events are being dropped"

/-- The warning about a sink that failed. -/
def failureMessage (name reason : String) : String := name ++ " sink failed: " ++ reason

namespace Slot

variable {σ : Type} [Sink σ]

/-- A sink about which nothing was reported. -/
def ofSink (sink : σ) : Slot σ := ⟨sink, false, false⟩

/-- Hands an event to the sink at a place; the first failure and the first overflow raise a
warning.  The warning calls the sink by the name that it has behind the event. -/
def publish (slot : Slot σ) (place : Nat) (event : Event) : List SinkWarning × Slot σ :=
  -- The sink behind the event stays in the slot whether or not the event was delivered.
  let (delivery, sink) := Sink.publish slot.sink event
  match delivery with
  | .delivered => ([], { slot with sink })
  | .dropped _ =>
    (if slot.overflowReported then [] else [⟨none, overflowMessage (Sink.name sink)⟩],
      { slot with sink, overflowReported := true })
  | .failed reason =>
    (if slot.failureReported then []
      else [⟨some place, failureMessage (Sink.name sink) reason⟩],
      { slot with sink, failureReported := true })

/-- Hands a warning to the sink, whatever becomes of it.  A sink that fails on a warning is not
reported for it, and the next event that it fails on counts as its first failure. -/
def warn (slot : Slot σ) (message : String) : Slot σ :=
  { slot with sink := (Sink.publish slot.sink (.warning message)).2 }

end Slot

namespace Fanout

variable {σ : Type} [Sink σ]

/-- Sinks about which nothing was reported. -/
def ofSinks (sinks : List σ) : Fanout σ := ⟨sinks.map Slot.ofSink⟩

/-- Hands an event to the slots from a place on and collects the warnings, in the order of the
places. -/
def publishFrom (event : Event) : Nat → List (Slot σ) → List SinkWarning × List (Slot σ)
  | _, [] => ([], [])
  | place, slot :: slots =>
    let (warnings, slot) := slot.publish place event
    let (others, slots) := publishFrom event (place + 1) slots
    (warnings ++ others, slot :: slots)

/-- Hands a warning to the slots from a place on, except to the one it is about. -/
def warnFrom (w : SinkWarning) : Nat → List (Slot σ) → List (Slot σ)
  | _, [] => []
  | place, slot :: slots =>
    -- A sink that failed is spared its own warning; one that overflowed is told of it.
    (if w.except = some place then slot else slot.warn w.message) :: warnFrom w (place + 1) slots

/-- Publishes an event: to every sink, and then the warnings it raised.  No sink is told a warning
before every sink was handed the event. -/
def publish (fanout : Fanout σ) (event : Event) : Fanout σ :=
  let (warnings, slots) := publishFrom event 0 fanout.slots
  ⟨warnings.foldl (fun slots w => warnFrom w 0 slots) slots⟩

/-- The sink at a place. -/
def sink? (fanout : Fanout σ) (place : Nat) : Option σ := fanout.slots[place]?.map (·.sink)

/-- Changes the sink at a place. -/
def modify (fanout : Fanout σ) (place : Nat) (f : σ → σ) : Fanout σ :=
  ⟨fanout.slots.modify place fun slot => { slot with sink := f slot.sink }⟩

/-- How many sinks there are. -/
def size (fanout : Fanout σ) : Nat := fanout.slots.length

end Fanout

end Overseer
