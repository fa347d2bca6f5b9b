import Overseer.Event.Basic

/-!
# Sinks

An observer of a run takes its events one by one and reports what became of each.

A delivery is what the sink says of it: the event was taken, or it was taken and older ones went, or
it failed.  The sinks of a run need not be of one kind, and nothing is assumed of them.
-/

namespace Overseer

/-- What became of an event that was handed to a sink.  A sink that drops older events has still
taken this one. -/
inductive Delivery where
  | delivered
  /-- Delivered, but `count` older events were dropped to make room. -/
  | dropped (count : Nat)
  | failed (reason : String)
deriving DecidableEq

/-- A kind of observer, given by its states.  Handing it an event yields what became of the event
and the state behind it, in which its name may be another one. -/
class Sink (σ : Type) where
  /-- The word for the sink in warnings. -/
  name : σ → String
  /-- Takes an event. -/
  publish : σ → Event → Delivery × σ

end Overseer
