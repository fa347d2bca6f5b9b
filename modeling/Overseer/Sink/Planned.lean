import Overseer.Sink.Basic

/-!
# Planned Sinks

A sink whose deliveries are decided beforehand, by the number of the event that it is handed.  It
shows how a run copes with sinks that fail or fall behind.
-/

namespace Overseer

/-- A sink whose deliveries are decided beforehand. -/
structure PlannedSink where
  name : String
  /-- The events that fail, counted from zero. -/
  failures : List Nat
  reason : String
  /-- The events that push older ones out. -/
  drops : List Nat
  dropCount : Nat
  /-- How many events were handed over. -/
  count : Nat

namespace PlannedSink

/-- Takes an event. -/
def publish (s : PlannedSink) : Delivery × PlannedSink :=
  (if s.failures.contains s.count then .failed s.reason
    else if s.drops.contains s.count then .dropped s.dropCount
    else .delivered,
   { s with count := s.count + 1 })

end PlannedSink

end Overseer
