import Overseer.Log.File
import Overseer.Sink.Channel
import Overseer.Sink.Console
import Overseer.Sink.Fanout
import Overseer.Sink.Planned

/-!
# Observers

All the kinds of sinks that a run may tell its events to.

The sinks that the program itself has.  Those that write to files keep what they wrote until it is
saved, and those that show the time are told it before a worker does its task.
-/

namespace Overseer

/-- A sink of any kind. -/
inductive Observer where
  /-- Keeps all events. -/
  | memory (events : List Event)
  | console (console : Console)
  | channel (channel : Channel)
  | log (file : Log.LogFile)
  | planned (sink : PlannedSink)

namespace Observer

/-- The word for an observer. -/
def name : Observer → String
  | .memory _ => "memory"
  | .console _ => "console"
  | .channel c => c.name
  | .log _ => Log.LogFile.name
  | .planned sink => sink.name

/-- Hands an event to an observer. -/
def publish (observer : Observer) (e : Event) : Delivery × Observer :=
  match observer with
  | .memory events => (.delivered, .memory (events ++ [e]))
  | .console c =>
    let (delivery, c) := c.publish e
    (delivery, .console c)
  | .channel c =>
    let (delivery, c) := c.publish e
    (delivery, .channel c)
  | .log file =>
    let (delivery, file) := file.publish e
    (delivery, .log file)
  | .planned sink =>
    let (delivery, sink) := sink.publish
    (delivery, .planned sink)

instance : Sink Observer where
  name := name
  publish := publish

/-- Tells an observer what time it is, which a log puts in front of its entries. -/
def setMoment (moment : Log.Moment) : Observer → Observer
  | .log file => .log { file with moment }
  | observer => observer

/-- The file tree after an observer has put what it wrote where it belongs. -/
def saveTo (tree : FileTree) : Observer → FileTree
  | .log file => if file.written.isEmpty then tree else file.save tree
  | _ => tree

/-- An observer behind that. -/
def saved : Observer → Observer
  | .log file => .log { file with written := [] }
  | observer => observer

end Observer

namespace Fanout

/-- Tells the sinks of a run what time it is. -/
def setMoment (moment : Log.Moment) (fanout : Fanout Observer) : Fanout Observer :=
  ⟨fanout.slots.map fun s => { s with sink := s.sink.setMoment moment }⟩

/-- The file tree after the sinks of a run have put what they wrote where it belongs. -/
def saveTo (tree : FileTree) (fanout : Fanout Observer) : FileTree :=
  fanout.slots.foldl (fun tree s => s.sink.saveTo tree) tree

/-- The sinks of a run behind that. -/
def saved (fanout : Fanout Observer) : Fanout Observer :=
  ⟨fanout.slots.map fun s => { s with sink := s.sink.saved }⟩

end Fanout

end Overseer
