import Overseer.Event.Record
import Overseer.Prompt.Cleaning
import Overseer.Text.Html
import Overseer.Web.EventWriter
import Overseer.Web.Problem

/-!
# Responses

What is sent back: a bare status when a request does not fit, a whole body, or a stream of frames
that tells about a run while it goes on.

A frame is what a stream tells of one event, as a text or as a status with a record.  How it is
written as characters is up to the writer of the stream.
-/

namespace Overseer.Web

/-- A response.  Without any headers it is nothing but a status. -/
structure Response where
  status : Nat
  /-- The headers that matter, by their names. -/
  headers : List (String × String)
  body : String
deriving DecidableEq

/-- The headers that keep a response from being stored. -/
def noStoreHeaders : List (String × String) :=
  [("cache-control", "no-cache, no-store, must-revalidate"), ("pragma", "no-cache"),
    ("expires", "0")]

namespace Response

/-- A response of a kind of content. -/
def ofContent (status : Nat) (contentType body : String) : Response :=
  ⟨status, noStoreHeaders ++ [("content-type", contentType)], body⟩

/-- A response with a record, whose fields are sorted by name. -/
def ofRecord (v : Json) : Response := ofContent 200 "application/json" v.sorted.render

/-- A response that tells a problem. -/
def ofProblem (p : Problem) : Response := ofContent p.status "application/json" p.body

/-- A response with frames. -/
def ofFrames (body : String) : Response :=
  ⟨200,
    noStoreHeaders ++ [("content-type", "text/event-stream"), ("x-accel-buffering", "no")], body⟩

/-- A response with nothing but a status. -/
def bare (status : Nat) : Response := ⟨status, [], ""⟩

/-- Whether the response is nothing but a status. -/
def isBare (r : Response) : Bool := r.headers.isEmpty

end Response

/-! ## Frames -/

/-- One message of a stream.  Everything but the outcome is a bare text, so that a page needs to
tell two kinds of messages apart. -/
inductive Frame where
  | data (text : String)
  /-- How the run ended, and its exit code. -/
  | status (label : String) (exitCode : Option Int)
deriving DecidableEq

namespace Frame

/-- What tells the page that the run waits for an answer.  It is a text like any other, and only its
wording sets it apart. -/
def promptMarker : String := "BACKUP_PROMPT"

/-- The frame that tells how a run ended. -/
def ofOutcome (outcome : Outcome) : Frame := .status outcome.label outcome.exitCode

/-- A text as the page shows it: what would be markup is written by its entity. -/
def pageText (s : String) : String := String.ofList (Text.escapeHtml s.toList)

/-- The frame of an event.  Output loses its colours, and everything is written as page text.  A
prompt is told by the marker alone, since its line was told before. -/
def ofEvent : Event → Frame
  | .output line => .data (String.ofList (Text.escapeHtml (Prompt.stripEscapes line.toList)))
  | .promptDetected _ => .data promptMarker
  | .finished outcome => ofOutcome outcome
  | e => .data (pageText e.summary)

/-- The record of a status.  A run that did not end by itself has no exit code, which is told by a
null. -/
def statusRecord (label : String) (exitCode : Option Int) : Json :=
  .object [("exit_code", match exitCode with
    | some code => .int code
    | none => .null), ("status", .string label)]

/-- The event that a frame is given to the writer as.  A carriage return cannot travel in a field, so
what it parts is sent as lines, as the output of a progress bar is. -/
def event : Frame → StreamEvent
  | .data text => ⟨none, String.ofList (text.toList.map fun c => if c = '\r' then '\n' else c)⟩
  | .status label exitCode => ⟨some "status", (statusRecord label exitCode).render⟩

/-- A frame as the installed writer sends it.  It refuses none (`write?_event_installed`). -/
def render (frame : Frame) : String := (EventWriter.installed.write? frame.event).getD ""

/-- What is sent when there was nothing to tell for a while. -/
def heartbeat : String := EventWriter.installed.heartbeat

/-- The frames about a run that never began: why, and then an outcome like that of any other run. -/
def failed (reason : String) : List Frame :=
  [.data (pageText ("Error: " ++ reason)), ofOutcome (.failed reason)]

/-- Frames as they are sent. -/
def renderAll (frames : List Frame) : String := String.join (frames.map render)

end Frame

end Overseer.Web
