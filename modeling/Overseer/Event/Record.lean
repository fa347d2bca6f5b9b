import Overseer.Event.Basic
import Overseer.Json.Printer

/-!
# Events as Structured Records

The record of an event is an object with the name of the event and its data; the record of an
outcome holds its label and what belongs to it.

These records go to two places, the structured log and the server, and are the same in both.
-/

namespace Overseer

/-- The word for a time limit in a record. -/
def TimeoutCause.word : TimeoutCause → String
  | .execution => "execution"
  | .prompt => "prompt"

/-- The record of an outcome. -/
def Outcome.toRecord (outcome : Outcome) : Json :=
  .object (("status", .string outcome.label) ::
    match outcome with
    | .completed code => [("code", .int code)]
    | .timedOut cause => [("cause", .string cause.word)]
    | .terminated => []
    | .failed error => [("error", .string error)])

namespace Event

/-- The name of an event in a record. -/
def name : Event → String
  | .started .. => "started"
  | .output _ => "output"
  | .promptDetected _ => "prompt_detected"
  | .answerSent _ => "answer_sent"
  | .warning _ => "warning"
  | .error _ => "error"
  | .finished _ => "finished"

/-- The data of an event in a record.  Every kind of event has an object here, with fields of its
own. -/
def data : Event → Json
  | .started pid command => .object [("pid", .nat pid), ("command", .string command)]
  | .output line => .object [("line", .string line)]
  | .promptDetected text => .object [("text", .string text)]
  | .answerSent answer => .object [("answer", .string answer.letter)]
  | .warning message => .object [("message", .string message)]
  | .error message => .object [("message", .string message)]
  | .finished outcome => .object [("outcome", outcome.toRecord)]

/-- The fields of the record of an event. -/
def recordFields (e : Event) : List (String × Json) := [("event", .string e.name), ("data", e.data)]

/-- The record of an event: its name, which says what its data are, and the data. -/
def toRecord (e : Event) : Json := .object e.recordFields

end Event

end Overseer
