import Overseer.Text.Parts

/-!
# Writing Events

A stream of events is written by a writer: it is given one event after another, each with a text and
perhaps a kind of its own, and turns each into the characters that are sent.  A writer may refuse an
event, and it knows what to send when there is nothing to tell.

- `EventWriter`: what a server needs of a writer
- `EventWriter.byLines`: every line of a text behind the name of its field, the empty line too
- `EventWriter.installed`: the writer of the running server, which leaves an empty text out
-/

namespace Overseer.Web

/-- An event as it is given to a writer.  Without a kind of its own it is an ordinary message. -/
structure StreamEvent where
  kind? : Option String
  text : String
deriving DecidableEq

/-- How events become the characters of a stream.  What the server sends depends on its writer in
these two ways only. -/
structure EventWriter where
  /-- The characters that are sent for an event, unless it is refused. -/
  write? : StreamEvent → Option String
  /-- What is sent when there was nothing to tell for a while. -/
  heartbeat : String

namespace StreamEvent

/-- A line that sets a field, with its end. -/
def field (name : String) (value : List Char) : List Char :=
  name.toList ++ ": ".toList ++ value ++ ['\n']

/-- The line that names the kind of an event, if it has one. -/
def kindField (e : StreamEvent) : List Char :=
  match e.kind? with
  | some kind => field "event" kind.toList
  | none => []

/-- The parts of a text between its newlines.  A text has one more part than newlines, so an empty
text has one part, which is empty. -/
def textLines (s : List Char) : List (List Char) := Text.splitAtMarks (· == '\n') s

/-- An event line by line: its kind, each line of its text, and the empty line that ends it. -/
def byLines (e : StreamEvent) : String :=
  String.ofList (e.kindField ++ (textLines e.text.toList).flatMap (field "data") ++ ['\n'])

/-- Whether the text of an event holds a carriage return, which no field can carry. -/
def hasReturn (e : StreamEvent) : Bool := e.text.toList.contains '\r'

end StreamEvent

namespace EventWriter

/-- The writer that writes every event line by line, and refuses what no field can carry. -/
def byLines : EventWriter where
  write? e := if e.hasReturn then none else some e.byLines
  heartbeat := ":\n\n"

/-- The writer of the running server.  It writes as `byLines` does, but no line at all for an empty
text. -/
def installed : EventWriter where
  write? e :=
    if e.text.isEmpty then some (String.ofList (e.kindField ++ ['\n'])) else byLines.write? e
  heartbeat := byLines.heartbeat

end EventWriter

end Overseer.Web
