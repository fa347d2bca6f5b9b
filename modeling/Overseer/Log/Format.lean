import Overseer.Event.Record
import Overseer.Log.Timestamp

/-!
# Log Lines

An event becomes one entry of a log: a timestamp, a severity and what the event has to tell.  One
format is for people, the other has one record on each line.

The format for people puts the sentence of an event behind its stamp as it is.  The other one prints
a record, and so has one line for each event whatever the event holds.
-/

namespace Overseer.Log

/-- The format of a log: one for people, and one with a record on each line. -/
inductive LogFormat where
  | text
  | json
deriving DecidableEq

namespace LogFormat

/-- The word for a format. -/
def word : LogFormat → String
  | .text => "text"
  | .json => "json"

/-- The format with a word. -/
def ofWord? (word : String) : Option LogFormat :=
  if word = "text" then some .text else if word = "json" then some .json else none

end LogFormat

/-- The entry of an event in a log for people.  The sentence is not quoted, so it may have newlines
in it. -/
def plainEntry (time : Timestamp) (e : Event) : String :=
  time.plainText ++ " [" ++ e.severity.label ++ "] " ++ e.summary

/-- The record of an event in a structured log: when and how loudly it was told, and what is told of
it anywhere else. -/
def recordEntry (time : Timestamp) (e : Event) : Json :=
  .object (("timestamp", .string time.recordText) :: ("severity", .string e.severity.word) ::
    e.recordFields)

/-- The entry of an event. -/
def LogFormat.entry (format : LogFormat) (time : Timestamp) (e : Event) : String :=
  match format with
  | .text => plainEntry time e
  | .json => (recordEntry time e).render

end Overseer.Log
