import Overseer.Pipe
import Overseer.Sink.Channel

/-!
# The Console

Shows the events of a run on a terminal.  Output passes through as it is; everything else is
tagged, in colour if the terminal has it.

The terminal may fail to take what is written.  Following a run goes on in any case, since somebody
has to read the events and to answer the prompts.
-/

namespace Overseer

/-- A terminal: how it takes what is written, whether it shows colours, and what it has shown.  It
takes every write in the same way. -/
structure Console where
  pipe : Pipe
  color : Bool
  shown : List UInt8

namespace Console

/-- The tag in front of what does not come from the process. -/
def tag : String := "[saturn-relay]"

/-- A terminal that has shown nothing. -/
def new (pipe : Pipe) (color : Bool) : Console := ⟨pipe, color, []⟩

/-- A text behind the tag. -/
def tagged (color : Bool) (code text : String) : String :=
  if color then "\x1b[" ++ code ++ "m" ++ tag ++ "\x1b[0m " ++ text else tag ++ " " ++ text

/-- The colour of the tag: cyan for progress, yellow for what wants attention, red for what went
wrong and green for success. -/
def colorCode : Event → String
  | .started .. | .answerSent _ | .output _ => "36"
  | .promptDetected _ | .warning _ => "33"
  | .error _ => "31"
  | .finished outcome => if outcome.isSuccess then "32" else "31"

/-- The line that shows an event.  A line of output is shown as it came, without a tag, so that it
looks as if the process had written it. -/
def render (color : Bool) (e : Event) : String :=
  match e with
  | .output line => line
  | e => tagged color (colorCode e) e.summary

/-- Shows an event.  What arrived of a line that could not be written whole is shown too. -/
def publish (console : Console) (e : Event) : Delivery × Console :=
  let written := console.pipe.write (render console.color e ++ "\n").toUTF8.toList
  let console := { console with shown := console.shown ++ written.arrived }
  match written.failure with
  | none => (.delivered, console)
  | some reason => (.failed reason, console)

/-- What came of following a channel: the terminal after it, the prompts and the outcome met, and
the events left unread.  A channel that ends without an outcome leaves none. -/
structure Followed where
  console : Console
  prompts : List String
  outcome : Option Outcome
  left : List Event

/-- Shows the events of a channel that is closed until the run finishes or nothing is left.  What
becomes of the writing does not matter. -/
def follow (console : Console) : List Event → Followed
  | [] => ⟨console, [], none, []⟩
  | e :: rest =>
    let console := (console.publish e).2
    match e with
    | .finished outcome => ⟨console, [], some outcome, rest⟩
    | .promptDetected text =>
      let later := follow console rest
      { later with prompts := text :: later.prompts }
    | _ => follow console rest

end Console

end Overseer
