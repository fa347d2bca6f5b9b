import Overseer.Answer
import Overseer.Outcome

/-!
# Events

What a run tells its observers, one event at a time.  A run begins with `started` and ends with
`finished`.

The severity of an event and its sentence are what logs and consoles show of it.  A sentence is for
people and need not be told apart from another one; the record of an event holds all of it.
-/

namespace Overseer

/-- How loudly an event is reported. -/
inductive Severity where
  | info
  | warn
  | error
deriving DecidableEq

/-- The label of a severity in a log. -/
def Severity.label : Severity → String
  | .info => "INFO"
  | .warn => "WARN"
  | .error => "ERROR"

/-- The word for a severity in structured output. -/
def Severity.word : Severity → String
  | .info => "info"
  | .warn => "warn"
  | .error => "error"

/-- One thing that a run has to tell.  What a process writes and what the supervisor says about it
are different events, so they can be told apart whatever the process writes. -/
inductive Event where
  /-- The process was started. -/
  | started (pid : Nat) (command : String)
  /-- A line of output, or the last piece of one. -/
  | output (line : String)
  /-- A prompt was found and waits for an answer. -/
  | promptDetected (text : String)
  /-- An answer was written to the process. -/
  | answerSent (answer : Answer)
  | warning (message : String)
  | error (message : String)
  /-- The run has ended.  Nothing follows. -/
  | finished (outcome : Outcome)
deriving DecidableEq

namespace Event

/-- How loudly an event is reported.  An outcome is an error unless the process ended by itself and
reported no failure. -/
def severity : Event → Severity
  | .warning _ => .warn
  | .error _ => .error
  | .finished outcome => if outcome.isSuccess then .info else .error
  | _ => .info

/-- Whether the event ends a run. -/
def isFinished : Event → Bool
  | .finished _ => true
  | _ => false

/-- The event in a sentence.  That of a line of output is the line. -/
def summary : Event → String
  | .started pid command => "started " ++ command ++ " (pid " ++ toString pid ++ ")"
  | .output line => line
  | .promptDetected text => "waiting for answer: " ++ text
  | .answerSent answer => "answer sent: " ++ answer.letter
  | .warning message => message
  | .error message => message
  | .finished outcome => outcome.describe

end Event

end Overseer
