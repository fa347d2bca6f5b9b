import Overseer.Event.Record
import Overseer.Prompt.Patterns
import Overseer.Tail

/-!
# Supervisors

What a supervisor shows of itself, how it is tuned, why it refuses to start a run, and what a run
leaves behind.

The record of an activity does not say since when it lasts.  What a run leaves behind has its
outcome, its process and the tail of its output, and neither has the time that the run took.
-/

namespace Overseer

/-- Why a run was not started.  The first two say that there is another run, and only the last one
that the process could not be made. -/
inductive StartError where
  /-- Another run is active. -/
  | busy (pid : Nat)
  /-- Another run is about to begin. -/
  | starting
  /-- The process could not be made. -/
  | notStarted (program reason : String)
deriving DecidableEq

/-- The text of an error. -/
def StartError.message : StartError → String
  | .busy pid => "another operation is already running (pid " ++ toString pid ++ ")"
  | .starting => "another operation is already starting"
  | .notStarted program reason => "failed to start " ++ program ++ ": " ++ reason

/-- What a supervisor does.  The outcome of the last run is told until the next one is announced or
has failed to start. -/
inductive Activity where
  | idle
  | running (pid : Nat) (command : String)
  | finished (outcome : Outcome)
deriving DecidableEq

namespace Activity

/-- Whether a run is active. -/
def isRunning : Activity → Bool
  | .running .. => true
  | _ => false

/-- The record of an activity. -/
def toRecord : Activity → Json
  | .idle => .object [("state", .string "idle")]
  | .running pid command =>
    .object [("state", .string "running"), ("pid", .nat pid), ("command", .string command)]
  | .finished outcome => .object [("state", .string "finished"), ("outcome", outcome.toRecord)]

end Activity

/-- How the runs of a supervisor are watched.  Times are milliseconds, of which the settings can
name no more than the clock can count. -/
structure Tuning where
  /-- The longest wait for output, and how often the time limits are looked at. -/
  pollInterval : Nat
  /-- The time between the request to stop and the end by force. -/
  gracePeriod : Nat
  tailLimit : Nat
  patterns : Prompt.PromptPatterns

/-- The tuning when nothing else is asked for. -/
def Tuning.standard : Tuning := ⟨100, 3000, Tail.defaultLimit, Prompt.PromptPatterns.backup⟩

/-- What a run leaves behind: how it ended, under which process, and the newest lines of its output.
-/
structure Report where
  outcome : Outcome
  pid : Nat
  /-- The newest lines of the output. -/
  tail : List String
deriving DecidableEq

end Overseer
