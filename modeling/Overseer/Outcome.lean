/-!
# Outcomes

How a run ended.

A process that was ended by a signal has completed as well, with the code that shells give to that
signal.  The other three outcomes are decisions of the supervisor.
-/

namespace Overseer

/-- Which time limit a run exceeded. -/
inductive TimeoutCause where
  /-- The limit of the whole run. -/
  | execution
  /-- The limit for the answer to a prompt. -/
  | prompt
deriving DecidableEq

/-- How a run ended. -/
inductive Outcome where
  /-- The process ended by itself. -/
  | completed (code : Int)
  | timedOut (cause : TimeoutCause)
  /-- The run was stopped on request. -/
  | terminated
  | failed (error : String)
deriving DecidableEq

namespace Outcome

/-- Whether the process ended by itself and reported no failure. -/
def isSuccess : Outcome → Bool
  | .completed code => code == 0
  | _ => false

/-- The exit code of a process that ended by itself. -/
def exitCode : Outcome → Option Int
  | .completed code => some code
  | _ => none

/-- The word for an outcome. -/
def label : Outcome → String
  | .completed _ => "completed"
  | .timedOut _ => "timed_out"
  | .terminated => "terminated"
  | .failed _ => "failed"

/-- The outcome in a sentence.  The two time limits are told apart here and in the record, but not
by the label. -/
def describe : Outcome → String
  | .completed code => "completed (exit code " ++ toString code ++ ")"
  | .timedOut .execution => "timed out: run exceeded its time limit"
  | .timedOut .prompt => "timed out waiting for an answer"
  | .terminated => "terminated on request"
  | .failed error => "failed: " ++ error

end Outcome

end Overseer
