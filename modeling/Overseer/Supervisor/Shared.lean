import Overseer.Relay
import Overseer.Supervisor.Basic

/-!
# What Callers and Workers Share

A supervisor runs one command at a time.  A start reserves it, makes the process and then announces
the run; a request to stop reaches the run that is reserved or active, and no other.  Each function
here is one critical section.

A supervisor does not know its runs: it has a ticket for each and hands them out one after the
other.  The ticket in the slot is that of the run which a request to stop would reach, and a request
is kept by its ticket, so that it cannot reach a later run.
-/

namespace Overseer

/-- The shared part of a supervisor.  That it is reserved and that a run is active are two notes,
and a start looks at both. -/
structure Supervisor where
  tuning : Tuning
  activity : Activity
  /-- A start has reserved the supervisor and its process is still being made. -/
  starting : Bool
  /-- The ticket of the run that a request to stop would reach. -/
  slot : Option Nat
  /-- The tickets of the runs that were asked to stop. -/
  stopRequests : List Nat
  /-- The ticket of the next run. -/
  nextTicket : Nat
  relay : Relay

namespace Supervisor

/-- A supervisor before any run. -/
def new (tuning : Tuning) : Supervisor := ⟨tuning, .idle, false, none, [], 0, .empty⟩

/-- Reserves the supervisor for a run, which gets a ticket.  Of two starts that come together only
the first one succeeds, since it leaves its note. -/
def reserve (s : Supervisor) : Except StartError (Nat × Supervisor) :=
  match s.activity with
  | .running pid _ => .error (.busy pid)
  | _ =>
    if s.starting then .error .starting
    else
      .ok (s.nextTicket,
        { s with starting := true, slot := some s.nextTicket, nextTicket := s.nextTicket + 1 })

/-- Gives a reservation up, because the process could not be made.  What the run before left as its
outcome is forgotten by that. -/
def release (s : Supervisor) : Supervisor :=
  { s with starting := false, activity := .idle, slot := none }

/-- Announces the run whose process was made.  From here on the run is told as running, with its
process and its command. -/
def announce (s : Supervisor) (pid : Nat) (command : String) : Supervisor :=
  { s with starting := false, activity := .running pid command }

/-- Attaches the input of the process to the relay. -/
def attach (s : Supervisor) : Supervisor := { s with relay := s.relay.attach }

/-- Ends the part of the relay in a run. -/
def detach (s : Supervisor) : Supervisor := { s with relay := s.relay.detach }

/-- Frees the supervisor for the next run.  The worker may still have its last event to tell. -/
def finish (s : Supervisor) (outcome : Outcome) : Supervisor :=
  { s with activity := .finished outcome, slot := none }

/-- Notes that a run was asked to stop. -/
def requestStop (s : Supervisor) (ticket : Nat) : Supervisor :=
  { s with stopRequests := ticket :: s.stopRequests }

/-- Whether a run was asked to stop.  A request is never taken back. -/
def stopRequested (s : Supervisor) (ticket : Nat) : Bool := s.stopRequests.contains ticket

/-- Asks the run to stop that is reserved or active, and tells whether there is one.  A run that is
still being made gets the request as well, and finds it in its first round. -/
def cancel (s : Supervisor) : Bool × Supervisor :=
  match s.slot with
  | none => (false, s)
  | some ticket =>
    -- The slot of a run that is over may still be there for a moment, with nothing left to stop.
    if s.activity.isRunning || s.starting then (true, s.requestStop ticket) else (false, s)

/-- Supplies an answer to the prompt that waits.  The bytes are what reached the process. -/
def answer (s : Supervisor) (a : Answer) (replies : PipeReplies) :
    Except AnswerError Answer × List UInt8 × Supervisor :=
  let supplied := s.relay.supply a replies
  (supplied.result, supplied.arrived, { s with relay := supplied.relay })

/-- The prompt that waits.  One with its answer is not shown any more. -/
def pendingPrompt? (s : Supervisor) : Option PromptWait :=
  s.relay.wait.filter fun w => !w.isResolved

end Supervisor

end Overseer
