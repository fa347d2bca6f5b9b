import Overseer.Proofs.Supervisor.Agenda

/-!
# A Supervisor and Its Runs

A crew is a supervisor with everything that goes on around it: starts that are making a process,
workers, and callers who stop runs and answer prompts.  Each action of a crew is one critical
section, so a list of actions is an interleaving of all of them.

- `Crew.step`: one critical section
- `Crew.after`: the crew that an interleaving leads to
-/

namespace Overseer

/-- How far the start of a run has come.  Between two stages anything else may happen. -/
inductive Stage (σ : Type) where
  /-- The supervisor is reserved, and the process is being made. -/
  | making (command : Command) (fanout : Fanout σ)
  /-- The run is announced.  Its worker begins when the input of the process is attached. -/
  | working (worker : Worker σ) (attached : Bool)
  /-- The process could not be made. -/
  | failed

/-- A supervisor and the runs that were reserved, by ticket.  Nothing is assumed of the stages
together; what holds of them is proved of what can be reached. -/
structure Crew (σ : Type) where
  shared : Supervisor
  stages : Nat → Option (Stage σ)

namespace Crew

variable {σ : Type} [Sink σ]

/-- One critical section.  An action for a run that is not at the right stage does nothing. -/
inductive Action (σ : Type) where
  /-- A caller wants a run: the first part of a start. -/
  | reserve (command : Command) (fanout : Fanout σ)
  /-- The process of a run was made: the second part of a start. -/
  | announce (ticket pid now : Nat)
  /-- The process of a run could not be made: the other second part of a start. -/
  | release (ticket : Nat)
  /-- The input of the process is attached, and the worker begins. -/
  | attach (ticket : Nat)
  /-- A worker does its next task. -/
  | work (ticket : Nat) (seen : Observation)
  /-- Output of a process arrives. -/
  | arrive (ticket : Nat) (arrival : Reader.Arrival)
  | cancel
  | answer (answer : Answer) (replies : PipeReplies)

/-- The crew before any run. -/
def new (tuning : Tuning) : Crew σ := ⟨.new tuning, fun _ => none⟩

/-- Puts a run at a stage. -/
def put (c : Crew σ) (ticket : Nat) (stage : Stage σ) : Crew σ :=
  { c with stages := fun t => if t = ticket then some stage else c.stages t }

/-- Changes the shared part. -/
def withShared (c : Crew σ) (shared : Supervisor) : Crew σ := { c with shared }

/-- The crew after an action. -/
def step (c : Crew σ) : Action σ → Crew σ
  | .reserve command fanout =>
    match c.shared.reserve with
    | .error _ => c
    | .ok (ticket, shared) => (c.withShared shared).put ticket (.making command fanout)
  | .announce ticket pid now =>
    match c.stages ticket with
    | some (.making command fanout) =>
      (c.withShared (c.shared.announce pid command.display)).put ticket
        (.working (.new c.shared.tuning command ticket pid now fanout) false)
    | _ => c
  | .release ticket =>
    match c.stages ticket with
    | some (.making _ _) => (c.withShared c.shared.release).put ticket .failed
    | _ => c
  | .attach ticket =>
    match c.stages ticket with
    | some (.working worker false) =>
      (c.withShared c.shared.attach).put ticket (.working worker true)
    | _ => c
  | .work ticket seen =>
    match c.stages ticket with
    | some (.working worker true) =>
      let stepped := worker.step c.shared seen
      (c.withShared stepped.shared).put ticket (.working stepped.worker true)
    | _ => c
  | .arrive ticket arrival =>
    match c.stages ticket with
    | some (.working worker attached) => c.put ticket (.working (worker.arrive arrival) attached)
    | _ => c
  | .cancel => c.withShared c.shared.cancel.2
  | .answer a replies => c.withShared (c.shared.answer a replies).2.2

/-- The crew that an interleaving leads to. -/
def after (tuning : Tuning) (actions : List (Action σ)) : Crew σ := actions.foldl step (new tuning)

end Crew

end Overseer
