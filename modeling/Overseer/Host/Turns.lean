import Overseer.Host.Basic
import Overseer.Host.Clocked

/-!
# The Turns of a Host

Output goes from the pipe of a process to the worker of its run, workers do their next task, and
processes take their next step, in this order of precedence.  When nobody can do anything, the clock
goes on to the next moment at which somebody can.

The order of precedence makes a host run the same way every time.  Nothing that is proved about runs
depends on it: a host is one of all the interleavings of its workers, processes and callers.
-/

namespace Overseer

/-- When a worker can do a task: at once, at a moment in milliseconds, or never by itself, as when
it waits for the end of its process. -/
inductive Readiness where
  | now
  | from (moment : Nat)
  | never

namespace Run

/-- The microseconds that a task of a worker takes. -/
def taskCost : Nat := 20

/-- How many chunks may wait for a worker before no more are taken from the pipe. -/
def queueLimit : Nat := 64

/-- When the next task of the worker can be done.  Only tasks that wait for something have to be
asked about; all others can be done at once. -/
def readiness (r : Run) (m : Computer) : Readiness :=
  match r.worker.agenda with
  | [] => .never
  | task :: _ =>
    match task with
    | .poll deadline => if r.worker.hasOutput then .now else .from deadline
    | .drainPoll _ quantum _ => if r.worker.hasOutput then .now else .from quantum
    | .pause deadline => .from deadline
    | .reap _ => if (m.endOf? r.worker.pid).isSome then .now else .never
    | _ => .now

/-- Whether the worker can do its next task. -/
def isReady (r : Run) (m : Computer) : Bool :=
  r.readyAt ≤ m.now &&
    match r.readiness m with
    | .now => true
    | .from moment => moment * 1000 ≤ m.now
    | .never => false

/-- The next moment at which the worker can do its next task, in microseconds. -/
def wakeTime? (r : Run) (m : Computer) : Option Nat :=
  match r.readiness m with
  | .now => some r.readyAt
  | .from moment => some (max r.readyAt (moment * 1000))
  | .never => none

end Run

namespace Host

/-! ## Output -/

/-- Takes a chunk of the output of a run from its pipe, if there is something to take.  When the
pipe is at its end the worker learns that, and the pipe is let go of. -/
def pump (h : Host) (number : Nat) (r : Run) : Option Host :=
  match r.output with
  | none => none
  | some pipe =>
    -- A full queue leaves the output in the pipe, where it holds up the process in the end.
    if Run.queueLimit ≤ r.worker.reader.queue.length then none
    else
      match h.machine.read (.pipeExit pipe) Reader.chunkBytes with
      | (.bytes chunk, machine) =>
        some (({ h with machine } : Host).modifyRun number fun r =>
          { r with worker := r.worker.arrive (.bytes chunk) })
      | (.blocked, _) => none
      | (_, machine) =>
        let h := { h with machine := machine.letGo (.pipeExit pipe) }
        some (h.modifyRun number fun r =>
          { r with worker := r.worker.arrive .ended, output := none })

/-! ## Workers -/

/-- What has become of the process of a run. -/
def childStatus (h : Host) (pid : Nat) : ChildStatus :=
  match h.machine.endOf? pid with
  | some ending => .exited ending.code
  | none => .running

/-- Sends the signal that a worker asks for: to the group of its process, or to the process alone if
there is no such group. -/
def deliver (h : Host) (pid : Nat) : Option StopSignal → Host
  | none => h
  | some stop =>
    let signal := match stop with
      | .terminate => Signal.terminate
      | .kill => Signal.kill
    let (found, machine) := h.machine.signalGroup pid signal
    -- The group is gone when its last process has ended, though the process may have left it
    -- before.
    { h with machine := if found then machine else (machine.signal pid signal).2 }

/-- Lets go of what a run held, when it is over.  Its process is forgotten only if it has ended. -/
def release (h : Host) (number : Nat) : Host :=
  match h.runs[number]? with
  | none => h
  | some r =>
    if r.worker.isDone then
      let machine := match r.output with
        | some pipe => h.machine.letGo (.pipeExit pipe)
        | none => h.machine
      -- A process that was let live is not waited for, and stays on the machine.
      let machine := if (machine.endOf? r.worker.pid).isSome then machine.dropProcess r.worker.pid
        else machine
      ({ h with machine } : Host).modifyRun number fun r => { r with output := none }
    else h

/-- Carries out what a step of the worker of a run yields: what its sinks wrote is saved, what was
written for the process goes into its input, and what is shared stands at the seat again. -/
def carryOut (h : Host) (number : Nat) (r : Run) (seat : Seat) (done : Worker.Stepped Observer) :
    Host :=
  let fanout := done.worker.fanout
  let machine := { h.machine with tree := fanout.saveTo h.machine.tree }
  let h := ({ h with machine } : Host).feed seat done.written
  let h := h.modifySeat r.seat fun s => { s with supervisor := done.shared }
  let h := h.modifyRun number fun r =>
    { r with
      worker := { done.worker with fanout := fanout.saved }
      readyAt := h.machine.now + Run.taskCost }
  -- Detaching lets go of the input.
  let h := if done.shared.relay.attached then h else h.closeInput r.seat
  (h.deliver r.worker.pid done.signal).release number

/-- Does the next task of the worker of a run.  Its sinks are told the time first. -/
def work (h : Host) (number : Nat) (r : Run) : Host :=
  match h.seats[r.seat]? with
  | none => h
  | some seat =>
    let worker := { r.worker with fanout := r.worker.fanout.setMoment h.machine.moment }
    -- The worker sees the machine as it stands before its step.
    let seen : Observation := ⟨h.now, h.childStatus r.worker.pid, h.replies seat⟩
    h.carryOut number r seat (worker.step seat.supervisor seen)

/-! ## Turns -/

/-- The numbers and runs of a host. -/
def numberedRuns (h : Host) : List (Nat × Run) := h.runs.zipIdx.map fun (r, i) => (i, r)

/-- One turn, if anybody can do anything now.  Output is taken before any worker goes on, and
workers go on before any process does. -/
def turn? (h : Host) : Option Host :=
  match h.numberedRuns.findSome? fun (i, r) => h.pump i r with
  | some h => some h
  | none =>
    match h.numberedRuns.find? fun (_, r) => r.isReady h.machine with
    | some (i, r) => some (h.work i r)
    | none => h.machine.step?.map fun machine => { h with machine }

/-- The next moment at which somebody can do something, in microseconds. -/
def nextWake? (h : Host) : Option Nat :=
  (h.machine.nextWake?.toList ++ h.runs.filterMap fun r => r.wakeTime? h.machine).min?

/-- The host at a later moment. -/
def advanceTo (h : Host) (moment : Nat) : Host :=
  { h with machine := h.machine.advanceTo moment }

instance : Clocked Host where
  now h := h.machine.now
  turn? := turn?
  nextWake? := nextWake?
  advanceTo := advanceTo

/-- Waits until a condition holds or nothing more can happen. -/
def awaitThat (h : Host) (stop : Host → Bool) : Host := Clocked.awaitThat h stop

/-- Lets time pass, in microseconds. -/
def pass (h : Host) (duration : Nat) : Host := Clocked.pass h duration

/-- Waits for the end of a run. -/
def awaitEnd (h : Host) (run : Nat) : Host := h.awaitThat fun h => h.isOver run

end Host

end Overseer
