import Overseer.Shell.Step
import Overseer.Utility.Step

/-!
# The Schedule of a Machine

Which process takes the next step, and when the clock goes on: the first process that is ready and
need not wait takes a step, and if there is none, time passes until the next process is ready.

Processes are asked in the order in which they were made.  One that waits for bytes, for room or for
another process is passed over until it need not wait any more.
-/

namespace Overseer

/-- Whether a process may take a step now. -/
def Process.isReady (p : Process Body) (now : Nat) : Bool :=
  p.isAlive && !p.stopped && p.readyAt ≤ now

/-- The step of a process, unless it has to wait. -/
def Process.step (p : Process Body) (m : Computer) : Option Computer :=
  match p.body with
  | .shell shell => (Shell.Scene.mk m p shell).step
  | .utility u => u.step m p

/-- The moment at which a process goes on by itself, if time alone decides that. -/
def Process.wakeTime? (p : Process Body) (now : Nat) : Option Nat :=
  if !p.isAlive || p.stopped then none
  else if now < p.readyAt then some p.readyAt
  else
    match p.body with
    | .utility { progress := .sleeping deadline, .. } => some deadline
    | .shell { control := .reading { deadline := some deadline, .. }, .. } => some deadline
    | _ => none

namespace Machine

/-- One step of the first process that can take one. -/
def step? (m : Computer) : Option Computer :=
  m.processes.findSome? fun p => if p.isReady m.now then p.step m else none

/-- The next moment at which a process goes on by itself. -/
def nextWake? (m : Computer) : Option Nat :=
  (m.processes.filterMap fun p => p.wakeTime? m.now).min?

/-- The machine at a later moment. -/
def advanceTo (m : Computer) (moment : Nat) : Computer := { m with now := max m.now moment }

end Machine

end Overseer
