/-!
# Systems with a Clock

A system in which something happens now or at a later moment: it takes turns for as long as it can,
and then its clock goes on to the next moment at which it can again.

Fuel bounds the turns, since nothing else makes them end: a process may go on for ever.  There is
more of it than any run takes.
-/

namespace Overseer

/-- A system with a clock, in microseconds. -/
class Clocked (α : Type) where
  now : α → Nat
  /-- One turn, if anything can happen now. -/
  turn? : α → Option α
  /-- The next moment at which something can happen. -/
  nextWake? : α → Option Nat
  /-- The system at a later moment. -/
  advanceTo : α → Nat → α

namespace Clocked

variable {α : Type} [Clocked α]

/-- Lets turns follow until a condition holds, a moment has come, nothing more can happen, or `fuel`
turns were taken. -/
def runUntil (stop : α → Bool) (limit : Option Nat) : Nat → α → α
  | 0, a => a
  | fuel + 1, a =>
    if stop a || limit.any (· ≤ now a) then a
    else
      match turn? a with
      | some a => runUntil stop limit fuel a
      | none =>
        match nextWake? a, limit with
        | some moment, some limit' => runUntil stop limit fuel (advanceTo a (min moment limit'))
        | some moment, none => runUntil stop limit fuel (advanceTo a moment)
        | none, some limit' => advanceTo a limit'
        | none, none => a

/-- More turns than any system needs that comes to rest within its limits. -/
def turnLimit : Nat := 1000000000

/-- Lets turns follow until a condition holds or nothing more can happen. -/
def awaitThat (a : α) (stop : α → Bool) : α := runUntil stop none turnLimit a

/-- Lets time pass, in microseconds. -/
def pass (a : α) (duration : Nat) : α :=
  runUntil (fun _ => false) (some (now a + duration)) turnLimit a

end Clocked

end Overseer
