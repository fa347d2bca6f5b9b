import Overseer.Catalog.Launcher
import Overseer.Host.Turns

/-!
# Checking Scripts

The syntax of a script is checked by a run of its own, under a supervisor that nobody else knows and
that waits for no answers.

A check is a run like any other, with a time limit of its own.  Its events go into memory, and what
they say when the outcome is no success is the error.
-/

namespace Overseer.Host

/-- Begins to check a script: the number of the run, or nothing for a script without a check. -/
def beginCheck (h : Host) (launcher : Catalog.Launcher) (script : Catalog.Script) :
    Except Catalog.CatalogError (Option Nat) × Host :=
  match launcher.preflightCommand? script with
  | none => (.ok none, h)
  | some command =>
    let (seat, h) := h.addSupervisor Catalog.Launcher.preflightTuning
    match h.start seat command [.memory []] with
    | (.ok run, h) => (.ok (some run), h)
    | (.error e, h) => (.error (.supervisor e), h)

/-- What the check of a script says when its run is over. -/
def verdict (h : Host) (script : Catalog.Script) (run : Nat) : Except Catalog.CatalogError Unit :=
  match h.report? run, h.observer? run 0 with
  | some report, some (.memory events) =>
    Catalog.Launcher.preflightVerdict script report.outcome events
  | _, _ => .ok ()

/-- Checks a script and waits for what the check says. -/
def check (h : Host) (launcher : Catalog.Launcher) (script : Catalog.Script) :
    Except Catalog.CatalogError Unit × Host :=
  match h.beginCheck launcher script with
  | (.error e, h) => (.error e, h)
  | (.ok none, h) => (.ok (), h)
  | (.ok (some run), h) =>
    let h := h.awaitEnd run
    (h.verdict script run, h)

end Overseer.Host
