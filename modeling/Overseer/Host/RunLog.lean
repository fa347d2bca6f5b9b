import Overseer.Host.Basic

/-!
# Run Logs

Every run may leave a log file of its own in a directory of logs, named for the moment at which the
run began.

A log that cannot be opened is left out, and the run goes on without it.
-/

namespace Overseer.Host

/-- What the names of run logs begin with. -/
def runLogStem : String := "saturn-update-manager"

/-- Opens the log of a run that begins now.  A log that cannot be opened is done without. -/
def openRunLog (h : Host) (directory : String) (format : Log.LogFormat) : List Observer × Host :=
  let m := h.machine
  match Log.LogFile.openTimed m.tree h.directory m.moment directory runLogStem format with
  | .error _ => ([], h)
  | .ok (file, tree) => ([.log file], { h with machine := { m with tree } })

/-- The content of all files in a directory of logs, in the order of their names. -/
def logsIn (h : Host) (directory : String) : List UInt8 :=
  match h.machine.tree.list h.directory directory with
  | .error _ => []
  | .ok entries =>
    (entries.mergeSort fun a b => decide (a.1 ≤ b.1)).flatMap fun (_, node) => match node.entry with
      | .file content => content
      | _ => []

end Overseer.Host
