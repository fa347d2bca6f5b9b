import Overseer.FileTree.Basic
import Overseer.Log.Format
import Overseer.Sink.Basic

/-!
# Log Files

A log file takes the entry of each event at its end and never changes what stands in it already.
An open log keeps what it wrote until that is put into its file.  That the medium is full or taken
away meanwhile is left out: writing always succeeds here.
-/

namespace Overseer.Log

/-- Why a log file could not be opened. -/
inductive LogError where
  | noDirectory (path : String)
  | unopened (path : String)
deriving DecidableEq

/-- The text of an error. -/
def LogError.message : LogError → String
  | .noDirectory path => "failed to create log directory: " ++ path
  | .unopened path => "failed to open log file: " ++ path

/-- An open log file.  `moment` is the time of the next entry, where the log is kept.  What was
written stays here until it is put into the file. -/
structure LogFile where
  path : String
  /-- Where the file stands in the file tree. -/
  place : Place
  format : LogFormat
  moment : Moment
  /-- What was written so far. -/
  written : List UInt8

namespace LogFile

/-- Opens a log file; it and the directories it lies in are made if they are missing.  What the file
holds already stays there. -/
def openAt (tree : FileTree) (directory : Place) (moment : Moment) (path : String)
    (format : LogFormat) : Except LogError (LogFile × FileTree) := do
  let tree ← match Path.parent? path with
    | none => .ok tree
    | some up =>
      match tree.makeDirectories moment.sinceEpoch directory up with
      | .ok tree => .ok tree
      | .error _ => .error (.noDirectory up)
  match tree.target directory path with
  | .error _ => .error (.unopened path)
  | .ok place => .ok (⟨path, place, format, moment, []⟩, tree.write moment.sinceEpoch place id)

/-- The name of a log file that is opened at a moment. -/
def timedName (stem : String) (moment : Moment) : String :=
  stem ++ "-" ++ (Timestamp.ofMoment moment).nameText ++ ".log"

/-- Opens a log file in a directory, named for the moment. -/
def openTimed (tree : FileTree) (directory : Place) (moment : Moment) (path stem : String)
    (format : LogFormat) : Except LogError (LogFile × FileTree) :=
  LogFile.openAt tree directory moment (Path.join path (timedName stem moment)) format

/-- The line of an event. -/
def line (log : LogFile) (e : Event) : String :=
  log.format.entry (Timestamp.ofMoment log.moment) e ++ "\n"

/-- Writes the entry of an event.  This never fails: nothing in the model takes the file away from a
log that is open. -/
def publish (log : LogFile) (e : Event) : Delivery × LogFile :=
  (.delivered, { log with written := log.written ++ (log.line e).toUTF8.toList })

/-- The word for the sink in warnings. -/
def name : String := "log"

/-- Puts what was written behind what the file held before. -/
def save (log : LogFile) (tree : FileTree) : FileTree :=
  tree.write log.moment.sinceEpoch log.place fun content => content ++ log.written

end LogFile

end Overseer.Log
