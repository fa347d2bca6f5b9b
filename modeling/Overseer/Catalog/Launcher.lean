import Overseer.Catalog.Basic
import Overseer.Command.Basic

/-!
# Launching Scripts

The commands that run a script of the catalog and that check its syntax, and what the check says.

A script is run by what its kind calls for: by a shell, by the interpreter of the settings, or by
itself.  It runs in its own directory and is told by the environment not to hold its output back.  A
script that answers its own prompts says so by a flag, and then the command brings that answer
along.
-/

namespace Overseer.Catalog

/-- How scripts are launched.  Times are milliseconds. -/
structure Launcher where
  /-- The interpreter of Python scripts. -/
  python : String
  timeout : Nat
  promptTimeout : Nat
  /-- Whether the environment names a terminal. -/
  hasTerminal : Bool
deriving DecidableEq

/-- The answer that a script's own arguments imply: that of the first `-y` or `-n`.  Any argument
counts, be it a flag or the value of one. -/
def autoAnswerFor (arguments : List String) : Option Answer :=
  arguments.findSome? fun argument =>
    if argument = "-y" then some .yes else if argument = "-n" then some .no else none

namespace Launcher

/-- The time limit of a syntax check. -/
def preflightTimeout : Nat := 10 * 1000

/-- The variables that every script is launched with. -/
def environment (launcher : Launcher) : List (String × String) :=
  ("PYTHONUNBUFFERED", "1") :: if launcher.hasTerminal then [] else [("TERM", "dumb")]

/-- The flags of a run and, unless it is empty, the backup directory.  The directory comes behind
its own flag, as one more argument. -/
def arguments (flags : List String) (backupDirectory : Option String) : List String :=
  match backupDirectory with
  | none => flags
  | some directory => if directory.isEmpty then flags else flags ++ ["--backup-dir", directory]

/-- The program and the arguments that run a script; a page has none. -/
def invocation? (launcher : Launcher) (script : Script) (arguments : List String) :
    Option (String × List String) :=
  match script.kind with
  | .shell => some ("bash", script.path :: arguments)
  | .python => some (launcher.python, script.path :: arguments)
  | .executable => some (script.path, arguments)
  | .view => none

/-- The command that runs a script.  It runs in the directory that the path of the script names, and
names the script by the same path. -/
def command (launcher : Launcher) (tree : FileTree) (directory : Place) (script : Script)
    (flags : List String) (backupDirectory : Option String) : Except CatalogError Command :=
  let arguments := arguments flags backupDirectory
  if !tree.isFile directory script.path then .error (.missing script.path)
  else
    match launcher.invocation? script arguments with
    | none => .error (.notRunnable script.name)
    | some (program, words) =>
      .ok {
        program
        arguments := words
        -- The directory above a lone name is the empty path, which leads nowhere.
        workDirectory := Path.parent? script.path
        environment := launcher.environment
        timeout := launcher.timeout
        promptTimeout := launcher.promptTimeout
        autoAnswer := autoAnswerFor arguments }

/-- The command that checks the syntax of a script, if there is one for its kind. -/
def preflightCommand? (launcher : Launcher) (script : Script) : Option Command :=
  let checked (program : String) (arguments : List String) : Command :=
    { Command.new program arguments with
      environment := launcher.environment
      timeout := preflightTimeout }
  match script.kind with
  | .shell => some (checked "bash" ["-n", script.path])
  | .python => some (checked launcher.python ["-m", "py_compile", script.path])
  | .view | .executable => none

/-- The tuning of the supervisor that runs a syntax check: no prompt is looked for. -/
def preflightTuning : Tuning := { Tuning.standard with patterns := Prompt.PromptPatterns.none }

/-- The lines of output among events. -/
def outputLines (events : List Event) : List String :=
  events.filterMap fun e => match e with
    | .output line => some line
    | _ => none

/-- What a syntax check says, by its outcome and its events.  A check that failed without a line of
output is told by its outcome. -/
def preflightVerdict (script : Script) (outcome : Outcome) (events : List Event) :
    Except CatalogError Unit :=
  if outcome.isSuccess then .ok ()
  else
    let output := "\n".intercalate (outputLines events)
    .error (.preflight script.name (if output.isEmpty then outcome.describe else output))

end Launcher

end Overseer.Catalog
