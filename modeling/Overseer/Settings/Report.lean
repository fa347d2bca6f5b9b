import Overseer.Json.Printer
import Overseer.Settings.Basic

/-!
# Showing Settings

The settings in sections for people, and as a record for programs.

Both forms name the file that the settings come from, or say that there is none.
-/

namespace Overseer.Settings

/-- Where settings come from, or that no file was found. -/
def sourceLabel : Option String → String
  | some path => path
  | none => "(defaults, no .saturn/config.toml found)"

/-- A name and its value on a line. -/
def keyLine (key value : String) : String :=
  "  " ++ key ++ String.ofList (List.replicate (22 - key.length) ' ') ++ " " ++ value ++ "\n"

/-- The lines of a list, or one line that says that it is empty. -/
def listLines (key : String) (lines : List String) : String :=
  if lines.isEmpty then keyLine key "(none)"
  else String.join (lines.map fun line => "  - " ++ line ++ "\n")

/-- A section under its title, with an empty line between it and the next. -/
def sectionText (title body : String) : String := title ++ "\n" ++ body ++ "\n"

/-- An entry of the script list. -/
def scriptLine (e : Catalog.ScriptEntry) : String :=
  "[" ++ e.category ++ "] " ++ e.directory ++ "/" ++ e.filename

/-- The settings in sections. -/
def render (s : Settings) (source : Option String) : String :=
  sectionText "Supervisor"
      (keyLine "timeout" (toString s.timeoutSeconds ++ "s") ++
        keyLine "prompt_timeout" (toString s.promptTimeoutSeconds ++ "s") ++
        keyLine "grace_period" (toString s.graceMilliseconds ++ "ms") ++
        keyLine "poll_interval" (toString s.pollMilliseconds ++ "ms") ++
        keyLine "tail_lines" (toString s.tailLines)) ++
    sectionText "Prompt Patterns" (listLines "patterns" s.patterns) ++
    sectionText "Log" (keyLine "dir" s.logDirectory ++ keyLine "format" s.logFormat.word) ++
    sectionText "Server"
      (keyLine "bind" s.bind ++ keyLine "sink_buffer" (toString s.sinkBuffer)) ++
    sectionText "Python" (keyLine "interpreter" s.interpreter) ++
    sectionText "Scripts" (listLines "entries" (s.scripts.map scriptLine)) ++
    "Source Path\n" ++ keyLine "path" (sourceLabel source)

/-- The record of the settings. -/
def toRecord (s : Settings) : Json :=
  .object [
    ("supervisor", .object [("timeout_secs", .nat s.timeoutSeconds),
      ("prompt_timeout_secs", .nat s.promptTimeoutSeconds),
      ("grace_period_millis", .nat s.graceMilliseconds),
      ("poll_interval_millis", .nat s.pollMilliseconds), ("tail_lines", .nat s.tailLines)]),
    ("prompt", .object [("patterns", .strings s.patterns)]),
    ("log", .object [("dir", .string s.logDirectory), ("format", .string s.logFormat.word)]),
    ("server", .object [("bind", .string s.bind), ("sink_buffer", .nat s.sinkBuffer)]),
    ("python", .object [("interpreter", .string s.interpreter)]),
    ("scripts", .array (s.scripts.map fun e => .object e.toFields))]

/-- The settings and their source as indented text, the fields sorted by name. -/
def renderRecord (s : Settings) (source : Option String) : String :=
  match s.toRecord with
  | .object fields =>
    (Json.object (fields ++ [("source_path", .string (sourceLabel source))])).sorted.renderIndented
  | v => v.sorted.renderIndented

end Overseer.Settings
