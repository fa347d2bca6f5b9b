import Overseer.Catalog.Launcher
import Overseer.Log.Format
import Overseer.Toml.Parser

/-!
# Settings

What can be configured, with what holds when nothing is said, and how the settings are read from a
configuration file.

A field that is not in the file holds by default, one that is not known is passed over, and one of
the wrong type makes the file no good.
-/

namespace Overseer

namespace Toml

mutual

/-- The record that a value describes.  A time is an object of its own kind. -/
def toRecord : Toml → Json
  | .string s => .string s
  | .integer n => .int n
  | .float => .number "0.0"
  | .boolean b => .bool b
  | .time => .object [("time", .null)]
  | .array items => .array (itemsToRecords items)
  | .table fields => .object (fieldsToRecords fields)

/-- The records of items. -/
def itemsToRecords : List Toml → List Json
  | [] => []
  | v :: vs => v.toRecord :: itemsToRecords vs

/-- The records of fields. -/
def fieldsToRecords : List (String × Toml) → List (String × Json)
  | [] => []
  | (name, v) :: fs => (name, v.toRecord) :: fieldsToRecords fs

end

end Toml

/-- Everything that can be configured.  The names say what unit a number counts, since the units
differ. -/
structure Settings where
  timeoutSeconds : Nat
  promptTimeoutSeconds : Nat
  graceMilliseconds : Nat
  pollMilliseconds : Nat
  tailLines : Nat
  patterns : List String
  logDirectory : String
  logFormat : Log.LogFormat
  bind : String
  /-- How many events are kept for a client that reads slowly. -/
  sinkBuffer : Nat
  interpreter : String
  scripts : List Catalog.ScriptEntry
deriving DecidableEq

namespace Settings

/-- The settings when nothing is configured. -/
def default : Settings where
  timeoutSeconds := 600
  promptTimeoutSeconds := 600
  graceMilliseconds := 3000
  pollMilliseconds := 100
  tailLines := 200
  patterns := [Prompt.PromptPatterns.backupSource]
  logDirectory := "~/saturn-logs"
  logFormat := .text
  bind := "127.0.0.1:5000"
  sinkBuffer := 1024
  interpreter := "~/venv/bin/python3"
  scripts := []

/-! ## Reading -/

/-- Changes settings by the record of a section, or leaves them if there is none.  What the section
leaves out keeps its default. -/
def readSection (names : List String) (section? : Option Json) (settings : Settings)
    (read : (String → Option Json) → Option Settings) : Option Settings :=
  match section? with
  | none => some settings
  | some v => do read (← v.recordFields? names)

/-- Reads the section about runs. -/
def readSupervisor (v : Option Json) (s : Settings) : Option Settings :=
  readSection
    ["timeout_secs", "prompt_timeout_secs", "grace_period_millis", "poll_interval_millis",
      "tail_lines"] v s fun field => do
    some { s with
      timeoutSeconds := ← Json.orDefault s.timeoutSeconds Json.asNat64? (field "timeout_secs")
      promptTimeoutSeconds :=
        ← Json.orDefault s.promptTimeoutSeconds Json.asNat64? (field "prompt_timeout_secs")
      graceMilliseconds :=
        ← Json.orDefault s.graceMilliseconds Json.asNat64? (field "grace_period_millis")
      pollMilliseconds :=
        ← Json.orDefault s.pollMilliseconds Json.asNat64? (field "poll_interval_millis")
      tailLines := ← Json.orDefault s.tailLines Json.asNat64? (field "tail_lines") }

/-- Reads the section about prompts. -/
def readPrompt (v : Option Json) (s : Settings) : Option Settings :=
  readSection ["patterns"] v s fun field => do
    some { s with patterns := ← Json.orDefault s.patterns Json.asStrings? (field "patterns") }

/-- The log format that a value names: by its word, or by a table with nothing under the word. -/
def logFormatOf? : Json → Option Log.LogFormat
  | .string word => Log.LogFormat.ofWord? word
  | .object [(word, .object [])] => Log.LogFormat.ofWord? word
  | .object [(word, .array [])] => Log.LogFormat.ofWord? word
  | _ => none

/-- Reads the section about logs. -/
def readLog (v : Option Json) (s : Settings) : Option Settings :=
  readSection ["dir", "format"] v s fun field => do
    some { s with
      logDirectory := ← Json.orDefault s.logDirectory Json.asString? (field "dir")
      logFormat := ← Json.orDefault s.logFormat logFormatOf? (field "format") }

/-- Reads the section about the server. -/
def readServer (v : Option Json) (s : Settings) : Option Settings :=
  readSection ["bind", "sink_buffer"] v s fun field => do
    some { s with
      bind := ← Json.orDefault s.bind Json.asString? (field "bind")
      sinkBuffer := ← Json.orDefault s.sinkBuffer Json.asNat64? (field "sink_buffer") }

/-- Reads the section about Python. -/
def readPython (v : Option Json) (s : Settings) : Option Settings :=
  readSection ["interpreter"] v s fun field => do
    some { s with
      interpreter := ← Json.orDefault s.interpreter Json.asString? (field "interpreter") }

/-- The entries of an array of records. -/
def entriesOf? (v : Json) : Option (List Catalog.ScriptEntry) := do
  (← v.asArray?).mapM Catalog.ScriptEntry.ofRecord?

/-- The settings that a record describes.  Sections are read one after the other, each changing what
the one before it left. -/
def ofRecord? (v : Json) : Option Settings := do
  let field ← v.recordFields? ["supervisor", "prompt", "log", "server", "python", "scripts"]
  let s ← readSupervisor (field "supervisor") default
  let s ← readPrompt (field "prompt") s
  let s ← readLog (field "log") s
  let s ← readServer (field "server") s
  let s ← readPython (field "python") s
  some { s with scripts := ← Json.orDefault [] entriesOf? (field "scripts") }

/-- The settings that the text of a configuration file describes. -/
def parse? (text : String) : Option Settings := do
  ofRecord? (.object (Toml.fieldsToRecords (← Toml.parse? text)))

/-! ## Use -/

/-- The prompt patterns, if all of them can be read. -/
def promptPatterns? (s : Settings) : Option Prompt.PromptPatterns :=
  Prompt.PromptPatterns.compile? s.patterns

/-- How runs are watched.  An interval of zero is taken for one millisecond, and a list with a
pattern that cannot be read gives no tuning. -/
def tuning? (s : Settings) : Option Tuning := do
  some ⟨max s.pollMilliseconds 1, s.graceMilliseconds, s.tailLines, ← s.promptPatterns?⟩

/-- How scripts are launched. -/
def launcher (s : Settings) (home : String) (hasTerminal : Bool) : Catalog.Launcher :=
  ⟨Path.expandHome s.interpreter home, s.timeoutSeconds * 1000, s.promptTimeoutSeconds * 1000,
    hasTerminal⟩

/-- The directory of the run logs. -/
def logDirectoryIn (s : Settings) (home : String) : String := Path.expandHome s.logDirectory home

end Settings

end Overseer
