import Overseer.FileTree.Basic
import Overseer.Json.Record
import Overseer.Supervisor.Basic
import Overseer.Text.Blank
import Overseer.Text.Parts
import Overseer.Text.Utf8

/-!
# The Script Catalog

The scripts that may be run.  Every entry is checked against the files: the script must be a file,
executable unless it is a page, and lie in a trusted directory.  An entry that fails a check
becomes a warning.

The checks are made in a fixed order and the first that fails is reported, with the file that the
entry names.  A trusted directory counts with all links followed, and so does the path of the
script; where either of them leads nowhere, the path as it is written stands in for it.
-/

namespace Overseer.Catalog

/-- Why a script could not be found, checked or run, or its backups not be listed.  The text of an
error is what a caller is shown. -/
inductive CatalogError where
  | unknownScript (key : String)
  | notRunnable (name : String)
  | missing (path : String)
  | preflight (script output : String)
  | invalidBackupKind (kind : String)
  | supervisor (e : StartError)
  | io (reason : String)
deriving DecidableEq

/-- The text of an error. -/
def CatalogError.message : CatalogError → String
  | .unknownScript key => "script not found in catalog: " ++ key
  | .notRunnable name => name ++ " is a view, not a runnable script"
  | .missing path => "script path is no longer a file: " ++ path
  | .preflight script output => "syntax check failed for " ++ script ++ ":\n" ++ output
  | .invalidBackupKind kind =>
    "invalid backup type " ++ Text.quoted kind ++ " (expected pihpsdr or saturn)"
  | .supervisor e => e.message
  | .io reason => reason

/-- One script as it is configured.  Nothing in it was looked at yet, so it may name what is not
there. -/
structure ScriptEntry where
  name : Option String
  directory : String
  filename : String
  category : String
  flags : List String
  description : Option String
deriving DecidableEq

namespace ScriptEntry

/-- The category of scripts that name none. -/
def defaultCategory : String := "Uncategorized"

/-- The names of the fields of an entry. -/
def fieldNames : List String :=
  ["name", "directory", "filename", "category", "flags", "description"]

/-- The entry that a record describes. -/
def ofRecord? (v : Json) : Option ScriptEntry := do
  let field ← v.recordFields? fieldNames
  some {
    name := ← Json.optional Json.asString? (field "name")
    directory := ← Json.required Json.asString? (field "directory")
    filename := ← Json.required Json.asString? (field "filename")
    category := ← Json.orDefault defaultCategory Json.asString? (field "category")
    flags := ← Json.orDefault [] Json.asStrings? (field "flags")
    description := ← Json.optional Json.asString? (field "description") }

/-- The fields of the record of an entry. -/
def toFields (e : ScriptEntry) : List (String × Json) :=
  [("name", .ofOption e.name), ("directory", .string e.directory), ("filename", .string e.filename),
    ("category", .string e.category), ("flags", .strings e.flags),
    ("description", .ofOption e.description)]

end ScriptEntry

/-- How a script is launched.  The kind is read off the end of the file name, never off the file. -/
inductive ScriptKind where
  | shell
  | python
  /-- A page that is shown and never run. -/
  | view
  | executable
deriving DecidableEq

namespace ScriptKind

/-- Whether a text ends with another. -/
def endsWith (s ending : String) : Bool := ending.toList.isSuffixOf s.toList

/-- The kind of a script with a file name. -/
def ofFilename (filename : String) : ScriptKind :=
  if endsWith filename ".sh" then .shell
  else if endsWith filename ".py" then .python
  else if endsWith filename ".html" then .view
  else .executable

/-- The word for a kind. -/
def word : ScriptKind → String
  | .shell => "shell"
  | .python => "python"
  | .view => "view"
  | .executable => "executable"

end ScriptKind

/-- A script that passed the checks.  The path is the one the entry names, with its links. -/
structure Script where
  entry : ScriptEntry
  path : String
  kind : ScriptKind
  version : Option String
deriving DecidableEq

namespace Script

/-- The name that a script is shown under. -/
def name (script : Script) : String := script.entry.name.getD script.entry.filename

/-- The record of a script. -/
def toRecord (script : Script) : Json :=
  .object (script.entry.toFields ++ [("path", .string script.path),
    ("kind", .string script.kind.word), ("version", .ofOption script.version)])

end Script

/-! ## Versions -/

/-- What stands in front of the version of a script. -/
def versionMarker : List Char := "# Version:".toList

/-- The version in a line. -/
def versionInLine (line : List Char) : Option String :=
  if versionMarker.isPrefixOf line then
    some (String.ofList (Text.trim (line.drop versionMarker.length)))
  else none

/-- The lines of a file, none for what follows the last newline if that is nothing. -/
def fileLines (content : List UInt8) : List (List UInt8) :=
  let (lines, rest) := Text.endedParts (· == 0x0A) content
  if rest.isEmpty then lines else lines ++ [rest]

/-- The first version in a file, among the lines in front of the first that is no text.  A script
may be binary from some line on. -/
def versionIn (content : List UInt8) : Option String :=
  let lines := (fileLines content).map Text.decode?
  (lines.takeWhile Option.isSome).findSome? fun line => line.bind versionInLine

/-! ## Catalogs -/

/-- Why an entry is left out.  Of several reasons the first one in this order is told. -/
inductive Rejection where
  | notFile
  | notExecutable
  | untrusted
deriving DecidableEq

/-- The words for a rejection. -/
def Rejection.reason : Rejection → String
  | .notFile => "not a file"
  | .notExecutable => "not executable"
  | .untrusted => "outside trusted directories"

end Overseer.Catalog

namespace Overseer

/-- The scripts of a catalog and what was left out.  Each entry of the settings is in one of the
two, in the order of the entries. -/
structure Catalog where
  scripts : List Catalog.Script
  warnings : List String
deriving DecidableEq

namespace Catalog

/-- A catalog without scripts. -/
def empty : Catalog := ⟨[], []⟩

/-- The path without links, or as it is if it leads nowhere. -/
def realPath (tree : FileTree) (directory : Place) (path : String) : String :=
  match tree.canonical directory path with
  | .ok real => real
  | .error _ => path

/-- The script of an entry, if it passes the checks.  Paths that do not begin at the root begin in
`directory`. -/
def check (tree : FileTree) (directory : Place) (home : String) (entry : ScriptEntry) :
    Except Rejection Script :=
  let path := Path.join (Path.expandHome entry.directory home) entry.filename
  let kind := ScriptKind.ofFilename entry.filename
  -- The path is compared without its links, so the directories have to be, too.
  let trusted := (Path.trustedDirectories home).map (realPath tree directory)
  if !tree.isFile directory path then .error .notFile
  else if kind != .view && !tree.isExecutable directory path then .error .notExecutable
  else if !Path.isTrusted (realPath tree directory path) trusted then .error .untrusted
  else
    .ok {
      entry
      path
      kind
      -- A page has no version, and what cannot be read has none either.
      version := if kind = .view then none
        else
          match tree.read directory path with
          | .ok content => versionIn content
          | .error _ => none }

/-- Adds what became of an entry. -/
def add (catalog : Catalog) (entry : ScriptEntry) : Except Rejection Script → Catalog
  | .ok script => { catalog with scripts := catalog.scripts ++ [script] }
  | .error why =>
    { catalog with
      warnings := catalog.warnings ++ ["Skipped " ++ entry.filename ++ ": " ++ why.reason] }

/-- The catalog of some entries. -/
def load (tree : FileTree) (directory : Place) (home : String) (entries : List ScriptEntry) :
    Catalog :=
  entries.foldl (fun catalog entry => catalog.add entry (check tree directory home entry)) empty

/-- The first script with a file name or a name.  A later script of the same name cannot be reached
by it. -/
def find (catalog : Catalog) (key : String) : Except CatalogError Script :=
  match catalog.scripts.find? fun script => script.entry.filename == key || script.name == key with
  | some script => .ok script
  | none => .error (.unknownScript key)

/-- Adds a script to the group of its category; groups are in ascending order of their names. -/
def addToGroup (script : Script) : List (String × List Script) → List (String × List Script)
  | [] => [(script.entry.category, [script])]
  | (category, scripts) :: groups =>
    if script.entry.category = category then (category, scripts ++ [script]) :: groups
    else if script.entry.category < category then
      (script.entry.category, [script]) :: (category, scripts) :: groups
    else (category, scripts) :: addToGroup script groups

/-- The scripts by category, the categories in ascending order. -/
def grouped (catalog : Catalog) : List (String × List Script) :=
  catalog.scripts.foldl (fun groups script => addToGroup script groups) []

/-- The record of the scripts by category. -/
def groupedRecord (catalog : Catalog) : Json :=
  .object (catalog.grouped.map fun (category, scripts) =>
    (category, .array (scripts.map Script.toRecord)))

/-- The record of a catalog. -/
def toRecord (catalog : Catalog) : Json :=
  .object [("scripts", .array (catalog.scripts.map Script.toRecord)),
    ("warnings", .strings catalog.warnings)]

end Catalog

end Overseer
