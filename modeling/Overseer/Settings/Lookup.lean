import Overseer.FileTree.Basic
import Overseer.Settings.Basic

/-!
# Finding Settings

The settings come from the configuration file of the nearest directory that has one, going up from
where the search starts, then from that of the home directory, and else hold by default.  A file
that was chosen and is no good is an error and never passed over.

What a file says, and which texts are patterns, is the matter of a format; what is a file, and what
it holds, is asked of the files at hand.  The program has its own format and the files of its tree.

- `Settings.loadFrom`: the settings that hold, in any format and with any files
- `Settings.load`: the settings of the program
-/

namespace Overseer.Settings

/-- Why the settings could not be loaded.  Each error names the file that was chosen, so that it is
known which one is to be mended. -/
inductive SettingsError where
  | unreadable (path : String)
  | malformed (path : String)
  | invalidPattern (path : String)
deriving DecidableEq

/-- The text of an error. -/
def SettingsError.message : SettingsError → String
  | .unreadable path => "failed to read " ++ path
  | .malformed path => "failed to parse " ++ path
  | .invalidPattern path => "invalid [prompt] patterns in " ++ path

/-- How settings are written: what the text of a configuration file says, unless it is no such
text, and the dialect of its patterns. -/
structure Format where
  parse? : String → Option Settings
  dialect : Prompt.Dialect

/-- The format of the program. -/
def Format.standard : Format := ⟨Settings.parse?, .standard⟩

/-- What can be asked of files: whether a path leads to one, and what is read there. -/
structure Files where
  isFile : String → Bool
  read : String → Except FileError (List UInt8)

/-- The files of a tree, as they are found from a directory. -/
def Files.ofTree (tree : FileTree) (directory : Place) : Files :=
  ⟨tree.isFile directory, tree.read directory⟩

/-- The configuration file of a directory.  Whether there is one is another question. -/
def fileIn (directory : String) : String :=
  Path.join (Path.join directory ".saturn") "config.toml"

/-- The configuration file that is used, if there is one: that of the nearest directory above the
start that has one, and else that of the home. -/
def choose? (isFile : String → Bool) (start : String) (home : Option String) : Option String :=
  -- The home comes last, and may have been asked already as a directory above the start.
  ((Path.ancestors start ++ home.toList).map fileIn).find? isFile

/-- The settings that a chosen file holds.  Its bytes must be a text, the text must be one of the
format, and every pattern in it must be one of the dialect. -/
def loadFile (format : Format) (path : String) (content : Except FileError (List UInt8)) :
    Except SettingsError Settings :=
  match content.toOption.bind Text.decode? with
  | none => .error (.unreadable path)
  | some text =>
    match format.parse? (String.ofList text) with
    | none => .error (.malformed path)
    | some settings =>
      if (Prompt.PromptPatterns.compileIn? format.dialect settings.patterns).isSome then
        .ok settings
      else .error (.invalidPattern path)

/-- The settings that hold, and the file they come from.  Only the chosen file is read, so one that
is no good hides those behind it. -/
def loadFrom (format : Format) (files : Files) (start : String) (home : Option String) :
    Except SettingsError (Settings × Option String) :=
  match choose? files.isFile start home with
  | none => .ok (default, none)
  | some path => (loadFile format path (files.read path)).map (·, some path)

/-- The settings of the program, from the files of a tree. -/
def load (tree : FileTree) (directory : Place) (start : String) (home : Option String) :
    Except SettingsError (Settings × Option String) :=
  loadFrom .standard (.ofTree tree directory) start home

end Overseer.Settings
