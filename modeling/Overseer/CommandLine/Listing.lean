import Overseer.Catalog.Basic
import Overseer.CommandLine.Order

/-!
# Listings

The texts that list scripts, backups and commands.

A list for a reader has its names in one column and what is said of them behind it.  These texts go
to the output of the program and never into the story of a run.
-/

namespace Overseer.CommandLine

namespace Listing

/-- The width of the column of names. -/
def nameWidth : Nat := 28

/-- A text, filled up with blanks to the width of the column of names. -/
def inColumn (s : String) : String :=
  s ++ String.ofList (List.replicate (nameWidth - s.length) ' ')

/-- A text and the end of its line. -/
def line (s : String) : String := s ++ "\n"

/-- The lines of a script: its name, description and version, and its flags if it has any. -/
def ofScript (script : Catalog.Script) : String :=
  let version := match script.version with
    | some version => " (v" ++ version ++ ")"
    | none => ""
  let flags := script.entry.flags
  line ("  " ++ inColumn script.name ++ " " ++ script.entry.description.getD "" ++ version) ++
    if flags.isEmpty then "" else line ("  " ++ inColumn "" ++ " flags: " ++ " ".intercalate flags)

/-- The lines of a category: its name and its scripts. -/
def ofCategory (category : String) (scripts : List Catalog.Script) : String :=
  line category ++ String.join (scripts.map ofScript)

/-- The scripts of a catalog by category, and what was left out. -/
def ofCatalog (catalog : Catalog) : String :=
  (if catalog.scripts.isEmpty then line "No scripts available." else "") ++
    String.join (catalog.grouped.map fun (category, scripts) => ofCategory category scripts) ++
    String.join (catalog.warnings.map fun warning => line ("warning: " ++ warning))

/-- The names of backups. -/
def ofBackups (names : List String) : String :=
  if names.isEmpty then line "No backups found." else String.join (names.map line)

end Listing

/-- The name of the program. -/
def programName : String := "saturn-relay"

/-- The version of the program. -/
def version : String := "0.4.0"

/-- The names of all commands. -/
def commandNames : List String := Order.commands.map (·.1) ++ ["help"]

/-- The help. -/
def helpText : String :=
  Listing.line "Supervised runner for Saturn and piHPSDR update scripts" ++ "\n" ++
    Listing.line ("Usage: " ++ programName ++ " [OPTIONS] <COMMAND>") ++ "\n" ++
    Listing.line "Commands:" ++
    String.join (commandNames.map fun name => Listing.line ("  " ++ name))

/-- What makes a shell complete the names of the commands. -/
def completionText (shell : CompletingShell) : String :=
  let names := " ".intercalate commandNames
  Listing.line <| match shell with
    | .bash => "complete -W \"" ++ names ++ "\" " ++ programName
    | .zsh => "#compdef " ++ programName ++ "\n_arguments \"1:command:(" ++ names ++ ")\""
    | .fish =>
      "complete -c " ++ programName ++ " -n __fish_use_subcommand -a \"" ++ names ++ "\""

end Overseer.CommandLine
