import Overseer.Answer

/-!
# Commands

One command of a run: a program with its arguments, never a line for a shell to take apart.

What a command is shown as is another matter: there the words stand side by side, quoted where a
shell would take them for something else, so that whoever reads the line can tell the words apart.
-/

namespace Overseer

/-- A command and the limits of its run.  Times are milliseconds. -/
structure Command where
  program : String
  arguments : List String
  workDirectory : Option String
  /-- Variables added to the environment, later ones replacing earlier ones. -/
  environment : List (String × String)
  timeout : Nat
  promptTimeout : Nat
  /-- The answer to every prompt, if no caller is waited for. -/
  autoAnswer : Option Answer
deriving DecidableEq

namespace Command

/-- The time limit of a run when nothing else is asked for. -/
def defaultTimeout : Nat := 600 * 1000

/-- The time limit for an answer when nothing else is asked for. -/
def defaultPromptTimeout : Nat := 600 * 1000

/-- A command with the usual limits. -/
def new (program : String) (arguments : List String) : Command :=
  ⟨program, arguments, none, [], defaultTimeout, defaultPromptTimeout, none⟩

/-- Whether a character may stand in a word that is shown without quotes. -/
def isPlain (c : Char) : Bool := c.isAlphanum || "-_./=:,+@%".toList.contains c

/-- A character between single quotes.  A quote closes them, stands behind a backslash and opens
them again. -/
def quoteChar (c : Char) : List Char := if c = '\'' then ['\'', '\\', '\'', '\''] else [c]

/-- A word as it is shown: between single quotes unless it is plain.  The empty word is quoted,
since it would not be seen otherwise. -/
def showWord (word : List Char) : List Char :=
  if !word.isEmpty && word.all isPlain then word
  else '\'' :: word.flatMap quoteChar ++ ['\'']

/-- The program and its arguments. -/
def words (command : Command) : List String := command.program :: command.arguments

/-- The command as it is shown to people: its words with a blank between them, each quoted where it
has to be. -/
def display (command : Command) : String :=
  String.ofList ([' '].intercalate (command.words.map fun word => showWord word.toList))

end Command

end Overseer
