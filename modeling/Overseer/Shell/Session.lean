import Overseer.Machine.Signal
import Overseer.Shell.Raw
import Overseer.Shell.Syntax

/-!
# Shell Sessions

What a shell remembers between two commands: variables, parameters, functions, options and traps.
All texts are raw.

A child begins with a copy of what its parent remembers, and nothing of what it changes comes back.
-/

namespace Overseer.Shell

/-- A variable.  One that is only marked for the environment has no value yet. -/
structure Variable where
  value : Option String
  exported : Bool
  readonly : Bool
deriving DecidableEq

/-- The options of a shell. -/
structure Options where
  exitOnError : Bool
  requireSet : Bool
  checkOnly : Bool
  noGlob : Bool
  trace : Bool
  /-- A pipeline fails if any of its commands does. -/
  pipeFail : Bool
deriving DecidableEq

/-- No option. -/
def Options.none : Options := ⟨false, false, false, false, false, false⟩

/-- What a shell remembers. -/
structure Session where
  dialect : Dialect
  /-- The name that the shell goes by. -/
  name : String
  parameters : List String
  bindings : List (String × Variable)
  functions : List (String × Statement)
  /-- The status of the last command. -/
  status : Nat
  /-- The last process that was put in the background. -/
  background : Option Nat
  pid : Nat
  options : Options
  /-- What is done on a signal; zero stands for the end of the shell.  Nothing to do means that the
  signal is ignored. -/
  traps : List (Signal × String)
  line : Nat

namespace Session

/-- The variable with a name. -/
def variableNamed? (s : Session) (name : String) : Option Variable :=
  (s.bindings.find? (·.1 == name)).map (·.2)

/-- The value of a variable. -/
def value? (s : Session) (name : String) : Option String := (s.variableNamed? name).bind (·.value)

/-- Puts a variable. -/
def setVariable (s : Session) (name : String) (v : Variable) : Session :=
  if s.bindings.any (·.1 == name) then
    { s with bindings := s.bindings.map fun w => if w.1 == name then (name, v) else w }
  else { s with bindings := s.bindings ++ [(name, v)] }

/-- Gives a variable a value; its marks stay. -/
def assign (s : Session) (name value : String) : Session :=
  let old := (s.variableNamed? name).getD ⟨none, false, false⟩
  s.setVariable name { old with value := some value }

/-- Takes a variable away. -/
def unset (s : Session) (name : String) : Session :=
  { s with bindings := s.bindings.filter (·.1 != name) }

/-- Marks a variable for the environment of programs. -/
def markExported (s : Session) (name : String) : Session :=
  let old := (s.variableNamed? name).getD ⟨none, false, false⟩
  s.setVariable name { old with exported := true }

/-- The environment of the programs that the shell runs. -/
def environment (s : Session) : List (String × String) :=
  s.bindings.filterMap fun (name, v) => if v.exported then v.value.map (name, ·) else none

/-- The letters of the options that are on. -/
def optionLetters (s : Session) : String :=
  (if s.options.exitOnError then "e" else "") ++ (if s.options.noGlob then "f" else "") ++
    (if s.options.requireSet then "u" else "") ++ if s.options.trace then "x" else ""

/-- The characters that separate fields. -/
def separators (s : Session) : List Char :=
  match s.value? "IFS" with
  | some value => value.toList
  | none => if s.bindings.any (·.1 == "IFS") then [] else " \t\n".toList

/-- The value of a parameter: a variable, an argument or a special one. -/
def parameter? (s : Session) (name : String) : Option String :=
  match name with
  | "#" => some (toString s.parameters.length)
  | "?" => some (toString s.status)
  | "-" => some s.optionLetters
  | "$" => some (toString s.pid)
  | "!" => s.background.map toString
  | "0" => some s.name
  | "@" | "*" =>
    if s.parameters.isEmpty then none
    else
      let separator := (s.separators.head?.map String.singleton).getD ""
      some (separator.intercalate s.parameters)
  | _ =>
    match Text.decimal? name.toList with
    | some n => s.parameters[n - 1]?
    | none => s.value? name

/-- What is done on a signal, if something was arranged. -/
def trap? (s : Session) (signal : Signal) : Option String :=
  (s.traps.find? (·.1 == signal)).map (·.2)

/-- The signals that the shell deals with itself. -/
def caught (s : Session) : List Signal :=
  let trapped := s.traps.filterMap fun (signal, action) =>
    if signal != 0 && !action.isEmpty then some signal else none
  if s.dialect = .bash && (s.trap? 0).isSome then
    trapped ++ [Signal.hangup, Signal.interrupt, Signal.terminate]
  else trapped

/-- What stands in front of the complaints of the shell. -/
def complaintStart (s : Session) : String :=
  match s.dialect with
  | .dash => s.name ++ ": " ++ toString s.line ++ ": "
  | .bash => s.name ++ ": line " ++ toString s.line ++ ": "

end Session

end Overseer.Shell
