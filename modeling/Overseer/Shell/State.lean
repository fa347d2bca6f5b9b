import Overseer.Machine.Basic
import Overseer.Shell.Grammar
import Overseer.Shell.Session
import Overseer.Utility.Basic

/-!
# Running Programs

What goes on inside a process: a shell with what it is about to do, or a utility.  A shell is a
machine with a control and a stack of frames that say how to go on.

A step does not call itself: what is left to be done stands in the frames.  So a shell can be
stopped after any step, by a signal or because it has to wait, and go on later.
-/

namespace Overseer.Shell

/-- A redirection whose target is known. -/
structure OpenRequest where
  fd : Nat
  kind : RedirectionKind
  target : String

/-- A simple command whose words are known. -/
structure Invocation where
  fields : List String
  assignments : List (String × String)
  requests : List OpenRequest
  /-- It takes the place of the shell for good. -/
  replaces : Bool

/-- The output of commands that is collected before a statement can begin. -/
structure Collecting where
  statement : Statement
  /-- Commands that have not run yet. -/
  todo : List (List Char)
  /-- The output of commands that have run. -/
  outputs : List (List Char)
  /-- The command that runs: its process and its pipe. -/
  current : Option (Nat × Nat)
  /-- What the running command has written, last byte first. -/
  written : List UInt8

/-- A line that is being read into variables. -/
structure LineReading where
  names : List String
  raw : Bool
  /-- What was read, last character first, and whether it was escaped. -/
  read : List (Char × Bool)
  /-- A backslash waits for its character. -/
  escaping : Bool
  deadline : Option Nat

/-- What is left when a shell goes out of loops and functions. -/
inductive Leaving where
  | loops (count : Nat)
  | rounds (count : Nat)
  | function

/-- What a shell does next. -/
inductive Control where
  /-- Take the next line of the script. -/
  | advance
  | perform (statement : Statement)
  /-- The statement is done; its status is that of the session. -/
  | value
  | collect (c : Collecting)
  /-- Run a command in the place of the shell. -/
  | launch (i : Invocation)
  /-- Wait for the processes of a command; the last one gives the status. -/
  | await (pids : List Nat) (last : Nat)
  /-- Wait for processes in the background. -/
  | waitFor (pids : List Nat) (last : Option Nat)
  | reading (r : LineReading)
  /-- Read the whole script from the input. -/
  | loading (read : List UInt8)
  | leave (what : Leaving)
  | exit
  /-- End as a signal would have it. -/
  | die (signal : Signal)

/-- Where a script comes from, and what follows at its end. -/
inductive ScriptKind where
  /-- The script of the shell itself.  A text that does not come from a file runs its last command
  in the place of the shell. -/
  | main (origin : ScriptOrigin)
  | nested
  /-- A script of its own whose parameters replace those of the session. -/
  | file (parameters : List String)
  /-- What is done on a signal: the status and the control that were interrupted. -/
  | trap (status : Nat) (control : Control)
  /-- What is done at the end, with the status that the shell ends with. -/
  | final (status : Nat)
  /-- What is done before a signal ends the shell. -/
  | dying (signal : Signal)

/-- How to go on when a statement is done. -/
inductive Frame where
  | script (source : Source) (kind : ScriptKind)
  | sequence (rest : List Statement)
  | both (right : Statement)
  | either (right : Statement)
  | negate
  | choice (consequence : Statement) (alternative : Option Statement)
  /-- The status of the last round is kept. -/
  | condition (whileTrue : Bool) (condition body : Statement) (last : Nat)
  | round (whileTrue : Bool) (condition body : Statement)
  | each (name : String) (values : List String) (body : Statement)
  /-- Undo redirections: what was open under a number is kept under another, or nothing was. -/
  | restore (saved : List (Nat × Option Nat))
  /-- Undo assignments. -/
  | assigned (saved : List (String × Option Variable))
  /-- The end of a function: the parameters before it and the variables that were local to it. -/
  | call (parameters : List String) (locals : List (String × Option Variable))

end Overseer.Shell

namespace Overseer

/-- A shell. -/
structure Shell where
  session : Shell.Session
  control : Shell.Control
  frames : List Shell.Frame
  /-- What is still to be written, and where. -/
  output : List (Nat × List UInt8)
  /-- The processes in the background that were not waited for. -/
  jobs : List Nat

end Overseer


namespace Overseer.Utility

/-- Where a utility reads from. -/
inductive Input where
  | standard
  | file (path : String)
deriving DecidableEq

/-- What a utility does next. -/
inductive Progress where
  | finished (status : Nat)
  /-- Wait until the time has come. -/
  | sleeping (deadline : Nat)
  /-- Copy the inputs to what is open under some numbers. -/
  | copying (inputs : List Input) (targets : List Nat) (status : Nat)
  /-- Read the inputs, and then do what the arguments say. -/
  | gathering (arguments : List String) (inputs : List Input) (read : List (List UInt8))
  /-- Write the same bytes for ever. -/
  | repeating (bytes : List UInt8)

/-- A utility as it runs. -/
structure Program where
  /-- What is still to be written, and where. -/
  output : List (Nat × List UInt8)
  progress : Progress

end Overseer.Utility

namespace Overseer

/-- What goes on inside a process. -/
inductive Body where
  | shell (s : Shell)
  | utility (p : Utility.Program)

/-- The machine with the programs that run on it. -/
abbrev Computer := Machine Body

end Overseer
