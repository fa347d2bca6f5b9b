import Overseer.Text.Digits

/-!
# Signals

The signals that processes send one another: their numbers, names and descriptions, and what each
does to a process that has made no arrangement for it.

Some signals stop a process and one of them lets it go on; most others end it.  A process may
arrange to ignore a signal or to see to it itself, but not for all of them.
-/

namespace Overseer

/-- A signal, by its number. -/
abbrev Signal := Nat

namespace Signal

/-- What a signal does to a process that has made no arrangement for it. -/
inductive Effect where
  | ends
  | nothing
  | stops
  | continues
deriving DecidableEq

/-- What is known about a signal. -/
structure Entry where
  number : Nat
  name : String
  description : String
  effect : Effect

def hangup : Signal := 1
def interrupt : Signal := 2
def kill : Signal := 9
def brokenPipe : Signal := 13
def terminate : Signal := 15
def continued : Signal := 18
def stop : Signal := 19

/-- All signals. -/
def table : List Entry := [
  ⟨1, "HUP", "Hangup", .ends⟩,
  ⟨2, "INT", "Interrupt", .ends⟩,
  ⟨3, "QUIT", "Quit", .ends⟩,
  ⟨4, "ILL", "Illegal instruction", .ends⟩,
  ⟨5, "TRAP", "Trace/breakpoint trap", .ends⟩,
  ⟨6, "ABRT", "Aborted", .ends⟩,
  ⟨7, "BUS", "Bus error", .ends⟩,
  ⟨8, "FPE", "Floating point exception", .ends⟩,
  ⟨9, "KILL", "Killed", .ends⟩,
  ⟨10, "USR1", "User defined signal 1", .ends⟩,
  ⟨11, "SEGV", "Segmentation fault", .ends⟩,
  ⟨12, "USR2", "User defined signal 2", .ends⟩,
  ⟨13, "PIPE", "Broken pipe", .ends⟩,
  ⟨14, "ALRM", "Alarm clock", .ends⟩,
  ⟨15, "TERM", "Terminated", .ends⟩,
  ⟨16, "STKFLT", "Stack fault", .ends⟩,
  ⟨17, "CHLD", "Child exited", .nothing⟩,
  ⟨18, "CONT", "Continued", .continues⟩,
  ⟨19, "STOP", "Stopped (signal)", .stops⟩,
  ⟨20, "TSTP", "Stopped", .stops⟩,
  ⟨21, "TTIN", "Stopped (tty input)", .stops⟩,
  ⟨22, "TTOU", "Stopped (tty output)", .stops⟩,
  ⟨23, "URG", "Urgent I/O condition", .nothing⟩,
  ⟨24, "XCPU", "CPU time limit exceeded", .ends⟩,
  ⟨25, "XFSZ", "File size limit exceeded", .ends⟩,
  ⟨26, "VTALRM", "Virtual timer expired", .ends⟩,
  ⟨27, "PROF", "Profiling timer expired", .ends⟩,
  ⟨28, "WINCH", "Window changed", .nothing⟩,
  ⟨29, "IO", "I/O possible", .ends⟩,
  ⟨30, "PWR", "Power failure", .ends⟩,
  ⟨31, "SYS", "Bad system call", .ends⟩]

/-- What is known about a signal, if it is one. -/
def numbered? (signal : Signal) : Option Entry := table.find? (·.number == signal)

/-- What a signal does to a process that has made no arrangement for it. -/
def effect (signal : Signal) : Effect := ((numbered? signal).map (·.effect)).getD .ends

/-- The words for a signal. -/
def description (signal : Signal) : String :=
  ((numbered? signal).map (·.description)).getD ("Signal " ++ toString signal)

/-- The signal with a name, which may begin with `SIG`, in letters of either case. -/
def ofName? (name : String) : Option Signal :=
  let upper := name.toList.map Char.toUpper
  let short := if "SIG".toList.isPrefixOf upper then upper.drop 3 else upper
  (table.find? (·.name.toList == short)).map (·.number)

/-- The signal with a number or a name.  Zero stands for no signal. -/
def ofWord? (word : String) : Option Signal :=
  match Text.decimal? word.toList with
  | some n => if n = 0 || (numbered? n).isSome then some n else none
  | none => ofName? word

end Signal

end Overseer
