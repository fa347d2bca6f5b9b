import Overseer.Answer
import Overseer.Catalog.Backups
import Overseer.CommandLine.Form
import Overseer.Text.Digits

/-!
# Orders

The commands of the command line and what they are given.

Each command has a form, which says which options and words it takes, and a reader that makes an
order of what the form let through.  A command line that fits no form is refused before anything is
looked up.
-/

namespace Overseer.CommandLine

/-- A shell that can complete command lines. -/
inductive CompletingShell where
  | bash
  | zsh
  | fish
deriving DecidableEq

/-- The shell with a word. -/
def CompletingShell.ofWord? : String → Option CompletingShell
  | "bash" => some .bash
  | "zsh" => some .zsh
  | "fish" => some .fish
  | _ => none

/-- What the command line asks for.  Time limits are seconds. -/
inductive Order where
  /-- Run a script of the catalog. -/
  | run (script : String) (flags : List String) (backupDirectory : Option String)
    (skipCheck : Bool)
  /-- Run a program. -/
  | execute (program : String) (arguments : List String) (answer : Option Answer)
    (timeout promptTimeout : Option Nat)
  | serve (bind : Option String)
  | listScripts (asRecord : Bool)
  | listBackups (kind : Catalog.BackupKind)
  | showSettings (asRecord : Bool)
  | showCompletions (shell : CompletingShell)
deriving DecidableEq

namespace Order

/-! ## Forms -/

/-- The number of seconds that a word stands for: digits, with a plus sign or without one, for a
number below 2^64. -/
def seconds? (word : String) : Option Nat :=
  let digits := match word.toList with
    | '+' :: s => s
    | s => s
  (Text.decimal? digits).filter (· < Nat.pow 2 64)

/-- The product that a word stands for. -/
def backupKind? (word : String) : Option Catalog.BackupKind :=
  (Catalog.BackupKind.ofWord word).toOption

/-- A switch. -/
def switch (name : String) : OptionForm := ⟨name, none, .switch⟩

/-- An option with a value. -/
def option (name : String) (accepts : String → Bool) : OptionForm := ⟨name, none, .value accepts⟩

/-- Accepts every word. -/
def anyWord : String → Bool := fun _ => true

/-- The form of `run`. -/
def runForm : Form := ⟨[option "backup-dir" anyWord, switch "skip-check"], [anyWord], true⟩

/-- The form of `exec`. -/
def executeForm : Form :=
  ⟨[switch "yes", switch "no", option "timeout" fun word => (seconds? word).isSome,
    option "prompt-timeout" fun word => (seconds? word).isSome], [], true⟩

/-- The form of `serve`. -/
def serveForm : Form := ⟨[option "bind" anyWord], [], false⟩

/-- The form of `scripts` and `config`. -/
def listingForm : Form := ⟨[switch "json"], [], false⟩

/-- The form of `backups`. -/
def backupsForm : Form := ⟨[], [fun word => (backupKind? word).isSome], false⟩

/-- The form of `completions`. -/
def completionsForm : Form := ⟨[], [fun word => (CompletingShell.ofWord? word).isSome], false⟩

/-! ## Reading -/

/-- The order of `run`. -/
def readRun (words : List String) : Except Refusal Order := do
  let r ← runForm.read words
  match r.words with
  | script :: _ => .ok (.run script r.rest (r.value? "backup-dir") (r.has "skip-check"))
  | [] => .error .misuse

/-- The order of `exec`.  The two answers exclude each other, and there must be a program. -/
def readExecute (words : List String) : Except Refusal Order := do
  let r ← executeForm.read words
  let answer ← match r.has "yes", r.has "no" with
    | true, true => .error .misuse
    | true, false => .ok (some .yes)
    | false, true => .ok (some .no)
    | false, false => .ok none
  match r.rest with
  | program :: arguments =>
    .ok (.execute program arguments answer ((r.value? "timeout").bind seconds?)
      ((r.value? "prompt-timeout").bind seconds?))
  | [] => .error .misuse

/-- The order of `serve`. -/
def readServe (words : List String) : Except Refusal Order := do
  let r ← serveForm.read words
  .ok (.serve (r.value? "bind"))

/-- The order of `scripts`. -/
def readListScripts (words : List String) : Except Refusal Order := do
  let r ← listingForm.read words
  .ok (.listScripts (r.has "json"))

/-- The order of `config`. -/
def readShowSettings (words : List String) : Except Refusal Order := do
  let r ← listingForm.read words
  .ok (.showSettings (r.has "json"))

/-- The order of `backups`. -/
def readListBackups (words : List String) : Except Refusal Order := do
  let r ← backupsForm.read words
  match r.words.head?.bind backupKind? with
  | some kind => .ok (.listBackups kind)
  | none => .error .misuse

/-- The order of `completions`. -/
def readShowCompletions (words : List String) : Except Refusal Order := do
  let r ← completionsForm.read words
  match r.words.head?.bind CompletingShell.ofWord? with
  | some shell => .ok (.showCompletions shell)
  | none => .error .misuse

/-- The commands and how what stands behind them is read. -/
def commands : List (String × (List String → Except Refusal Order)) :=
  [("run", readRun), ("exec", readExecute), ("serve", readServe), ("scripts", readListScripts),
    ("backups", readListBackups), ("config", readShowSettings),
    ("completions", readShowCompletions)]

/-- Asks for help with a command, or with all of them. -/
def readHelp (words : List String) : Refusal :=
  match words with
  | [] => .help
  | [word] => if word == "help" || commands.any (·.1 == word) then .help else .misuse
  | _ => .misuse

/-- The form of what stands in front of the command. -/
def frontForm : Form := ⟨[⟨"version", some 'V', .stop .version⟩], [], false⟩

/-- The order that a command line gives: options, a command, and what the command is given. -/
def ofWords (words : List String) : Except Refusal Order := do
  let front := words.takeWhile Form.looksLikeOption
  let r ← frontForm.read front
  if r.behindMark then .error .misuse
  else
    match words.drop front.length with
    | [] => .error .misuse
    | name :: words =>
      if name == "help" then .error (readHelp words)
      else
        match commands.find? (·.1 == name) with
        | some (_, readOrder) => readOrder words
        | none => .error .misuse

end Order

end Overseer.CommandLine
