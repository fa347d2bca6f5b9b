import Overseer.Shell.Scene

/-!
# Commands of the Shell Itself

The commands that a shell carries out without another program, because they read or change what the
shell remembers.

A command yields the scene behind it and the signals to be sent.  The signals are sent when the step
is over, since one of them may be meant for the shell itself.
-/

namespace Overseer.Shell

/-- A signal that is sent when a step is over: to a process or to a group. -/
structure Sending where
  toGroup : Bool
  target : Nat
  signal : Signal

/-- A command that was carried out, and the signals it sends. -/
structure Performed where
  scene : Scene
  sendings : List Sending

/-- A command that sends no signals. -/
def Scene.done (s : Scene) : Performed := ⟨s, []⟩

namespace Builtin

/-- The commands over whose failure the small shell ends. -/
def special : List String :=
  [":", ".", "break", "continue", "eval", "exec", "exit", "export", "readonly", "return", "set",
    "shift", "times", "trap", "unset"]

/-- The other commands of the shell itself. -/
def regular (dialect : Dialect) : List String :=
  let common := ["[", "alias", "cd", "command", "echo", "false", "hash", "jobs", "kill", "local",
    "printf", "pwd", "read", "test", "true", "type", "ulimit", "umask", "unalias", "wait"]
  match dialect with
  | .dash => common
  | .bash => ["builtin", "declare", "disown", "let", "shopt", "source", "typeset"] ++ common

/-- Whether a name is that of a command of the shell itself. -/
def isBuiltin (dialect : Dialect) (name : String) : Bool :=
  special.contains name || (regular dialect).contains name

/-- The flavour of the utilities that a shell brings along. -/
def flavour : Dialect → Utility.Flavour
  | .dash => .dash
  | .bash => .bash

/-- Fails with a complaint.  The small shell ends over a special command, and gives it the status
two. -/
def fail (s : Scene) (name message : String) : Performed :=
  let s := s.complain (name ++ ": " ++ message)
  match s.session.dialect with
  | .dash => if special.contains name then (s.quit 2).done else (s.value 2).done
  | .bash => (s.value 1).done

/-- The status that an argument writes. -/
def status? (dialect : Dialect) (word : String) : Option Nat :=
  match Text.decimal? word.toList with
  | some n => some (n % 256)
  | none =>
    match dialect with
    | .dash => none
    | .bash => word.toInt?.map fun n => (n % 256).toNat

/-- The complaint about an argument that is no number. -/
def noNumber (dialect : Dialect) (word : String) : String :=
  match dialect with
  | .dash => "Illegal number: " ++ word
  | .bash => word ++ ": numeric argument required"

/-- The status that a shell ends with if none is given: on a signal or at the end it is the status
from before. -/
def currentStatus (s : Scene) : Nat :=
  let before := s.shell.frames.findSome? fun f => match f with
    | .script _ (.trap status _) | .script _ (.final status) => some status
    | _ => none
  before.getD s.session.status

/-- Ends the shell. -/
def exitShell (s : Scene) (arguments : List String) : Performed :=
  match arguments with
  | [] => (s.quit (currentStatus s)).done
  | word :: _ =>
    match status? s.session.dialect word with
    | some n => (s.quit n).done
    | none =>
      ((s.complain ("exit: " ++ noNumber s.session.dialect word)).quit 2).done

/-- Leaves a function or a script of its own. -/
def returnFrom (s : Scene) (arguments : List String) : Performed :=
  let leave (n : Nat) : Performed :=
    ((s.mapSession fun t => { t with status := n }).control (.leave .function)).done
  let isInside := s.shell.frames.any fun f => match f with
    | .call .. | .script _ (.file _) => true
    | _ => false
  if s.session.dialect = .bash && !isInside then
    let place := "can only \x60return' from a function or sourced script"
    ((s.complain ("return: " ++ place)).value 2).done
  else
    match arguments with
    | [] => leave s.session.status
    | word :: _ =>
      match status? s.session.dialect word with
      | some n => leave n
      | none => fail s "return" (noNumber s.session.dialect word)

/-- How many loops go on here, up to the function or script that holds them. -/
def loopCount : List Frame → Nat
  | [] => 0
  | .condition .. :: rest | .round .. :: rest | .each .. :: rest => loopCount rest + 1
  | .script _ .nested :: rest => loopCount rest
  | .script .. :: _ | .call .. :: _ => 0
  | _ :: rest => loopCount rest

/-- Leaves loops, or their present rounds. -/
def leaveLoops (s : Scene) (name : String) (arguments : List String) : Performed :=
  let s := s.mapSession fun t => { t with status := 0 }
  let count := loopCount s.shell.frames
  match Text.decimal? (arguments.headD "1").toList with
  | some (n + 1) =>
    if count = 0 then
      match s.session.dialect with
      | .dash => (s.value 0).done
      | .bash =>
        let error := name ++ ": only meaningful in a `for', `while', or `until' loop"
        ((s.complain error).value 0).done
    else
      let n := min (n + 1) count
      (s.control (.leave (if name = "break" then .loops n else .rounds n))).done
  | _ => fail s name (noNumber s.session.dialect (arguments.headD ""))

/-- A path without dots and double slashes, as it is written. -/
def cleanPath (path : String) : String :=
  let names := (Path.names path).foldl (fun (kept : List String) name =>
    if name = ".." then kept.dropLast else kept ++ [name]) []
  FileTree.pathOf names

/-- Goes to another directory. -/
def changeDirectory (s : Scene) (arguments : List String) : Performed :=
  let arguments := arguments.filter fun a => a != "-P" && a != "-L" && a != "--"
  let target? := match arguments with
    | [] => s.session.value? "HOME"
    | "-" :: _ => s.session.value? "OLDPWD"
    | path :: _ => some path
  match target? with
  | none =>
    match s.session.dialect with
    | .bash => fail s "cd" (if arguments.isEmpty then "HOME not set" else "OLDPWD not set")
    | .dash => (s.value 0).done
  | some target =>
    match s.machine.tree.resolve s.process.directory
        (Raw.toText (if target.isEmpty then "." else target)) true with
    | .ok place =>
      if s.machine.tree.isOpenAt place then
        let before := (s.session.value? "PWD").getD ""
        let here := cleanPath (Path.join before target)
        let s := s.mapProcess fun p => { p with directory := place }
        let s := s.mapSession fun t =>
          ((t.assign "OLDPWD" before).markExported "OLDPWD").assign "PWD" here
        let s := if arguments.head? == some "-" then s.write 1 (here.toList ++ ['\n']) else s
        (s.value 0).done
      else refuse target (s.machine.tree.refusalAt place)
    | .error e => refuse target e
where
  /-- Complains about the target. -/
  refuse (target : String) (e : FileError) : Performed :=
    match s.session.dialect with
    | .dash => fail s "cd" ("can't cd to " ++ target)
    | .bash => fail s "cd" (target ++ ": " ++ e.reason)

/-- The name and the value of an argument that gives a variable a value. -/
def assignmentOf (word : String) : String × Option String :=
  let name := word.toList.takeWhile (· != '=')
  if name.length < word.length then
    (String.ofList name, some (String.ofList (word.toList.drop (name.length + 1))))
  else (word, none)

/-- Goes through arguments that are names of variables or give them values. -/
def eachName (s : Scene) (command : String) (arguments : List String)
    (change : Session → String → Option String → Session) : Performed :=
  let words := arguments.filter fun a => a.toList.head? != some '-'
  let bad := words.find? fun w =>
    let (name, value) := assignmentOf w
    !isName name.toList ||
      (value.isSome && (s.session.variableNamed? name).any (·.readonly))
  match bad with
  | some w =>
    let (name, _) := assignmentOf w
    if isName name.toList then
      let text := (ExpansionError.readonly name).text s.session.dialect
      match s.session.dialect with
      | .dash => ((s.complain (command ++ ": " ++ text)).quit 2).done
      | .bash => ((s.complain text).value 1).done
    else
      match s.session.dialect with
      | .dash => fail s command (w ++ ": bad variable name")
      | .bash => fail s command ("\x60" ++ w ++ "': not a valid identifier")
  | none =>
    let s := s.mapSession fun t => words.foldl (fun t w =>
      let (name, value) := assignmentOf w
      change t name value) t
    (s.value 0).done

/-- Gives a variable a value if there is one. -/
def assignMaybe (t : Session) (name : String) : Option String → Session
  | some value => t.assign name value
  | none => t

/-- Marks variables for the environment. -/
def exportNames (s : Scene) (arguments : List String) : Performed :=
  if arguments.contains "-n" then
    eachName s "export" arguments fun t name value =>
      let t := assignMaybe t name value
      match t.variableNamed? name with
      | some v => t.setVariable name { v with exported := false }
      | none => t
  else
    eachName s "export" arguments fun t name value => (assignMaybe t name value).markExported name

/-- Makes variables unchangeable. -/
def markReadonly (t : Session) (name : String) : Session :=
  t.setVariable name { (t.variableNamed? name).getD ⟨none, false, false⟩ with readonly := true }

/-- Makes variables local to the function that runs. -/
def makeLocal (s : Scene) (arguments : List String) : Performed :=
  if s.shell.frames.any fun f => match f with | .call .. => true | _ => false then
    let words := arguments.filter fun a => a.toList.head? != some '-'
    let names := words.map fun w => (assignmentOf w).1
    let saved := names.map fun name => (name, s.session.variableNamed? name)
    let rec keep : List Frame → List Frame
      | .call parameters locals :: rest => .call parameters (saved ++ locals) :: rest
      | f :: rest => f :: keep rest
      | [] => []
    let s := s.mapShell fun sh => { sh with frames := keep sh.frames }
    eachName s "local" arguments fun t name value =>
      match value with
      | some value => t.assign name value
      | none => if t.dialect = .bash then t.unset name else t
  else
    match s.session.dialect with
    | .dash => ((s.complain "local: not in a function").quit 2).done
    | .bash => fail s "local" "can only be used in a function"

/-- Gives variables values and marks. -/
def declare (s : Scene) (arguments : List String) : Performed :=
  let letters := (arguments.filter fun a => a.toList.head? == some '-').flatMap String.toList
  eachName s "declare" arguments fun t name value =>
    let t := assignMaybe t name value
    let t := if letters.contains 'x' then t.markExported name else t
    if letters.contains 'r' then markReadonly t name else t

/-- Takes variables or functions away. -/
def unsetNames (s : Scene) (arguments : List String) : Performed :=
  let words := arguments.filter fun a => a.toList.head? != some '-'
  if arguments.contains "-f" then
    ((s.mapSession fun t =>
      { t with functions := t.functions.filter fun f => !words.contains f.1 }).value 0).done
  else
    match words.find? fun w => (s.session.variableNamed? w).any (·.readonly) with
    | some w =>
      match s.session.dialect with
      | .dash => ((s.complain ("unset: " ++ w ++ ": is read only")).quit 2).done
      | .bash => fail s "unset" (w ++ ": cannot unset: readonly variable")
    | none => ((s.mapSession fun t => words.foldl Session.unset t).value 0).done

/-- Sets options and parameters. -/
def setWords : Nat → Scene → List String → Performed
  | 0, s, _ => (s.value 0).done
  | fuel + 1, s, arguments =>
    let replace (words : List String) : Performed :=
      ((s.mapSession fun t => { t with parameters := words }).value 0).done
    let change (f : Options → Options) : Scene :=
      s.mapSession fun t => { t with options := f t.options }
    let long (on : Bool) (name : String) (rest : List String) : Performed :=
      let known := ["errexit", "nounset", "noexec", "noglob", "xtrace", "allexport", "monitor",
        "notify", "verbose", "noclobber", "ignoreeof", "vi", "emacs"]
      if known.contains name || (name = "pipefail" && s.session.dialect = .bash) then
        setWords fuel (change fun o => Launch.setLongOption o on name) rest
      else
        match s.session.dialect with
        | .dash => fail s "set" ("Illegal option -o " ++ name)
        | .bash => ((s.complain ("set: " ++ name ++ ": invalid option name")).value 2).done
    match arguments with
    | [] => (s.value 0).done
    | "--" :: words => replace words
    | "-o" :: name :: rest => long true name rest
    | "+o" :: name :: rest => long false name rest
    | word :: rest =>
      match word.toList with
      | '-' :: c :: letters =>
        let letters := c :: letters
        let s' := change fun o => letters.foldl (Launch.setOption · true ·) o
        if letters.getLast? == some 'o' then setWords fuel s' ("-o" :: rest)
        else setWords fuel s' rest
      | '+' :: c :: letters =>
        setWords fuel (change fun o => (c :: letters).foldl (Launch.setOption · false ·) o) rest
      | _ => replace (word :: rest)

/-- Drops the first parameters. -/
def shiftParameters (s : Scene) (arguments : List String) : Performed :=
  let count := arguments.headD "1"
  match Text.decimal? count.toList with
  | some n =>
    if n ≤ s.session.parameters.length then
      ((s.mapSession fun t => { t with parameters := t.parameters.drop n }).value 0).done
    else
      match s.session.dialect with
      | .dash => fail s "shift" "can't shift that many"
      | .bash => (s.value 1).done
  | none => fail s "shift" (noNumber s.session.dialect count)

/-- A text in single quotes. -/
def quoted (s : List Char) : List Char :=
  '\'' :: s.flatMap (fun c => if c = '\'' then "'\\''".toList else [c]) ++ ['\'']

/-- The signal that a word names for a trap; zero is the end of the shell. -/
def trapSignal? (dialect : Dialect) (word : String) : Option Signal :=
  if word.toList.map Char.toUpper == "EXIT".toList then some 0
  else
    let isLong := "SIG".toList.isPrefixOf (word.toList.map Char.toUpper)
    if isLong && dialect = .dash then none else Signal.ofWord? word

/-- Arranges what is done on signals. -/
def setTraps (s : Scene) (arguments : List String) : Performed :=
  let arguments := if arguments.head? == some "--" then arguments.drop 1 else arguments
  let arrange (action : Option String) (words : List String) : Performed :=
    match words.find? fun w => (trapSignal? s.session.dialect w).isNone with
    | some w =>
      match s.session.dialect with
      | .dash => ((s.complain ("trap: " ++ w ++ ": bad trap")).value 1).done
      | .bash => fail s "trap" (w ++ ": invalid signal specification")
    | none =>
      let signals := words.filterMap (trapSignal? s.session.dialect)
      let s := s.mapSession fun t => signals.foldl (fun t signal =>
        let others := t.traps.filter (·.1 != signal)
        { t with traps := match action with
          | some a => others ++ [(signal, a)]
          | none => others }) t
      let s := s.mapProcess fun p =>
        { p with ignored := p.ignored.filter fun i => !signals.contains i }
      (s.value 0).done
  match arguments with
  | [] =>
    let lines := s.session.traps.flatMap fun (signal, action) =>
      let name := if signal = 0 then "EXIT"
        else (if s.session.dialect = .bash then "SIG" else "") ++
          ((Signal.numbered? signal).map (·.name)).getD (toString signal)
      "trap -- ".toList ++ quoted action.toList ++ ' ' :: name.toList ++ ['\n']
    ((s.write 1 lines).value 0).done
  | [word] => arrange none [word]
  | "-" :: words => arrange none words
  | action :: words =>
    if (Text.decimal? action.toList).isSome then arrange none (action :: words)
    else arrange (some action) words

/-- Tells how signals are sent. -/
def explainKill (s : Scene) : Performed :=
  let usage := "kill [-s sigspec | "
  match s.session.dialect with
  | .dash =>
    ((s.complain ("kill: Usage: " ++ usage ++ "-signum | -sigspec] [pid | job]... or\n" ++
      "kill -l [exitstatus]")).value 2).done
  | .bash =>
    ((s.write 2 ("kill: usage: " ++ usage ++ "-n signum | -sigspec] pid | jobspec ... or " ++
      "kill -l [sigspec]\n").toList).value 2).done

/-- Names the signals with some numbers. -/
def listSignals (s : Scene) (words : List String) : Performed :=
  let name (word : String) : Option String :=
    ((Text.decimal? word.toList).bind fun n => Signal.numbered? (n % 128)).map (·.name)
  let s := (words.filterMap name).foldl (fun (s : Scene) n => s.write 1 (n ++ "\n").toList) s
  (s.value 0).done

/-- Sends signals. -/
def sendSignals (s : Scene) (arguments : List String) : Performed :=
  let dialect := s.session.dialect
  let badName := dialect == Dialect.dash && "-SIG".toList.isPrefixOf (arguments.headD "").toList
  if badName then fail s "kill" "Illegal option -S"
  else if arguments.isEmpty then explainKill s
  else if arguments.head? == some "-l" then listSignals s (arguments.drop 1)
  else
    match Utility.killTargets arguments with
    | none =>
      match dialect with
      | .dash => fail s "kill" ("invalid signal number or name: " ++
          String.ofList ((arguments.headD "").toList.drop 1))
      | .bash => fail s "kill" (String.ofList ((arguments.headD "").toList.drop 1) ++
          ": invalid signal specification")
    | some (signal, targets) =>
      let step (state : Scene × List Sending × Nat) (word : String) : Scene × List Sending × Nat :=
        let (s, sendings, status) := state
        match word.toInt? with
        | none =>
          (match dialect with
            | .dash => s.complain ("kill: Illegal number: " ++ word)
            | .bash => s.complain ("kill: " ++ word ++ ": arguments must be process or job IDs"),
            sendings, 1)
        | some n =>
          let group := if n = 0 then s.process.group else n.natAbs
          let toGroup : Bool := decide (n ≤ 0)
          let there := if toGroup then s.machine.processes.any (·.group == group)
            else (s.machine.process? n.natAbs).isSome
          if there then (s, sendings ++ [⟨toGroup, group, signal⟩], status)
          else
            (match dialect with
              | .dash => s.complain "kill: No such process\n"
              | .bash => s.complain ("kill: (" ++ word ++ ") - No such process"),
              sendings, 1)
      let (s, sendings, status) := targets.foldl step (s, [], 0)
      ⟨s.value status, sendings⟩

/-- Waits for processes in the background. -/
def waitForJobs (s : Scene) (arguments : List String) : Performed :=
  let words := arguments.filter fun a => a.toList.head? != some '-'
  let s := s.mapSession fun t => { t with status := 0 }
  match words with
  | [] => (s.control (.waitFor s.shell.jobs none)).done
  | words =>
    let pids := words.map fun w => (Text.decimal? w.toList).getD 0
    let known := pids.filter s.shell.jobs.contains
    let last := pids.getLast?.getD 0
    if known.contains last then (s.control (.waitFor known (some last))).done
    else
      let s := match s.session.dialect with
        | .dash => s
        | .bash => s.complain ("wait: pid " ++ toString last ++ " is not a child of this shell")
      (s.value 127).done

/-- The options of `read`: whether backslashes are plain, the seconds to wait, and the names. -/
def readArguments : Nat → Bool → Option Nat → List String → Bool × Option Nat × List String
  | 0, raw, timeout, words => (raw, timeout, words)
  | fuel + 1, raw, timeout, words =>
    match words with
    | "-r" :: rest => readArguments fuel true timeout rest
    | "-p" :: _ :: rest => readArguments fuel raw timeout rest
    | "-t" :: seconds :: rest => readArguments fuel raw (Utility.duration? seconds) rest
    | "-s" :: rest | "-e" :: rest => readArguments fuel raw timeout rest
    | "-rp" :: _ :: rest => readArguments fuel true timeout rest
    | "-rs" :: rest => readArguments fuel true timeout rest
    | "--" :: rest => (raw, timeout, rest)
    | _ => (raw, timeout, words)

/-- Reads a line into variables. -/
def readLine (s : Scene) (arguments : List String) : Performed :=
  let (raw, timeout, names) := readArguments (arguments.length + 1) false none arguments
  match names, s.session.dialect with
  | [], .dash => fail s "read" "arg count"
  | names, _ =>
    match names.find? fun n => !isName n.toList with
    | some bad =>
      match s.session.dialect with
      | .dash => fail s "read" (bad ++ ": bad variable name")
      | .bash => fail s "read" ("\x60" ++ bad ++ "': not a valid identifier")
    | none =>
      let names := if names.isEmpty then ["REPLY"] else names
      (s.control (.reading ⟨names, raw, [], false, timeout.map (s.machine.now + ·)⟩)).done

/-- Says what names are the names of. -/
def describeNames (s : Scene) (brief : Bool) (names : List String) : Performed :=
  let dialect := s.session.dialect
  let searchPath := (s.session.value? "PATH").getD Launch.defaultSearchPath
  let one (name : String) : Option String :=
    if reservedWords.contains name then some (if brief then name else name ++ " is a shell keyword")
    else if s.session.functions.any (·.1 == name) then
      some (if brief then name else name ++ match dialect with
        | .dash => " is a shell function"
        | .bash => " is a function")
    else if isBuiltin dialect name then
      some (if brief then name
        else name ++ if dialect = .dash && special.contains name then " is a special shell builtin"
          else " is a shell builtin")
    else
      match Launch.findProgram s.machine.tree s.process.directory searchPath (Raw.toText name) with
      | .ok path =>
        if Launch.isProgram s.machine.tree s.process.directory path then
          let path := Raw.ofText path
          some (if brief then path else name ++ " is " ++ path)
        else none
      | .error _ => none
  let (s, status) := names.foldl (fun ((s, status) : Scene × Nat) name =>
    let missing := if dialect = Dialect.dash then 127 else 1
    match one name with
    | some text => (s.write 1 (text.toList ++ ['\n']), status)
    | none =>
      if brief then (s, missing)
      else if dialect = Dialect.dash then (s.write 1 (name ++ ": not found\n").toList, missing)
      else (s.complain ("type: " ++ name ++ ": not found"), missing)) (s, 0)
  (s.value status).done

/-- Computes arithmetic expressions. -/
def compute (s : Scene) (arguments : List String) : Performed :=
  let all : Expand (List Int) := arguments.mapM fun a => computeText a.toList
  match all.run (Expanding.mk s.session []) with
  | .ok (values, state) =>
    let s := s.mapSession fun _ => state.session
    (s.value (if values.getLast?.getD 0 = 0 then 1 else 0)).done
  | .error e => ((s.complain ("let: " ++ e.text s.session.dialect)).value 1).done

/-- Checks a condition. -/
def checkCondition (s : Scene) (name : String) (arguments : List String) : Performed :=
  let isBash := s.session.dialect = .bash
  if name = "[" && arguments.getLast? != some "]" then
    ((s.complain ("[: " ++ Utility.TestError.noClosing.message isBash)).value 2).done
  else
    let words := if name = "[" then arguments.dropLast else arguments
    match (Utility.TestScene.mk s.machine.tree s.process.directory isBash).holds words with
    | .ok value => (s.value (if value then 0 else 1)).done
    | .error e => ((s.complain (name ++ ": " ++ e.message isBash)).value 2).done

/-- Writes text, or puts it into a variable. -/
def writeFormatted (s : Scene) (arguments : List String) : Performed :=
  let dialect := s.session.dialect
  let start := s.session.complaintStart ++ "printf: "
  match dialect, arguments with
  | .bash, "-v" :: name :: rest =>
    let r := Utility.printf (flavour dialect) start rest
    let text := r.written.flatMap fun (stream, text) => if stream = .output then text else []
    ((s.mapSession fun t => t.assign name (String.ofList text)).value r.status).done
  | _, _ => (s.result (Utility.printf (flavour dialect) start arguments)).done

/-- Reads a file as a script of its own. -/
def sourceFile (s : Scene) (name : String) (arguments : List String) : Performed :=
  match arguments with
  | [] =>
    match s.session.dialect with
    | .dash => (s.value 0).done
    | .bash => ((s.complain (name ++ ": filename argument required")).value 2).done
  | path :: rest =>
    let searchPath := (s.session.value? "PATH").getD ""
    let found := if path.toList.contains '/' then some path
      else
        let places := (searchPath.splitOn ":").map fun d =>
          Path.join (if d.isEmpty then "." else d) path
        let places := if s.session.dialect = .bash then places ++ [path] else places
        places.find? fun p => s.machine.tree.isFile s.process.directory (Raw.toText p)
    let missing (e : FileError) : Performed :=
      match s.session.dialect with
      | .dash =>
        if path.toList.contains '/' then
          ((s.complain (".: cannot open " ++ path ++ ": " ++
            if e = .notFound then "No such file" else e.reason)).quit 2).done
        else ((s.complain (".: " ++ path ++ ": not found")).quit 2).done
      | .bash => ((s.complain (path ++ ": " ++ e.reason)).value 1).done
    match found with
    | none => missing .notFound
    | some path =>
      match s.machine.tree.read s.process.directory (Raw.toText path) with
      | .error e => missing e
      | .ok content =>
        let before := s.session.parameters
        let s := s.mapSession fun t =>
          { t with status := 0, parameters := if rest.isEmpty then before else rest }
        ((s.push (.script (.ofText (Raw.ofBytes content) 1) (.file before))).control .advance).done

/-- Carries out a command of the shell itself. -/
def perform (s : Scene) (name : String) (arguments : List String) : Performed :=
  let dialect := s.session.dialect
  match name with
  | ":" | "true" => (s.value 0).done
  | "false" => (s.value 1).done
  | "echo" => (s.result (Utility.echo (flavour dialect) arguments)).done
  | "printf" => writeFormatted s arguments
  | "test" | "[" => checkCondition s name arguments
  | "pwd" => (s.result (.say (((s.session.value? "PWD").getD "").toList ++ ['\n']) 0)).done
  | "exit" => exitShell s arguments
  | "return" => returnFrom s arguments
  | "break" | "continue" => leaveLoops s name arguments
  | "cd" => changeDirectory s arguments
  | "export" => exportNames s arguments
  | "readonly" =>
    eachName s name arguments fun t name value => markReadonly (assignMaybe t name value) name
  | "local" => makeLocal s arguments
  | "declare" | "typeset" =>
    if s.shell.frames.any fun f => match f with | .call .. => true | _ => false then
      makeLocal s arguments
    else declare s arguments
  | "unset" => unsetNames s arguments
  | "set" => setWords (arguments.length + 2) s arguments
  | "shift" => shiftParameters s arguments
  | "trap" => setTraps s arguments
  | "kill" => sendSignals s arguments
  | "wait" => waitForJobs s arguments
  | "read" => readLine s arguments
  | "eval" =>
    let text := Utility.joined arguments
    if text.isEmpty then (s.value 0).done
    else ((s.push (.script (.ofText text s.session.line) .nested)).control .advance).done
  | "." | "source" => sourceFile s name arguments
  | "type" => describeNames s false arguments
  | "command" =>
    match arguments with
    | "-v" :: names => describeNames s true names
    | "-V" :: names => describeNames s false names
    | _ => (s.value 0).done
  | "let" => compute s arguments
  | "umask" =>
    ((if arguments.isEmpty then s.write 1 "0022\n".toList else s).value 0).done
  | "jobs" | "hash" | "alias" | "unalias" | "ulimit" | "times" | "disown" | "shopt" =>
    (s.value 0).done
  | _ => (s.value 0).done

end Builtin

end Overseer.Shell
