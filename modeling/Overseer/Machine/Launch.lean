import Overseer.Utility.Programs

/-!
# Launching Programs

How a process comes to run a program: the program is looked for along the search path, a script is
handed to the interpreter that its first line names, and what is open is handed on.

A failure to launch is told by the error that a caller of the system gets.  A program that is found
and cannot be run is another matter than one that is not found, since a shell ends with a code of
its own for each.
-/

namespace Overseer

namespace Launch

/-- Where programs are looked for when the environment does not say. -/
def defaultSearchPath : String := "/usr/local/sbin:/usr/local/bin:/usr/sbin:/usr/bin:/sbin:/bin"

/-- The value of a variable of an environment. -/
def valueIn? (environment : List (String × String)) (name : String) : Option String :=
  (environment.reverse.find? (·.1 == name)).map (·.2)

/-- Whether a path leads to something that can be run. -/
def isProgram (tree : FileTree) (directory : Place) (path : String) : Bool :=
  match tree.find directory path with
  | .ok node => FileTree.Entry.isRegular node.entry && node.isOwnerExecutable
  | .error _ => false

/-- The path of a program.  A name with a slash is a path already; any other is looked for in the
directories of the search path. -/
def findProgram (tree : FileTree) (directory : Place) (searchPath name : String) :
    Except FileError String :=
  if name.isEmpty then .error .notFound
  else if name.toList.contains '/' then .ok name
  else
    let candidates := (searchPath.splitOn ":").map fun d =>
      Path.join (if d.isEmpty then "." else d) name
    match candidates.find? (isProgram tree directory) with
    | some path => .ok path
    | none =>
      if candidates.any (tree.isFile directory) then .error .denied else .error .notFound

/-! ## Shells -/

/-- The options of a shell that begin its arguments: the session, whether its script is the next
argument, whether it is read from the input, and the arguments behind them. -/
structure ShellArguments where
  options : Shell.Options
  isCommand : Bool
  rest : List String

/-- Turns an option on or off. -/
def setOption (options : Shell.Options) (on : Bool) (c : Char) : Shell.Options :=
  match c with
  | 'e' => { options with exitOnError := on }
  | 'u' => { options with requireSet := on }
  | 'n' => { options with checkOnly := on }
  | 'f' => { options with noGlob := on }
  | 'x' => { options with trace := on }
  | _ => options

/-- Turns an option with a long name on or off. -/
def setLongOption (options : Shell.Options) (on : Bool) (name : String) : Shell.Options :=
  match name with
  | "errexit" => { options with exitOnError := on }
  | "nounset" => { options with requireSet := on }
  | "noexec" => { options with checkOnly := on }
  | "noglob" => { options with noGlob := on }
  | "xtrace" => { options with trace := on }
  | "pipefail" => { options with pipeFail := on }
  | _ => options

/-- The options that begin the arguments of a shell. -/
def shellArguments : Nat → ShellArguments → ShellArguments
  | 0, a => a
  | fuel + 1, a =>
    match a.rest with
    | "--" :: rest | "-" :: rest => { a with rest }
    | "-o" :: name :: rest =>
      shellArguments fuel { a with options := setLongOption a.options true name, rest }
    | word :: rest =>
      match word.toList with
      | '-' :: '-' :: _ => shellArguments fuel { a with rest }
      | '-' :: letters =>
        shellArguments fuel ⟨letters.foldl (setOption · true ·) a.options,
          a.isCommand || letters.contains 'c', rest⟩
      | '+' :: letters =>
        shellArguments fuel
          { a with options := letters.foldl (setOption · false ·) a.options, rest }
      | _ => a
    | [] => a

/-- The variables of a shell that starts with an environment in a directory. -/
def startVariables (tree : FileTree) (directory : Place) (environment : List (String × String)) :
    List (String × Shell.Variable) :=
  let imported := environment.foldl (fun (vs : List (String × Shell.Variable)) (name, value) =>
    if Shell.isName name.toList then
      (vs.filter (·.1 != name)) ++ [(name, ⟨some value, true, false⟩)]
    else vs) []
  let here := Raw.ofText (FileTree.pathOf directory)
  let isHere := (valueIn? environment "PWD").any fun path =>
    path.toList.head? == some '/' &&
      match tree.resolve [] (Raw.toText path) true with
      | .ok place => place == directory
      | .error _ => false
  let own : List (String × Shell.Variable) :=
    [("IFS", ⟨some " \t\n", false, false⟩), ("OPTIND", ⟨some "1", false, false⟩),
      ("PS4", ⟨some "+ ", false, false⟩)] ++
      (if (valueIn? environment "PATH").isNone then
        [("PATH", ⟨some defaultSearchPath, false, false⟩)]
      else [])
  -- The separators are never taken over from outside.
  let vs := imported.filter fun v => v.1 != "IFS"
  let vs := if isHere then vs else vs.filter (·.1 != "PWD") ++ [("PWD", ⟨some here, true, false⟩)]
  vs ++ own.filter fun v => !vs.any (·.1 == v.1)

/-- A shell that starts.  The first of the arguments is the name it was called by. -/
def startShell (dialect : Shell.Dialect) (tree : FileTree) (directory : Place) (pid : Nat)
    (environment : List (String × String)) (arguments : List String) : Shell :=
  -- A script is told the name that the shell was called by, unless it is given one of its own.
  let called := arguments.headD "sh"
  let a := shellArguments (arguments.length + 1) ⟨.none, false, arguments.drop 1⟩
  let session (name : String) (parameters : List String) : Shell.Session :=
    ⟨dialect, name, parameters, startVariables tree directory environment, [], 0, none, pid,
      a.options, [], 1⟩
  let fail (message : String) (status : Nat) : Shell :=
    { session := { session called [] with status }
      control := .exit
      frames := []
      output := [(2, Raw.toBytes (message ++ "\n").toList)]
      jobs := [] }
  let run (session : Shell.Session) (text : List Char) (origin : Shell.ScriptOrigin) : Shell :=
    ⟨session, .advance, [.script (.ofText text 1) (.main origin)], [], []⟩
  if a.isCommand then
    match a.rest with
    | [] =>
      fail (called ++ match dialect with
        | .dash => ": 0: -c requires an argument"
        | .bash => ": -c: option requires an argument") 2
    | script :: rest =>
      run (session (rest.headD called) (rest.drop 1)) script.toList .argument
  else
    match a.rest with
    | [] => ⟨session called [], .loading [], [], [], []⟩
    | path :: parameters =>
      match tree.read directory (Raw.toText path) with
      | .ok content => run (session path parameters) (Raw.ofBytes content) .file
      | .error e =>
        match dialect with
        | .dash =>
          fail (called ++ ": 0: cannot open " ++ path ++ ": " ++
            (if e = .notFound then "No such file" else e.reason)) 2
        | .bash =>
          if e = .isDirectory then fail (path ++ ": " ++ path ++ ": Is a directory") 126
          else
            fail (called ++ ": " ++ path ++ ": " ++ e.reason) (if e = .notFound then 127 else 126)

/-! ## Programs -/

/-- A process that runs a body with an environment. -/
def install (p : Process Body) (environment : List (String × String)) (body : Body) :
    Process Body :=
  { p.closePrivate with environment, body, caught := [], pending := [] }

/-- A process that complains and ends. -/
def failWith (p : Process Body) (message : String) (status : Nat) : Process Body :=
  install p p.environment (.utility
    ⟨[(2, Raw.toBytes (message ++ "\n").toList)], .finished status⟩)

/-- What stands behind the mark of a script on its first line: an interpreter and an argument. -/
def interpreterLine? (content : List UInt8) : Option (String × Option String) :=
  match Raw.ofBytes content with
  | '#' :: '!' :: s =>
    let isBlank := fun c : Char => c == ' ' || c == '\t'
    let line := (s.takeWhile (· != '\n')).dropWhile isBlank
    let line := (line.reverse.dropWhile fun c => isBlank c || c == '\r').reverse
    let path := line.takeWhile fun c => !isBlank c
    let argument := (line.drop path.length).dropWhile isBlank
    if path.isEmpty then none
    else some (String.ofList path, if argument.isEmpty then none else some (String.ofList argument))
  | _ => none

/-- The changes that the arguments of `env` make to an environment, and the command behind them. -/
def environmentArguments :
    Nat → List (String × String) → List String → List (String × String) × List String
  | 0, environment, words => (environment, words)
  | fuel + 1, environment, words =>
    match words with
    | "-i" :: rest | "-" :: rest | "--ignore-environment" :: rest =>
      environmentArguments fuel [] rest
    | "-u" :: name :: rest =>
      environmentArguments fuel (environment.filter (·.1 != name)) rest
    | "--" :: rest => environmentArguments fuel environment rest
    | word :: rest =>
      let name := String.ofList (word.toList.takeWhile (· != '='))
      if name.length < word.length then
        environmentArguments fuel
          (environment.filter (·.1 != name) ++
            [(name, String.ofList (word.toList.drop (name.length + 1)))]) rest
      else (environment, words)
    | [] => (environment, [])

/-- Opens the files that `tee` writes to. -/
def openTargets (m : Computer) (p : Process Body) (append : Bool) :
    List String → Nat → Computer × Process Body × List Nat
  | [], _ => (m, p, [])
  | path :: paths, fd =>
    match m.openFile p.directory (Raw.toText path) (if append then .append else .write) with
    | .ok (h, m) =>
      let (m, p, fds) := openTargets m (p.setHandle fd h) append paths (fd + 1)
      (m, p, fd :: fds)
    -- A file that cannot be opened does not keep the others from being written.
    | .error _ => openTargets m p append paths fd

/-- Puts the program at a path in the place of what a process runs.  The arguments begin with the
name that the program is called by. -/
def load : Nat → Computer → Process Body → String → List String → List (String × String) →
    Except FileError (Computer × Process Body)
  | 0, _, _, _, _, _ => .error .tooManyLinks
  | fuel + 1, m, p, path, arguments, environment =>
    match m.tree.find p.directory path with
    | .error e => .error e
    | .ok node =>
      if !FileTree.Entry.isRegular node.entry || !node.isOwnerExecutable then .error .denied
      else
        match node.entry with
        | .file content =>
          match interpreterLine? content with
          | none => .error .noProgram
          | some (interpreter, argument) =>
            load fuel m p (Raw.toText interpreter)
              -- The path takes the place of the name the script was called by.
              (interpreter :: argument.toList ++ Raw.ofText path :: arguments.drop 1) environment
        | .program name =>
          let others := arguments.drop 1
          let next (p : Process Body) (environment : List (String × String)) (words : List String) :
              Except FileError (Computer × Process Body) :=
            let searchPath := (valueIn? environment "PATH").getD defaultSearchPath
            let program := words.headD ""
            let fail (e : FileError) : Except FileError (Computer × Process Body) :=
              .ok (m, failWith p (name ++ ": " ++
                (if name = "env" then "\x27" ++ program ++ "\x27"
                  else "failed to run command \x27" ++ program ++ "\x27") ++ ": " ++ e.reason)
                (if e = .notFound then 127 else 126))
            match findProgram m.tree p.directory searchPath (Raw.toText program) with
            | .error e => fail e
            | .ok path =>
              match load fuel m p path words environment with
              | .ok loaded => .ok loaded
              | .error e => fail e
          match name with
          | "sh" | "dash" | "bash" =>
            let dialect := if name = "bash" then Shell.Dialect.bash else .dash
            .ok (m, install p environment
              (.shell (startShell dialect m.tree p.directory p.pid environment arguments)))
          | "env" =>
            match environmentArguments (others.length + 1) environment others with
            | (environment, []) =>
              .ok (m, install p environment (.utility
                ⟨[(1, Raw.toBytes (environment.flatMap fun (k, v) =>
                  k.toList ++ '=' :: v.toList ++ ['\n']))], .finished 0⟩))
            | (environment, words) => next p environment words
          | "nohup" => next { p with ignored := Signal.hangup :: p.ignored } environment others
          | "setsid" => next { p with group := p.pid } environment others
          | "kill" =>
            match Utility.killTargets others with
            | some (signal, targets) =>
              let m := targets.foldl (fun m t => match t.toInt? with
                | some n => if n < 0 then (m.signalGroup n.natAbs signal).2
                  else (m.signal n.natAbs signal).2
                | none => m) m
              .ok (m, install p environment (.utility ⟨[], .finished 0⟩))
            | none => .ok (m, failWith p "kill: invalid signal" 1)
          | "tee" =>
            let (options, operands) :=
              Utility.splitOptions [] (2 * others.length + 64) others
            let p := install p environment (.utility ⟨[], .finished 0⟩)
            let (m, p, fds) := openTargets m p (Utility.hasOption options 'a') operands 3
            .ok (m, { p with body := .utility ⟨[], .copying [.standard] (1 :: fds) 0⟩ })
          | _ =>
            let desk : Utility.Desk := ⟨m.now, m.moment, m.tree, p.directory, environment⟩
            let launched := Utility.launch desk name others
            .ok ({ m with tree := launched.tree },
              install p environment (.utility launched.program))
        | _ => .error .denied

/-- How many programs may hand on to one another. -/
def chainLimit : Nat := 16

/-- Puts a program in the place of what a process runs, looking for it along the search path. -/
def execute (m : Computer) (p : Process Body) (searchPath : String) (arguments : List String)
    (environment : List (String × String)) : Except FileError (Computer × Process Body) := do
  let path ← findProgram m.tree p.directory searchPath (Raw.toText (arguments.headD ""))
  load chainLimit m p path arguments environment

end Launch

end Overseer
