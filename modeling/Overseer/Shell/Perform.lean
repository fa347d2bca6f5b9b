import Overseer.Shell.Builtins
import Overseer.Shell.Conditional
import Overseer.Shell.Input

/-!
# Performing Statements

What a shell does when a statement is next: words are expanded, and a command is carried out by the
shell itself, by a function or by a child.

A statement that is made of others leaves a frame behind that says how to go on, and its first part
is next.
-/

namespace Overseer.Shell

namespace Scene

/-! ## Failures -/

/-- Goes on with the status of a command; a failure that nothing looks at ends a shell that wants
it so. -/
def settle (s : Scene) (status : Nat) : Scene :=
  if status != 0 && s.session.options.exitOnError && !isTested s.shell.frames then s.quit status
  else s.value status

/-- Looks at a command that was just carried out as `settle` does. -/
def resettle (s : Scene) : Scene :=
  match s.shell.control with
  | .value => s.settle s.session.status
  | _ => s

/-- Gives the present line of the script up. -/
def abandon (s : Scene) : List Frame → Scene
  | [] => s.quit 1
  | .script source kind :: rest =>
    ((s.mapSession fun t => { t with status := 1 }).frames (.script source kind :: rest)).control
      .advance
  | .restore saved :: rest => (s.mapProcess fun p => putBack p saved).abandon rest
  | .assigned saved :: rest => (s.mapSession fun t => restoreVariables t saved).abandon rest
  -- The arguments and variables from before the call are put back on the way out.
  | .call parameters locals :: rest =>
    (s.mapSession fun t => { restoreVariables t locals with parameters }).abandon rest
  | _ :: rest => s.abandon rest

/-- Where the script of the shell itself comes from. -/
def origin (s : Scene) : ScriptOrigin :=
  match s.shell.frames.getLast? with
  | some (.script _ (.main origin)) => origin
  | _ => .substitution

/-- Gives a statement up whose words cannot be expanded. -/
def refuse (s : Scene) (e : ExpansionError) : Scene :=
  let s := s.complain (e.text s.session.dialect)
  match e.fatal? s.session.dialect s.origin with
  | some status => s.quit status
  | none => s.abandon s.shell.frames

/-- The status of a redirection that failed. -/
def redirectionStatus : Dialect → Nat
  | .dash => 2
  | .bash => 1

/-- Expands words and goes on with what they yield. -/
def expanding {α : Type} (s : Scene) (outputs : List (List Char)) (x : Expand α)
    (next : Scene → α → Scene) : Scene :=
  match x.run (Expanding.mk s.session outputs) with
  | .ok (value, state) => next (s.mapSession fun _ => state.session) value
  | .error e => s.refuse e

/-! ## Simple commands -/

/-- Whether a word gives a variable a value, so that it is not split behind a command that declares
variables. -/
def isAssignment (word : Word) : Bool := (assignment? word).isSome

/-- The fields of a simple command. -/
def expandCommand (s : Scene) (words : List Word) : Expand (List String) := do
  let tree := s.machine.tree
  let directory := s.process.directory
  -- The words behind such a command are values and not fields, so they are not split.
  let declares := match words with
    | first :: _ =>
      ((Word.literal? first).map String.ofList).any
        ["export", "readonly", "local", "declare", "typeset"].contains
    | [] => false
  if declares then
    let fields ← words.mapM fun word =>
      if isAssignment word then do return [← expandText word] else expandWord tree directory word
    return fields.flatten
  else expandWords tree directory words

/-- The redirections with their targets known. -/
def expandRequests (redirections : List Redirection) : Expand (List OpenRequest) :=
  redirections.mapM fun r => do return ⟨r.fd, r.kind, ← expandText r.target⟩

/-- The assignments with their values known; each may use those before it. -/
def expandAssignments : List (String × Word) → Expand (List (String × String))
  | [] => return []
  | (name, word) :: rest => do
    let value ← expandText word
    let before ← Expand.session
    if (before.variableNamed? name).any (·.readonly) then Expand.fail (.readonly name)
    else
      Expand.modifySession fun t => t.assign name value
      return (name, value) :: (← expandAssignments rest)

/-- Whether the large shell shows a word in quotes. -/
def isShownQuoted (word : List Char) : Bool :=
  word.isEmpty || word.head? == some '~' || word.head? == some '#' ||
    word.any fun c => " \t\n\x27\"\\|&;()<>!\x7b\x7d*[]?^$\x60".toList.contains c

/-- A word as the large shell shows it. -/
def shownWord (word : String) : String :=
  if isShownQuoted word.toList then String.ofList (Builtin.quoted word.toList) else word

/-- Shows a command before it is carried out.  The large shell gives every assignment a line. -/
def showCommand (s : Scene) (i : Invocation) : Scene :=
  let line (s : Scene) (words : List String) : Scene :=
    s.write 2 (((s.session.value? "PS4").getD "").toList ++ Utility.joined words ++ ['\n'])
  if s.session.options.trace then
    match s.session.dialect with
    | .dash => line s (i.assignments.map (fun (name, value) => name ++ "=" ++ value) ++ i.fields)
    | .bash =>
      let s := i.assignments.foldl (fun s (name, value) =>
        line s [name ++ "=" ++ if value.isEmpty then "" else shownWord value]) s
      if i.fields.isEmpty then s else line s (i.fields.map shownWord)
  else s

/-- Lets a child run a program, or the shell itself if nothing is left to do for it. -/
def runProgram (s : Scene) (i : Invocation) : Scene :=
  if s.isLast then s.control (.launch i)
  else
    let (pid, s) := s.fork (.launch i) [] id
    s.control (.await [pid] pid)

/-- Runs a function. -/
def runFunction (s : Scene) (i : Invocation) (body : Statement) : Scene :=
  match s.redirect i.requests with
  | .error message => (s.complain message).settle (redirectionStatus s.session.dialect)
  | .ok s =>
    let s := s.assignFor i.assignments
    let s := s.push (.call s.session.parameters [])
    (s.mapSession fun t => { t with parameters := i.fields.drop 1 }).control (.perform body)

/-- Gives variables values for good. -/
def assignForGood (s : Scene) (assignments : List (String × String)) : Scene :=
  s.mapSession fun t => assignments.foldl (fun t (name, value) => t.assign name value) t

/-- Carries out a command of the shell itself. -/
def runBuiltin (s : Scene) (i : Invocation) (name : String) (arguments : List String)
    (isSpecial : Bool) : Performed :=
  match s.redirect i.requests with
  | .error message =>
    let s := s.complain message
    if isSpecial then (s.quit 2).done else (s.settle (redirectionStatus s.session.dialect)).done
  | .ok s =>
    let s := if isSpecial then s.assignForGood i.assignments else s.assignFor i.assignments
    let performed := Builtin.perform s name arguments
    { performed with scene := performed.scene.resettle }

/-- Carries out `exec`: redirections for good, and a program in the place of the shell. -/
def runExec (s : Scene) (i : Invocation) (arguments : List String) : Scene :=
  match arguments with
  | [] =>
    match s.redirectForGood i.requests with
    | .error message => (s.complain message).quit (redirectionStatus s.session.dialect)
    | .ok s => (s.assignForGood i.assignments).value 0
  | words => s.control (.launch { i with fields := words, replaces := true })

/-- The command behind words that only say how to look for it, and whether functions count. -/
def stripLookup (dialect : Dialect) : List String → List String × Bool
  | "command" :: rest =>
    match rest with
    | "-v" :: _ | "-V" :: _ => ("command" :: rest, false)
    | "-p" :: rest | "--" :: rest => ((stripLookup dialect rest).1, false)
    | rest => ((stripLookup dialect rest).1, false)
  | "builtin" :: rest =>
    if dialect = .bash then ((stripLookup dialect rest).1, false) else ("builtin" :: rest, true)
  | words => (words, true)

/-- Carries out a command whose words are known. -/
def invoke (s : Scene) (i : Invocation) : Performed :=
  let dialect := s.session.dialect
  let (fields, functionsCount) := stripLookup dialect i.fields
  let i := { i with fields }
  match fields with
  | [] => (s.value 0).done
  | name :: arguments =>
    let function? := if functionsCount then
        (s.session.functions.find? (·.1 == name)).map (·.2)
      else none
    let isSpecial := dialect = .dash && functionsCount && Builtin.special.contains name
    let shellCommand : Performed :=
      if name = "exec" then (s.runExec i arguments).done
      else s.runBuiltin i name arguments isSpecial
    match isSpecial, function? with
    | false, some body => (s.runFunction i body).done
    | _, _ =>
      if Builtin.isBuiltin dialect name then shellCommand else (s.runProgram i).done

/-- Carries out a simple command.  Without any words, the assignments hold for good and files are
only made. -/
def runSimple (s : Scene) (c : SimpleCommand) (outputs : List (List Char)) : Performed :=
  let s := s.mapSession fun t => { t with line := c.line }
  let begun := s.session
  let expansion : Expand (Invocation × Session) := do
    let fields ← s.expandCommand c.words
    let requests ← expandRequests c.redirections
    let after ← Expand.session
    let assignments ← expandAssignments c.assignments
    return (⟨fields, assignments, requests, false⟩, after)
  match expansion.run (Expanding.mk begun outputs) with
  | .error e => (s.refuse e).done
  | .ok ((i, after), _) =>
    let s := (s.mapSession fun _ => after).showCommand i
    if i.fields.isEmpty then
      let s := s.assignForGood i.assignments
      -- An assignment succeeds, unless the command whose output it takes has failed.
      let status := if outputs.isEmpty then 0 else s.session.status
      -- Nothing is run, but the files are made and emptied all the same.
      let (machine, _, _, failure) :=
        openAll s.session.dialect false s.machine s.process i.requests
      match failure with
      | none => (({ s with machine } : Scene).settle status).done
      | some message => ((s.complain message).settle (redirectionStatus s.session.dialect)).done
    else s.invoke i

/-! ## Other statements -/

/-- Makes the children of a pipeline; each reads what the one before it writes. -/
def runStages (s : Scene) (input : Option Handle) : List Statement → List Nat × Scene
  | [] => ([], s)
  | [statement] =>
    let (pid, s) := s.fork (.perform statement) [] fun p => match input with
      | some h => p.setHandle 0 h
      | none => p
    ([pid], s)
  | statement :: rest =>
    let (pipe, machine) := s.machine.newPipe
    let (pid, s) := ({ s with machine } : Scene).fork (.perform statement) [] fun p =>
      let p := match input with
        | some h => p.setHandle 0 h
        | none => p
      p.setHandle 1 (.pipeEntry pipe)
    let (pids, s) := s.runStages (some (.pipeExit pipe)) rest
    (pid :: pids, s)

/-- Puts a statement in the background. -/
def runBackground (s : Scene) (statement : Statement) : Scene :=
  let (pid, s) := s.fork (.perform statement) [] fun p =>
    -- Neither the input nor the keys that interrupt are meant for it.
    { p.setHandle 0 .sink with ignored := Signal.interrupt :: 3 :: p.ignored }
  let s := s.mapShell fun sh => { sh with jobs := sh.jobs ++ [pid] }
  (s.mapSession fun t => { t with background := some pid }).value 0

/-- The branch of a selection whose pattern matches first. -/
def findBranch (subject : String) : List (List Word × Statement) → Expand (Option Statement)
  | [] => return none
  | (patterns, body) :: rest => do
    let globs ← patterns.mapM expandPattern
    if globs.any fun g => g.isMatch subject.toList then return some body
    else findBranch subject rest

/-- The commands whose output a statement takes before it begins. -/
def commandsOf : Statement → List (List Char)
  | .simple c =>
    Word.allCommands c.words ++ Word.allCommands (c.redirections.map (·.target)) ++
      Word.allCommands (c.assignments.map (·.2))
  | .each _ (some words) _ => Word.allCommands words
  | .select subject branches =>
    Word.commands subject ++ branches.flatMap fun (patterns, _) => Word.allCommands patterns
  | .redirected _ redirections => Word.allCommands (redirections.map (·.target))
  | .conditional words _ => Word.allCommands words
  | .compute expression _ => Word.commands expression
  | _ => []

/-- Performs a statement, given the output of the commands in its words. -/
def performWith (s : Scene) (outputs : List (List Char)) : Statement → Performed
  | .simple c => s.runSimple c outputs
  | .pipeline statements =>
    let (pids, s) := s.runStages none statements
    (s.control (.await pids (pids.getLast?.getD 0))).done
  | .negation statement => ((s.push .negate).control (.perform statement)).done
  | .both left right => ((s.push (.both right)).control (.perform left)).done
  | .either left right => ((s.push (.either right)).control (.perform left)).done
  | .sequence [] => (s.control .value).done
  | .sequence [statement] => (s.control (.perform statement)).done
  | .sequence (statement :: rest) =>
    ((s.push (.sequence rest)).control (.perform statement)).done
  | .background statement => (s.runBackground statement).done
  | .subshell body =>
    let (pid, s) := s.fork (.perform body) [] id
    (s.control (.await [pid] pid)).done
  | .choice condition consequence alternative =>
    ((s.push (.choice consequence alternative)).control (.perform condition)).done
  | .loop whileTrue condition body =>
    ((s.push (.condition whileTrue condition body 0)).control (.perform condition)).done
  | .each name words body =>
    if !isName name.toList then
      ((s.complain ("\x60" ++ name ++ "': not a valid identifier")).value 1).done
    else
    match words with
    | none =>
      ((s.push (.each name s.session.parameters body)).value 0).done
    | some words =>
      (s.expanding outputs (expandWords s.machine.tree s.process.directory words)
        fun s values => (s.push (.each name values body)).value 0).done
  | .select subject branches =>
    let find : Expand (Option Statement) := do
      findBranch (← expandText subject) branches
    (s.expanding outputs find fun s found =>
      match found with
      | some body => (s.mapSession fun t => { t with status := 0 }).control (.perform body)
      | none => s.value 0).done
  | .define name body =>
    ((s.mapSession fun t =>
      { t with functions := (name, body) :: t.functions.filter (·.1 != name) }).value 0).done
  | .redirected statement redirections =>
    (s.expanding outputs (expandRequests redirections) fun s requests =>
      match s.redirect requests with
      | .ok s => s.control (.perform statement)
      | .error message =>
        (s.complain message).settle (redirectionStatus s.session.dialect)).done
  | .conditional words line =>
    let s := s.mapSession fun t => { t with line }
    let scene : Utility.TestScene := ⟨s.machine.tree, s.process.directory, true⟩
    (s.expanding outputs (Conditional.holds scene words) fun s value =>
      s.settle (if value then 0 else 1)).done
  | .compute expression line =>
    let s := s.mapSession fun t => { t with line }
    let value : Expand Int := do computeText (← expandText expression).toList
    (s.expanding outputs value fun s n => s.settle (if n = 0 then 1 else 0)).done

/-- Performs a statement: first the commands whose output it takes. -/
def perform (s : Scene) (statement : Statement) : Performed :=
  match commandsOf statement with
  | [] => s.performWith [] statement
  | todo => (s.control (.collect ⟨statement, todo, [], none, []⟩)).done

end Scene

end Overseer.Shell
