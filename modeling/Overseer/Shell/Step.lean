import Overseer.Shell.Perform

/-!
# Steps of a Shell

One step of a shell: it writes what is still to be written, sees to a signal, or does what its
control says.  A shell that has to wait takes no step.

A step ends with the shell put back into its process, and with the time at which the process may go
on.
-/

namespace Overseer.Shell

namespace Scene

/-! ## Going on -/

/-- Goes on behind a statement that is done. -/
def resume (s : Scene) : Scene :=
  let status := s.session.status
  match s.shell.frames with
  | [] => s.control .exit
  | .script .. :: _ => s.control .advance
  | .sequence [] :: rest => s.frames rest
  -- The last statement of a sequence leaves no frame, so that it may take the place of the shell.
  | .sequence [statement] :: rest => (s.frames rest).control (.perform statement)
  | .sequence (statement :: others) :: rest =>
    (s.frames (.sequence others :: rest)).control (.perform statement)
  | .both right :: rest =>
    if status = 0 then (s.frames rest).control (.perform right) else s.frames rest
  | .either right :: rest =>
    if status = 0 then s.frames rest else (s.frames rest).control (.perform right)
  | .negate :: rest => (s.frames rest).value (if status = 0 then 1 else 0)
  | .choice consequence alternative :: rest =>
    let s := s.frames rest
    if status = 0 then s.control (.perform consequence)
    else
      match alternative with
      | some statement => s.control (.perform statement)
      | none => s.value 0
  | .condition whileTrue condition body last :: rest =>
    if (status == 0) == whileTrue then
      (s.frames (.round whileTrue condition body :: rest)).control (.perform body)
    else (s.frames rest).value last
  | .round whileTrue condition body :: rest =>
    (s.frames (.condition whileTrue condition body status :: rest)).control (.perform condition)
  | .each name values body :: rest =>
    match values with
    | [] => s.frames rest
    | value :: values =>
      -- The value is given before each round, and stays with the variable behind the last.
      ((s.frames (.each name values body :: rest)).mapSession
        fun t => t.assign name value).control (.perform body)
  | .restore saved :: rest => (s.mapProcess fun p => putBack p saved).frames rest
  | .assigned saved :: rest => (s.mapSession fun t => restoreVariables t saved).frames rest
  | .call parameters locals :: rest =>
    ((s.mapSession fun t =>
      { restoreVariables t locals with parameters }).frames rest).settle status

/-- Goes on behind a script that is at its end. -/
def finishScript (s : Scene) (kind : ScriptKind) (rest : List Frame) : Scene :=
  match kind with
  | .main _ => s.control .exit
  | .nested => (s.frames rest).control .value
  | .file parameters => ((s.mapSession fun t => { t with parameters }).frames rest).control .value
  | .trap status control =>
    ((s.mapSession fun t => { t with status }).frames rest).control control
  | .final status => (s.frames []).quit status
  | .dying signal => s.control (.die signal)

/-- Goes out of loops and functions. -/
def leave (s : Scene) (what : Leaving) : List Frame → Scene
  | [] =>
    match what with
    | .function => (s.frames []).control .exit
    | _ => (s.frames []).control .value
  | frame :: rest =>
    match what, frame with
    | _, .restore saved => (s.mapProcess fun p => putBack p saved).leave what rest
    | _, .assigned saved => (s.mapSession fun t => restoreVariables t saved).leave what rest
    | _, .script _ .nested => s.leave what rest
    | .loops n, .condition .. | .loops n, .round .. | .loops n, .each .. =>
      if n ≤ 1 then (s.frames rest).value 0 else s.leave (.loops (n - 1)) rest
    | .rounds n, .condition whileTrue condition body _
    | .rounds n, .round whileTrue condition body =>
      if n ≤ 1 then
        (s.frames (.condition whileTrue condition body 0 :: rest)).control (.perform condition)
      else s.leave (.rounds (n - 1)) rest
    | .rounds n, .each .. =>
      if n ≤ 1 then (s.frames (frame :: rest)).value 0 else s.leave (.rounds (n - 1)) rest
    | .function, .call parameters locals =>
      ((s.mapSession fun t =>
        { restoreVariables t locals with parameters }).frames rest).settle s.session.status
    | .function, .script _ kind => s.finishScript kind rest
    -- A function or a script is no loop: what was asked for ends at its edge.
    | .loops _, .call .. | .rounds _, .call .. | .loops _, .script .. | .rounds _, .script .. =>
      (s.frames (frame :: rest)).value 0
    | _, _ => s.leave what rest

/-! ## Scripts -/

/-- Ends a script that is none. -/
def rejectScript (s : Scene) (source : Source) (kind : ScriptKind) (rest : List Frame)
    (e : SyntaxError) : Scene :=
  let origin := match kind with
    | .main origin => origin
    | .nested => .evaluation
    | _ => .file
  let dialect := s.session.dialect
  let s := s.write 2 (e.message dialect s.session.name origin source).toList
  match dialect, kind with
  -- The large shell goes on behind such a text, and the small one ends with it.
  | .bash, .nested | .bash, .file _ => s.finishScript kind rest |>.value 2
  | _, _ => s.quit 2

/-- Writes about documents without an end. -/
def warn (s : Scene) (source : Source) (documents : List OpenDocument) : Scene :=
  match documentWarnings s.session.dialect s.session.name source documents with
  | "" => s
  | text => s.write 2 text.toList

/-- Checks a script and ends. -/
def checkScript (s : Scene) (source : Source) (kind : ScriptKind) (rest : List Frame) : Scene :=
  let (documents, error) := Shell.check s.session.dialect (source.text.length + 1) source
  let s := s.warn source documents
  match error with
  | some e => s.rejectScript source kind rest e
  | none => (s.frames []).quit 0

/-- Takes the next line of the script. -/
def advance (s : Scene) : Scene :=
  match s.shell.frames with
  | .script source kind :: rest =>
    if s.session.options.checkOnly then s.checkScript source kind rest
    else
      match (Shell.readLine s.session.dialect).run source with
      | .error e => s.rejectScript source kind rest e
      | .ok (none, _) => s.finishScript kind rest
      | .ok (some statement, later) =>
        let s := s.warn source later.openDocuments
        let later := { later with openDocuments := [] }
        (s.frames (.script later kind :: rest)).control (.perform statement)
  | _ => s.control .value

/-! ## Signals -/

/-- The signal that the shell sees to next. -/
def nextSignal? (s : Scene) : Option Signal :=
  -- While the shell waits, a signal with a trap waits, too.
  let waits := match s.shell.control with
    | .await .. | .loading _ => true
    | .collect c => c.current.isSome
    | _ => false
  s.process.pending.find? fun signal =>
    s.session.caught.contains signal && (!waits || (s.session.trap? signal).isNone)

/-- Sees to a signal: what was arranged for it is done next.  A wait for processes is over then. -/
def interrupt (s : Scene) (signal : Signal) : Scene :=
  let s := s.mapProcess fun p => { p with pending := p.pending.erase signal }
  match s.session.trap? signal with
  | some action =>
    let (status, control) := match s.shell.control, s.session.dialect with
      | .waitFor .., _ => (128 + signal, Control.value)
      | .reading _, .dash => (1, .value)
      | control, _ => (s.session.status, control)
    let script := Source.ofText action.toList s.session.line
    (s.push (.script script (.trap status control))).control .advance
  | none =>
    match s.session.trap? 0 with
    | some action =>
      let s := s.mapSession fun t => { t with traps := t.traps.filter (·.1 != 0) }
      (s.frames [.script (.ofText action.toList s.session.line) (.dying signal)]).control .advance
    | none => s.control (.die signal)

/-- What is done at the end of the shell, if something was arranged. -/
def finalAction? (s : Scene) : Option String := (s.session.trap? 0).filter (!·.isEmpty)

/-! ## Waiting -/

/-- The words for processes that a signal ended. -/
def deathNotices (s : Scene) (signals : List Signal) : Scene :=
  match s.session.dialect with
  | .dash =>
    signals.foldl (fun s signal =>
      if signal = Signal.interrupt || signal = Signal.brokenPipe then s
      else s.write 2 (signal.description ++ "\n").toList) s
  | .bash => s

/-- Goes on behind processes that have ended. -/
def await (s : Scene) (pids : List Nat) (last : Nat) : Option Scene :=
  -- A child that is not on the machine any more counts as one that was never found.
  let ends := pids.map fun pid => (s.machine.endOf? pid).or
    (if (s.machine.process? pid).isSome then none else some (.exited 127))
  if ends.any Option.isNone then none
  else
    let ends := ends.filterMap id
    let status := ((pids.zip ends).find? (·.1 == last)).map (·.2.code) |>.getD 0
    -- Of a pipeline the last failure counts then, and not the last program.
    let status := if s.session.options.pipeFail then
        ((ends.map EndStatus.code).reverse.find? (· != 0)).getD 0
      else status
    let signals := ends.filterMap fun e => match e with
      | .signaled signal => some signal
      | .exited _ => none
    let machine := pids.foldl Machine.dropProcess s.machine
    some (({ s with machine } : Scene).deathNotices signals |>.settle status)

/-- Goes on behind processes in the background that have ended. -/
def waitFor (s : Scene) (pids : List Nat) (last : Option Nat) : Option Scene :=
  if pids.any fun pid => (s.machine.process? pid).any Process.isAlive then none
  else
    let ending := last.bind s.machine.endOf?
    let s := s.mapShell fun sh => { sh with jobs := sh.jobs.filter fun j => !pids.contains j }
    let s := { s with machine := pids.foldl Machine.dropProcess s.machine }
    let s := match ending with
      | some (.signaled signal) => s.deathNotices [signal]
      | _ => s
    some (match last with
      | none => s.value 0
      | some _ => s.settle ((ending.map EndStatus.code).getD 127))

/-- Collects the output of the commands that a statement takes. -/
def collect (s : Scene) (c : Collecting) : Option Performed :=
  match c.current, c.todo with
  | none, [] => some (s.performWith c.outputs.reverse c.statement)
  | none, source :: todo =>
    let (pipe, machine) := s.machine.newPipe
    let line := s.session.line
    let (pid, s) := ({ s with machine } : Scene).fork .advance
      [.script (.ofText source line) (.main .substitution)] fun p => p.setHandle 1 (.pipeEntry pipe)
    let s := s.mapProcess fun p => p.setHandle p.spareFd (.pipeExit pipe)
    some (s.control (.collect { c with todo, current := some (pid, pipe), written := [] })).done
  | some (pid, pipe), _ =>
    match s.machine.read (.pipeExit pipe) Machine.pipeCapacity with
    | (.bytes bytes, machine) =>
      some (({ s with machine } : Scene).control
        (.collect { c with written := bytes.reverse ++ c.written })).done
    | (.blocked, _) => none
    | (_, machine) =>
      match s.machine.endOf? pid with
      -- The output is at its end, and the command may still run.
      | none => none
      | some ending =>
        -- Newlines at the end are no part of the output, and neither are zero bytes anywhere.
        let output := (Raw.ofBytes (c.written.dropWhile (· == 10)).reverse).filter (· != '\x00')
        let s : Scene := { s with machine := machine.dropProcess pid }
        let s := s.mapProcess fun p =>
          { p with handles := p.handles.filter (·.2 != .pipeExit pipe) }
        let s := s.mapSession fun t => { t with status := ending.code }
        some (s.control (.collect { c with outputs := output :: c.outputs, current := none })).done

/-- Reads the whole script from the input. -/
def load (s : Scene) (read : List UInt8) : Option Scene :=
  let begin (s : Scene) : Scene :=
    (s.push (.script (.ofText (Raw.ofBytes read.reverse) 1) (.main .file))).control .advance
  match s.process.handle? 0 with
  | none => some (begin s)
  | some h =>
    match s.machine.read h Machine.pipeCapacity with
    | (.bytes bytes, machine) =>
      some (({ s with machine } : Scene).control (.loading (bytes.reverse ++ read)))
    | (.blocked, _) => none
    | (_, machine) => some (begin { s with machine })

/-! ## Programs -/

/-- What a shell writes about a command that cannot be run, and its status. -/
def launchFailure (s : Scene) (name : String) (replaces : Bool) (e : FileError) : String × Nat :=
  let isPath := name.toList.contains '/'
  let here := s.process.directory
  match s.session.dialect with
  | .dash =>
    let name := if replaces then "exec: " ++ name else name
    if e = .notFound || e = .notDirectory then (name ++ ": not found", 127)
    else (name ++ ": " ++ e.reason, 126)
  | .bash =>
    if e = .notFound then
      if !isPath then
        (if replaces then "exec: " ++ name ++ ": not found" else name ++ ": command not found", 127)
      else if s.machine.tree.isFile here (Raw.toText name) then
        (name ++ ": cannot execute: required file not found", 127)
      else (name ++ ": " ++ e.reason, 127)
    else if s.machine.tree.isDirectory here (Raw.toText name) then
      (name ++ ": Is a directory", 126)
    else (name ++ ": " ++ e.reason, 126)

/-- Runs a program in the place of the shell.  A file that is no program is a script for the same
kind of shell. -/
def launch (s : Scene) (i : Invocation) : Computer :=
  match s.redirectForGood i.requests with
  | .error message =>
    ((s.complain message).quit (redirectionStatus s.session.dialect)).commit stepCost
  | .ok s =>
    let t := i.assignments.foldl (fun t (name, value) =>
      (t.assign name value).markExported name) s.session
    let environment := t.environment
    let searchPath := (t.value? "PATH").getD Launch.defaultSearchPath
    let name := i.fields.headD ""
    -- What was arranged for signals is lost with the shell; what is ignored stays ignored.
    let p := { s.process with ignored := s.ignored }
    let run (m : Computer) (p : Process Body) : Computer :=
      m.setProcess { p with readyAt := m.now + programCost }
    let fail (e : FileError) : Computer :=
      let (message, status) := s.launchFailure name i.replaces e
      (((s.complain message).frames []).quit status).commit stepCost
    match Launch.execute s.machine p searchPath i.fields environment with
    | .ok (m, p) => run m p
    | .error .noProgram =>
      match Launch.findProgram s.machine.tree p.directory searchPath (Raw.toText name) with
      | .ok path =>
        let words := s.session.name :: Raw.ofText path :: i.fields.drop 1
        let shell := Launch.startShell s.session.dialect s.machine.tree p.directory p.pid
          environment words
        run s.machine (Launch.install p environment (.shell shell))
      | .error e => fail e
    | .error e => fail e

/-! ## Steps -/

/-- Ends the shell, after what was arranged for its end. -/
def finish (s : Scene) : Computer :=
  match s.finalAction? with
  | some action =>
    -- The action is done once, even if it ends the shell itself.
    let s := s.mapSession fun t => { t with traps := t.traps.filter (·.1 != 0) }
    let s := s.mapProcess fun p => unwind p s.shell.frames
    let frame := Frame.script (.ofText action.toList s.session.line) (.final s.session.status)
    ((s.frames [frame]).control .advance).commit stepCost
  | none => s.machine.endProcess s.process.pid (.exited (s.session.status % 256))

/-- Sends signals when a step is over. -/
def send (m : Computer) (sendings : List Sending) : Computer :=
  sendings.foldl (fun m x =>
    if x.toGroup then (m.signalGroup x.target x.signal).2 else (m.signal x.target x.signal).2) m

/-- The machine behind a command that was carried out. -/
def conclude (performed : Performed) : Computer :=
  send (performed.scene.commit stepCost) performed.sendings

/-- Does what the control says. -/
def follow (s : Scene) : Option Computer :=
  match s.shell.control with
  | .advance => some (s.advance.commit stepCost)
  | .perform statement => some (conclude (s.perform statement))
  | .value => some (s.resume.commit stepCost)
  | .collect c => (s.collect c).map conclude
  | .launch i => some (s.launch i)
  | .await pids last => (s.await pids last).map (·.commit stepCost)
  | .waitFor pids last => (s.waitFor pids last).map (·.commit stepCost)
  | .reading r => (s.readOn r).map (·.commit stepCost)
  | .loading read => (s.load read).map (·.commit stepCost)
  | .leave what => some ((s.leave what s.shell.frames).commit stepCost)
  | .exit => some s.finish
  | .die signal => some (s.machine.endProcess s.process.pid (.signaled signal))

/-- Writes bytes.  Who writes where nobody reads gets a signal. -/
def writeOut (s : Scene) (fd : Nat) (bytes : List UInt8) (later : List (Nat × List UInt8)) :
    Option Computer :=
  let s := s.mapShell fun sh => { sh with output := later }
  let failed (s : Scene) : Scene :=
    match s.shell.control with
    | .value => s.mapSession fun t => { t with status := 1 }
    | _ => s
  match s.process.handle? fd with
  | none => some ((failed s).commit stepCost)
  | some h =>
    match s.machine.write h bytes with
    | (.done, machine) => some (({ s with machine } : Scene).commit stepCost)
    | (.blocked, _) => none
    | (.broken, _) =>
      some (((failed s).commit stepCost).signal s.process.pid Signal.brokenPipe).2
    | (.failed _, _) => some ((failed s).commit stepCost)

/-- One step of a shell, unless it has to wait. -/
def step (s : Scene) : Option Computer :=
  match s.shell.output with
  | (fd, bytes) :: later => s.writeOut fd bytes later
  | [] =>
    match s.nextSignal? with
    | some signal => some ((s.interrupt signal).commit stepCost)
    | none => s.follow

end Scene

end Overseer.Shell
