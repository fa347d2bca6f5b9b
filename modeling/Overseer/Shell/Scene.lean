import Overseer.Machine.Launch
import Overseer.Shell.Complaint

/-!
# A Shell on its Machine

A shell, the process it runs in and the machine, as they are in the middle of a step.  What the
machine itself says about the process is out of date until the step is over.

Shells and utilities are here for whole runs of a host: they are the programs that an overseer
starts.  What holds of an overseer holds with any programs, and rests on nothing that a shell does.
-/

namespace Overseer.Shell

/-- A shell, its process and the machine. -/
structure Scene where
  machine : Computer
  process : Process Body
  shell : Shell

namespace Scene

/-! ## Costs -/

/-- The microseconds that a small step takes. -/
def stepCost : Nat := 10

/-- The microseconds after which a new process begins. -/
def childDelay : Nat := 300

/-- The microseconds that it takes to begin a program. -/
def programCost : Nat := 500

/-! ## Parts -/

/-- The session. -/
def session (s : Scene) : Session := s.shell.session

/-- Changes the shell. -/
def mapShell (s : Scene) (f : Shell → Shell) : Scene := { s with shell := f s.shell }

/-- Changes the session. -/
def mapSession (s : Scene) (f : Session → Session) : Scene :=
  s.mapShell fun sh => { sh with session := f sh.session }

/-- Changes the process. -/
def mapProcess (s : Scene) (f : Process Body → Process Body) : Scene :=
  { s with process := f s.process }

/-- Decides what is done next. -/
def control (s : Scene) (c : Control) : Scene := s.mapShell fun sh => { sh with control := c }

/-- Puts a frame on the others. -/
def push (s : Scene) (f : Frame) : Scene :=
  s.mapShell fun sh => { sh with frames := f :: sh.frames }

/-- Puts frames in the place of all others. -/
def frames (s : Scene) (fs : List Frame) : Scene := s.mapShell fun sh => { sh with frames := fs }

/-- Goes on with a status. -/
def value (s : Scene) (status : Nat) : Scene :=
  (s.mapSession fun t => { t with status }).control .value

/-- Ends the shell with a status. -/
def quit (s : Scene) (status : Nat) : Scene :=
  (s.mapSession fun t => { t with status }).control .exit

/-! ## Writing -/

/-- Writes a text. -/
def write (s : Scene) (fd : Nat) (text : List Char) : Scene :=
  if text.isEmpty then s
  else s.mapShell fun sh => { sh with output := sh.output ++ [(fd, Raw.toBytes text)] }

/-- Writes a complaint with its start. -/
def complain (s : Scene) (message : String) : Scene :=
  s.write 2 (s.session.complaintStart ++ message ++ "\n").toList

/-- Writes what a utility that is built in has to say, and goes on with its status. -/
def result (s : Scene) (r : Utility.Result) : Scene :=
  (r.written.foldl (fun (s : Scene) (stream, text) => s.write stream.fd text) s).value r.status

/-! ## The end of a step -/

/-- The signals that the process ignores, as the traps of the session would have it. -/
def ignored (s : Scene) : List Signal :=
  let silenced := s.session.traps.filterMap fun (signal, action) =>
    if action.isEmpty then some signal else none
  (s.process.ignored.filter fun signal => !silenced.contains signal) ++ silenced

/-- The machine after the step. -/
def commit (s : Scene) (cost : Nat) : Computer :=
  s.machine.setProcess { s.process with
    caught := s.session.caught
    ignored := s.ignored
    readyAt := s.machine.now + cost
    body := .shell s.shell }

/-! ## Children -/

/-- The session of a child: what was arranged for signals is forgotten, unless they are ignored. -/
def childSession (s : Session) : Session := { s with traps := s.traps.filter (·.2.isEmpty) }

/-- Whether a failure here is looked at by something around it. -/
def isTested (frames : List Frame) : Bool :=
  frames.any fun f => match f with
    | .both _ | .either _ | .negate | .choice .. | .condition .. => true
    | _ => false

/-- Makes a child that begins with a control and frames, after its process was changed. -/
def fork (s : Scene) (control : Control) (frames : List Frame)
    (change : Process Body → Process Body) : Nat × Scene :=
  let session := childSession s.session
  -- A failure that is looked at ends no shell, and a child does not know who looks.
  let session := if isTested s.shell.frames then
      { session with options := { session.options with exitOnError := false } }
    else session
  let child := change { s.process with
    parent := s.process.pid
    caught := []
    ignored := s.ignored
    pending := []
    readyAt := s.machine.now + childDelay
    body := .shell ⟨session, control, frames, [], []⟩ }
  let (pid, machine) := s.machine.addProcess child
  (pid, { s with machine })

/-- Whether nothing is left to do after the command that is performed now, so that it may take the
place of the shell. -/
def isLast (s : Scene) : Bool :=
  s.session.traps.isEmpty &&
    match s.shell.frames with
    | [] => true
    | [.script source (.main origin)] => origin != .file && isAtEnd source
    | _ => false

/-! ## Redirections -/

/-- Keeps what is open under a number under another, so that it can be put back. -/
def save (p : Process Body) (fd : Nat) : Process Body × (Nat × Option Nat) :=
  match p.handle? fd with
  | none => (p, (fd, none))
  | some h =>
    let spare := p.spareFd
    (p.setHandle spare h, (fd, some spare))

/-- Puts back what was kept. -/
def putBack (p : Process Body) (saved : List (Nat × Option Nat)) : Process Body :=
  saved.foldl (fun p (fd, spare) =>
    match spare with
    | none => p.closeHandle fd
    | some spare =>
      match p.handle? spare with
      | some h => (p.setHandle fd h).closeHandle spare
      -- Nothing was kept there after all.
      | none => p.closeHandle fd) p

/-- What a shell writes about a file that cannot be opened. -/
def openComplaint (dialect : Dialect) (kind : RedirectionKind) (target : String) (e : FileError) :
    String :=
  match dialect with
  | .bash => target ++ ": " ++ e.reason
  | .dash =>
    -- The small shell has words of its own for what is missing.
    let isMissing := e = .notFound || e = .notDirectory
    if kind = .input then
      "cannot open " ++ target ++ ": " ++ if isMissing then "No such file" else e.reason
    else
      "cannot create " ++ target ++ ": " ++
        if isMissing then "Directory nonexistent" else e.reason

/-- How a file is opened for a redirection. -/
def openMode : RedirectionKind → Machine.OpenMode
  | .output => .write
  | .append => .append
  | .readWrite => .readWrite
  | _ => .read

/-- Opens what one redirection asks for. -/
def openOne (dialect : Dialect) (m : Computer) (p : Process Body) (r : OpenRequest) :
    Except String (Computer × Process Body) :=
  match r.kind with
  | .duplicate =>
    if r.target = "-" then .ok (m, p.closeHandle r.fd)
    else
      match (Text.decimal? r.target.toList).bind p.handle? with
      | some h => .ok (m, p.setHandle r.fd h)
      | none => .error (r.target ++ ": Bad file descriptor")
  | .document =>
    -- Nobody holds the entry of the pipe, so its reader meets the end behind the text.
    let (pipe, m) := m.newPipe
    .ok (m.setPipe pipe (Raw.toBytes r.target.toList), p.setHandle r.fd (.pipeExit pipe))
  | kind =>
    match m.openFile p.directory (Raw.toText r.target) (openMode kind) with
    | .ok (h, m) => .ok (m, p.setHandle r.fd h)
    | .error e => .error (openComplaint dialect kind r.target e)

/-- Opens what redirections ask for.  If `keeps` holds, what was open before is kept, and the list
tells where, the last one first. -/
def openAll (dialect : Dialect) (keeps : Bool) (m : Computer) (p : Process Body) :
    List OpenRequest →
      Computer × Process Body × List (Nat × Option Nat) × Option String
  | [] => (m, p, [], none)
  | r :: rs =>
    let (p, kept) := if keeps then
        let (p, s) := save p r.fd
        (p, [s])
      else (p, [])
    match openOne dialect m p r with
    | .error e => (m, p, kept, some e)
    | .ok (m, p) =>
      let (m, p, later, failure) := openAll dialect keeps m p rs
      -- What was opened last is undone first.
      (m, p, later ++ kept, failure)

/-- Opens what redirections ask for, for as long as a command runs; the frame that undoes it is put
on the others.  If one fails, all are undone and the complaint is told. -/
def redirect (s : Scene) (requests : List OpenRequest) : Except String Scene :=
  if requests.isEmpty then .ok s
  else
    let (machine, process, saved, failure) :=
      openAll s.session.dialect true s.machine s.process requests
    match failure with
    | some message => .error message
    | none => .ok (({ s with machine, process } : Scene).push (.restore saved))

/-- Opens what redirections ask for, for good. -/
def redirectForGood (s : Scene) (requests : List OpenRequest) : Except String Scene :=
  let (machine, process, _, failure) :=
    openAll s.session.dialect false s.machine s.process requests
  match failure with
  | some message => .error message
  | none => .ok { s with machine, process }

/-- What was kept by the frames that are still there is put back. -/
def unwind (p : Process Body) (frames : List Frame) : Process Body :=
  frames.foldl (fun p f => match f with
    | .restore saved => putBack p saved
    | _ => p) p

/-! ## Variables -/

/-- Gives variables values for as long as a command runs, and marks them for its environment. -/
def assignFor (s : Scene) (assignments : List (String × String)) : Scene :=
  if assignments.isEmpty then s
  else
    let saved := assignments.map fun (name, _) => (name, s.session.variableNamed? name)
    (s.mapSession fun t => assignments.foldl (fun t (name, value) =>
      (t.assign name value).markExported name) t).push (.assigned saved.reverse)

/-- Puts variables back. -/
def restoreVariables (t : Session) (saved : List (String × Option Variable)) : Session :=
  saved.foldl (fun t (name, old) => match old with
    | some v => t.setVariable name v
    | none => t.unset name) t

end Scene

end Overseer.Shell
