import Overseer.FileTree.Basic
import Overseer.Machine.Signal

/-!
# The Machine

The machine that commands run on: processes with what they have open, the pipes between them, a
file tree and a clock.  What a process does is left open here; it is the body of the process.
Times are microseconds.

Supervisors ask little of the machine: that a pipe is a queue of bytes with two ends, that a signal
reaches a process or its group, and that the end of a process can be learned.  The rest is there so
that the programs which are supervised can run, and whole runs of the program can be looked at.
-/

namespace Overseer

/-- Something a process has open. -/
inductive Handle where
  /-- The end of a pipe where bytes go in. -/
  | pipeEntry (pipe : Nat)
  /-- The end of a pipe where bytes come out. -/
  | pipeExit (pipe : Nat)
  /-- An open file. -/
  | file (id : Nat)
  /-- The device that swallows what is written to it. -/
  | sink
  /-- The device that yields zero bytes. -/
  | zeros
deriving DecidableEq

/-- A file that is open, and where in it the next byte is. -/
structure OpenFile where
  place : Place
  offset : Nat
  appends : Bool
deriving DecidableEq

/-- How a process ended. -/
inductive EndStatus where
  | exited (code : Nat)
  | signaled (signal : Signal)
deriving DecidableEq

/-- The exit code that stands for a way to end: that of the process, or 128 and the signal. -/
def EndStatus.code : EndStatus → Nat
  | .exited code => code
  | .signaled signal => 128 + signal

/-- A process. -/
structure Process (β : Type) where
  pid : Nat
  parent : Nat
  group : Nat
  /-- What is open, by its number.  Numbers from ten on are not handed on to another program. -/
  handles : List (Nat × Handle)
  directory : Place
  environment : List (String × String)
  ignored : List Signal
  /-- The signals that the body deals with itself. -/
  caught : List Signal
  pending : List Signal
  stopped : Bool
  ended : Option EndStatus
  /-- When the process can go on. -/
  readyAt : Nat
  body : β

/-- The machine. -/
structure Machine (β : Type) where
  /-- The time on the clock, in microseconds since it began. -/
  now : Nat
  /-- The moment at which the clock began, in milliseconds since 1970. -/
  begunAt : Int
  tree : FileTree
  /-- The bytes in each pipe. -/
  pipes : List (Nat × List UInt8)
  files : List (Nat × OpenFile)
  processes : List (Process β)
  /-- What is held open from outside the processes. -/
  held : List Handle
  nextId : Nat
  nextPid : Nat

namespace Process

variable {β : Type}

/-- What is open under a number. -/
def handle? (p : Process β) (fd : Nat) : Option Handle := (p.handles.find? (·.1 == fd)).map (·.2)

/-- Opens something under a number, in the stead of what was open there. -/
def setHandle (p : Process β) (fd : Nat) (h : Handle) : Process β :=
  { p with handles := (fd, h) :: p.handles.filter (·.1 != fd) }

/-- Closes what is open under a number. -/
def closeHandle (p : Process β) (fd : Nat) : Process β :=
  { p with handles := p.handles.filter (·.1 != fd) }

/-- The least number from ten on under which nothing is open. -/
def spareFd (p : Process β) : Nat :=
  ((List.range (p.handles.length + 1)).map (· + 10)).find? (fun fd => (p.handle? fd).isNone)
    |>.getD 10

/-- Closes what is not handed on to another program. -/
def closePrivate (p : Process β) : Process β :=
  { p with handles := p.handles.filter (·.1 < 10) }

/-- Whether the process is still there. -/
def isAlive (p : Process β) : Bool := p.ended.isNone

/-- What a signal does to a process, apart from its end: the process after it, and whether the
signal ends it. -/
def receive (p : Process β) (signal : Signal) : Process β × Bool :=
  -- The signal with the number zero only asks whether the process is there.
  if signal = 0 then (p, false)
  else if signal = Signal.kill then (p, true)
  else if signal = Signal.stop then ({ p with stopped := true }, false)
  -- A process goes on at the signal for it even if it ignores that signal.
  else if p.ignored.contains signal then
    (if signal = Signal.continued then { p with stopped := false } else p, false)
  else if p.caught.contains signal then
    ({ p with
      pending := if p.pending.contains signal then p.pending else p.pending ++ [signal]
      stopped := if signal = Signal.continued then false else p.stopped }, false)
  else
    match signal.effect with
    | .nothing => (p, false)
    | .stops => ({ p with stopped := true }, false)
    | .continues =>
      let fatal := p.pending.any fun s => !p.caught.contains s
      ({ p with stopped := false }, fatal)
    | .ends =>
      -- A stopped process ends when it goes on again.
      if p.stopped then ({ p with pending := p.pending ++ [signal] }, false) else (p, true)

end Process

namespace Machine

variable {β : Type}

/-- The process number of what is outside. -/
def outsidePid : Nat := 1

/-- The moment in milliseconds since 1970. -/
def moment (m : Machine β) : Int := m.begunAt + (m.now / 1000 : Nat)

/-- The moment at which the clock of a new machine begins. -/
def beginning : Int := 1760000000000

/-- A machine on which nothing runs. -/
def new (tree : FileTree) : Machine β := ⟨0, beginning, tree, [], [], [], [], 0, 1000⟩

/-! ## Processes -/

/-- The process with a number. -/
def process? (m : Machine β) (pid : Nat) : Option (Process β) :=
  m.processes.find? (·.pid == pid)

/-- Puts a process in the stead of the one with its number. -/
def setProcess (m : Machine β) (p : Process β) : Machine β :=
  { m with processes := m.processes.map fun q => if q.pid == p.pid then p else q }

/-- Adds a process and tells its number. -/
def addProcess (m : Machine β) (p : Process β) : Nat × Machine β :=
  (m.nextPid,
    { m with processes := m.processes ++ [{ p with pid := m.nextPid }], nextPid := m.nextPid + 1 })

/-- Takes a process off that nobody asks about any more. -/
def dropProcess (m : Machine β) (pid : Nat) : Machine β :=
  { m with processes := m.processes.filter (·.pid != pid) }

/-- Ends a process.  Its children lose their parent, and it stays until its own parent has seen how
it ended. -/
def endProcess (m : Machine β) (pid : Nat) (status : EndStatus) : Machine β :=
  let processes := m.processes.filterMap fun p =>
    if p.pid == pid then
      -- Nobody will ask how it ended.
      if p.parent == 0 then none
      else some { p with ended := some status, handles := [], pending := [] }
    else if p.parent == pid then
      if p.ended.isSome then none else some { p with parent := 0 }
    else some p
  { m with processes }

/-- How a process ended, if it has. -/
def endOf? (m : Machine β) (pid : Nat) : Option EndStatus := (m.process? pid).bind (·.ended)

/-- Sends a signal to a process and tells whether the process is there. -/
def signal (m : Machine β) (pid : Nat) (s : Signal) : Bool × Machine β :=
  match m.process? pid with
  | none => (false, m)
  | some p =>
    if !p.isAlive then (true, m)
    else
      let (p, fatal) := p.receive s
      let m := m.setProcess p
      if fatal then
        -- A process that goes on dies of what came while it was stopped.
        let first := (p.pending.find? fun s => !p.caught.contains s).getD s
        (true, m.endProcess pid (.signaled (if s = Signal.continued then first else s)))
      else (true, m)

/-- Sends a signal to all processes of a group and tells whether there is one. -/
def signalGroup (m : Machine β) (group : Nat) (s : Signal) : Bool × Machine β :=
  (m.processes.filter fun p => p.group == group).foldl
    (fun (found, m) p =>
      let (here, m) := m.signal p.pid s
      (found || here, m)) (false, m)

/-! ## Pipes -/

/-- How many bytes a pipe holds before a writer has to wait. -/
def pipeCapacity : Nat := 65536

/-- Makes a pipe. -/
def newPipe (m : Machine β) : Nat × Machine β :=
  (m.nextId, { m with pipes := (m.nextId, []) :: m.pipes, nextId := m.nextId + 1 })

/-- The bytes in a pipe. -/
def pipeBytes (m : Machine β) (pipe : Nat) : List UInt8 :=
  ((m.pipes.find? (·.1 == pipe)).map (·.2)).getD []

/-- Changes the bytes in a pipe. -/
def setPipe (m : Machine β) (pipe : Nat) (bytes : List UInt8) : Machine β :=
  { m with pipes := m.pipes.map fun q => if q.1 == pipe then (pipe, bytes) else q }

/-- Whether something is open anywhere. -/
def isOpen (m : Machine β) (h : Handle) : Bool :=
  m.held.contains h || m.processes.any fun p => p.handles.any (·.2 == h)

/-- Holds something open from outside. -/
def hold (m : Machine β) (h : Handle) : Machine β := { m with held := h :: m.held }

/-- Lets go of something that was held open from outside. -/
def letGo (m : Machine β) (h : Handle) : Machine β := { m with held := m.held.erase h }

/-! ## Reading and writing -/

/-- What a reader finds. -/
inductive ReadResult where
  | bytes (bytes : List UInt8)
  | ended
  | blocked
  | failed (e : FileError)

/-- The content of the file at a place. -/
def contentAt (m : Machine β) (place : Place) : Except FileError (List UInt8) :=
  match m.tree.at? place with
  | some { entry := .file content, .. } => .ok content
  | some { entry := .directory, .. } => .error .isDirectory
  | some _ => .ok []
  | none => if place.isEmpty then .error .isDirectory else .ok []

/-- Reads at most `limit` bytes. -/
def read (m : Machine β) (h : Handle) (limit : Nat) : ReadResult × Machine β :=
  match h with
  | .pipeExit pipe =>
    match m.pipeBytes pipe with
    -- An empty pipe is at its end only when nobody can write into it any more.
    | [] => (if m.isOpen (.pipeEntry pipe) then .blocked else .ended, m)
    | bytes => (.bytes (bytes.take limit), m.setPipe pipe (bytes.drop limit))
  | .file id =>
    match m.files.find? (·.1 == id) with
    | none => (.failed .invalidArgument, m)
    | some (_, f) =>
      match m.contentAt f.place with
      | .error e => (.failed e, m)
      | .ok content =>
        let bytes := (content.drop f.offset).take limit
        if bytes.isEmpty then (.ended, m)
        else
          let f := { f with offset := f.offset + bytes.length }
          (.bytes bytes, { m with files := m.files.map fun q => if q.1 == id then (id, f) else q })
  | .sink => (.ended, m)
  | .zeros => (.bytes (List.replicate limit 0), m)
  | .pipeEntry _ => (.failed .invalidArgument, m)

/-- What a writer learns. -/
inductive WriteResult where
  | done
  | blocked
  | broken
  | failed (e : FileError)

/-- Content with bytes put at an offset. -/
def overwrite (content : List UInt8) (offset : Nat) (bytes : List UInt8) : List UInt8 :=
  content.take offset ++ List.replicate (offset - content.length) 0 ++ bytes ++
    content.drop (offset + bytes.length)

/-- Writes bytes. -/
def write (m : Machine β) (h : Handle) (bytes : List UInt8) : WriteResult × Machine β :=
  match h with
  | .pipeEntry pipe =>
    let there := m.pipeBytes pipe
    if !m.isOpen (.pipeExit pipe) then (.broken, m)
    -- A write is taken as a whole as soon as there is any room.
    else if pipeCapacity ≤ there.length then (.blocked, m)
    else (.done, m.setPipe pipe (there ++ bytes))
  | .file id =>
    match m.files.find? (·.1 == id) with
    | none => (.failed .invalidArgument, m)
    | some (_, f) =>
      if f.appends then
        (.done, { m with tree := m.tree.write m.moment f.place fun content => content ++ bytes })
      else
        let tree := m.tree.write m.moment f.place fun content => overwrite content f.offset bytes
        let f := { f with offset := f.offset + bytes.length }
        (.done, { m with tree, files := m.files.map fun q => if q.1 == id then (id, f) else q })
  | .sink | .zeros => (.done, m)
  | .pipeExit _ => (.failed .invalidArgument, m)

/-- How a file is opened. -/
inductive OpenMode where
  | read
  /-- Made if it is missing, and emptied. -/
  | write
  /-- Made if it is missing, and written at its end. -/
  | append
  /-- Made if it is missing, read and written from its start. -/
  | readWrite
deriving DecidableEq

/-- What is open for a file at a place. -/
def openPlace (m : Machine β) (place : Place) (appends : Bool) : Handle × Machine β :=
  match m.tree.at? place with
  | some { entry := .sink, .. } => (.sink, m)
  | some { entry := .zeros, .. } => (.zeros, m)
  | _ =>
    (.file m.nextId,
      { m with files := (m.nextId, ⟨place, 0, appends⟩) :: m.files, nextId := m.nextId + 1 })

/-- Whether a place holds a device. -/
def isDevice (m : Machine β) (place : Place) : Bool :=
  match m.tree.at? place with
  | some { entry := .sink, .. } | some { entry := .zeros, .. } => true
  | _ => false

/-- Opens a file. -/
def openFile (m : Machine β) (directory : Place) (path : String) (mode : OpenMode) :
    Except FileError (Handle × Machine β) :=
  if mode = .read then
    match m.tree.resolve directory path true with
    | .error e => .error e
    | .ok place =>
      if (m.tree.at? place).all FileNode.isReadable then .ok (m.openPlace place false)
      else .error .denied
  else
    match m.tree.target directory path with
    | .error e => .error e
    | .ok place =>
      if m.isDevice place then .ok (m.openPlace place false)
      else
        let empty := fun content => if mode = .write then [] else content
        let m := { m with tree := m.tree.write m.moment place empty }
        .ok (m.openPlace place (mode = .append))

end Machine

end Overseer
