import Overseer.Machine.Installation
import Overseer.Machine.Schedule
import Overseer.Sink.Observer
import Overseer.Supervisor.Worker

/-!
# Hosts

A host runs commands on a machine under supervisors.  Each run has a worker; workers and processes
take turns, and when all of them wait, time passes.  A caller acts between two turns.

Times are microseconds on the machine and milliseconds for supervisors, whose limits and settings
are given so.  A start is one move of a host; that its critical sections might have others between
them is the matter of crews, of which a host is one.
-/

namespace Overseer

/-- A supervisor and the pipe into which answers for its run are written.  There is a pipe only
while the run is attached. -/
structure Seat where
  supervisor : Supervisor
  input : Option Nat

/-- A run: its worker, the seat it belongs to and the pipe from which its output comes.  A run that
is over stays, so that its report can be asked for. -/
structure Run where
  worker : Worker Observer
  seat : Nat
  output : Option Nat
  /-- When the worker can go on, in microseconds. -/
  readyAt : Nat

/-- A host: the machine, the supervisors by their seats, and all runs by their numbers. -/
structure Host where
  machine : Computer
  seats : List Seat
  runs : List Run
  /-- The environment of the host itself, in raw text. -/
  environment : List (String × String)
  /-- The directory of the host itself. -/
  directory : Place

namespace Host

/-- A host on which nothing has run. -/
def new (tree : FileTree) (directory : Place) (environment : List (String × String)) : Host :=
  ⟨Machine.new tree, [], [], environment, directory⟩

/-- The time in milliseconds. -/
def now (h : Host) : Nat := h.machine.now / 1000

/-- Adds a supervisor and tells the number of its seat. -/
def addSupervisor (h : Host) (tuning : Tuning) : Nat × Host :=
  (h.seats.length, { h with seats := h.seats ++ [⟨.new tuning, none⟩] })

/-- Changes the supervisor of a seat. -/
def modifySeat (h : Host) (seat : Nat) (f : Seat → Seat) : Host :=
  { h with seats := h.seats.modify seat f }

/-- Changes a run. -/
def modifyRun (h : Host) (run : Nat) (f : Run → Run) : Host :=
  { h with runs := h.runs.modify run f }

/-! ## Inputs of processes -/

/-- The reason given when nobody can read what is written. -/
def brokenPipeReason : String := "Broken pipe (os error 32)"

/-- How the input of a seat takes bytes now. -/
def replies (h : Host) (seat : Seat) : PipeReplies :=
  match seat.input with
  | some pipe =>
    -- Nothing reads from a pipe whose exit is closed everywhere, so a write into it fails.
    if h.machine.isOpen (.pipeExit pipe) then Pipe.sound.replies 0
    else (Pipe.broken brokenPipeReason).replies 0
  | none => Pipe.sound.replies 0

/-- Writes bytes into the input of a seat. -/
def feed (h : Host) (seat : Seat) (bytes : List UInt8) : Host :=
  match seat.input with
  | some pipe =>
    if bytes.isEmpty then h
    else { h with machine := h.machine.setPipe pipe (h.machine.pipeBytes pipe ++ bytes) }
  | none => h

/-- Lets go of the input of a seat. -/
def closeInput (h : Host) (number : Nat) : Host :=
  match h.seats[number]?.bind (·.input) with
  | some pipe =>
    { h with machine := h.machine.letGo (.pipeEntry pipe) }.modifySeat number fun s =>
      { s with input := none }
  | none => h

/-! ## Starting -/

/-- The reason given for a word that the machine cannot take. -/
def nulReason : String := "nul byte found in provided data"

/-- The environment of a command: that of the host with the variables of the command in their
places.  Of two variables with one name the later one counts, and the result is sorted by name. -/
def environmentFor (h : Host) (command : Command) : List (String × String) :=
  let added := command.environment.map fun (k, v) => (Raw.ofText k, Raw.ofText v)
  -- Each variable takes out those of its name in front of it.
  let merged := added.foldl (fun (vs : List (String × String)) (name, value) =>
    vs.filter (·.1 != name) ++ [(name, value)]) h.environment
  merged.mergeSort fun a b => decide (a.1 ≤ b.1)

/-- Whether a command holds a word that the machine cannot take. -/
def hasNul (command : Command) : Bool :=
  (command.words ++ command.workDirectory.toList ++
    command.environment.flatMap fun (k, v) => [k, v]).any fun word => word.toList.contains '\x00'

/-- The directory in which a command runs. -/
def directoryFor (h : Host) (command : Command) : Except FileError Place :=
  match command.workDirectory with
  | none => .ok h.directory
  | some path => do
    let place ← h.machine.tree.resolve h.directory path true
    if h.machine.tree.isOpenAt place then .ok place else .error (h.machine.tree.refusalAt place)

/-- Puts the program of a command into a process.  A command that brings a search path of its own is
looked for by a shell's rules, by which a file that is no program is a script. -/
def loadCommand (m : Computer) (p : Process Body) (command : Command)
    (environment : List (String × String)) : Except FileError (Computer × Process Body) :=
  let searchPath := (Launch.valueIn? environment "PATH").getD Launch.defaultSearchPath
  let words := command.words.map Raw.ofText
  match Launch.execute m p searchPath words environment with
  -- A file without an interpreter line.
  | .error .noProgram =>
    if command.environment.any (·.1 == "PATH") then do
      let path ← Launch.findProgram m.tree p.directory searchPath command.program
      Launch.load Launch.chainLimit m p "/bin/sh" ("/bin/sh" :: Raw.ofText path :: words.drop 1)
        environment
    else .error .noProgram
  | other => other

/-- Makes the process of a command, with a pipe into its input and one out of its outputs. -/
def spawn (h : Host) (command : Command) : Except String (Nat × Nat × Nat × Computer) :=
  if hasNul command then .error nulReason
  else
    match h.directoryFor command with
    | .error e => .error e.message
    | .ok directory =>
      let environment := h.environmentFor command
      let (input, m) := h.machine.newPipe
      let (output, m) := m.newPipe
      -- The host holds the other ends, or the pipes would be at their ends at once.
      let m := (m.hold (.pipeEntry input)).hold (.pipeExit output)
      let p : Process Body := {
        pid := m.nextPid
        parent := Machine.outsidePid
        group := m.nextPid
        handles := [(0, .pipeExit input), (1, .pipeEntry output), (2, .pipeEntry output)]
        directory
        environment
        ignored := []
        caught := []
        pending := []
        stopped := false
        ended := none
        readyAt := m.now + Shell.Scene.programCost
        body := .utility ⟨[], .finished 0⟩ }
      let (pid, m) := m.addProcess p
      match loadCommand m p command environment with
      | .error e => .error e.message
      | .ok (m, p) => .ok (pid, input, output, m.setProcess p)

/-- Starts a command under the supervisor of a seat and tells the number of the run.  If the process
cannot be made the reservation is given up, and the run has never been. -/
def start (h : Host) (seat : Nat) (command : Command) (observers : List Observer) :
    Except StartError Nat × Host :=
  match h.seats[seat]? with
  | none => (.error .starting, h)
  | some s =>
    match s.supervisor.reserve with
    | .error e => (.error e, h)
    | .ok (ticket, reserved) =>
      match h.spawn command with
      | .error reason =>
        (.error (.notStarted command.program reason),
          h.modifySeat seat fun s => { s with supervisor := reserved.release })
      | .ok (pid, input, output, machine) =>
        let announced := (reserved.announce pid command.display).attach
        let fanout := Fanout.ofSinks observers
        let worker := Worker.new announced.tuning command ticket pid h.now fanout
        -- Attaching lets go of an input that was still attached.
        let h := ({ h with machine } : Host).closeInput seat
        let h := h.modifySeat seat fun _ => ⟨announced, some input⟩
        (.ok h.runs.length,
          { h with runs := h.runs ++ [⟨worker, seat, some output, h.machine.now⟩] })

/-! ## Calls -/

/-- The supervisor of a seat. -/
def supervisor? (h : Host) (seat : Nat) : Option Supervisor := h.seats[seat]?.map (·.supervisor)

/-- What the supervisor of a seat does. -/
def activity (h : Host) (seat : Nat) : Activity :=
  ((h.supervisor? seat).map (·.activity)).getD .idle

/-- The prompt that waits for an answer. -/
def pendingPrompt? (h : Host) (seat : Nat) : Option String :=
  ((h.supervisor? seat).bind Supervisor.pendingPrompt?).map (·.text)

/-- Asks the run of a seat to stop, and tells whether there is one. -/
def cancel (h : Host) (seat : Nat) : Bool × Host :=
  match h.seats[seat]? with
  | none => (false, h)
  | some s =>
    let (found, supervisor) := s.supervisor.cancel
    (found, h.modifySeat seat fun s => { s with supervisor })

/-- Supplies an answer to the prompt that waits. -/
def answer (h : Host) (seat : Nat) (a : Answer) : Except AnswerError Answer × Host :=
  match h.seats[seat]? with
  | none => (.error .noPrompt, h)
  | some s =>
    let (result, bytes, supervisor) := s.supervisor.answer a (h.replies s)
    (result, (h.feed s bytes).modifySeat seat fun s => { s with supervisor })

/-- The sink of a run at a place. -/
def observer? (h : Host) (run place : Nat) : Option Observer :=
  h.runs[run]?.bind fun r => r.worker.fanout.sink? place

/-- Changes the sink of a run at a place. -/
def modifyObserver (h : Host) (run place : Nat) (f : Observer → Observer) : Host :=
  h.modifyRun run fun r => { r with worker.fanout := r.worker.fanout.modify place f }

/-- Whether a run is over. -/
def isOver (h : Host) (run : Nat) : Bool := h.runs[run]?.all fun r => r.worker.isDone

/-- What a run left behind. -/
def report? (h : Host) (run : Nat) : Option Report := h.runs[run]?.bind fun r => r.worker.report

end Host

end Overseer
