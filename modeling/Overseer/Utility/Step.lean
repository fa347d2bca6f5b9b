import Overseer.Machine.Basic
import Overseer.Utility.Programs

/-!
# Steps of a Utility

One step of a utility: it writes what is still to be written, or goes on with what it does.  A
utility that has to wait takes no step.

What a utility writes has to fit where it goes: a full pipe stops it, and a pipe that nobody reads
ends it by a signal.
-/

namespace Overseer.Utility

/-- The microseconds that a step of a utility takes. -/
def stepCost : Nat := 10

/-- How many bytes a utility reads at once. -/
def inputLimit : Nat := 65536

namespace Program

/-- The machine after a step that leaves a utility so. -/
def commit (u : Program) (m : Computer) (p : Process Body) : Computer :=
  m.setProcess { p with readyAt := m.now + stepCost, body := .utility u }

/-- Writes bytes.  Who writes where nobody reads gets a signal, and ends if that is ignored. -/
def writeOut (u : Program) (m : Computer) (p : Process Body) (fd : Nat) (bytes : List UInt8)
    (later : List (Nat × List UInt8)) : Option Computer :=
  let failed : Program := ⟨later, .finished 1⟩
  match p.handle? fd with
  | none => some (failed.commit m p)
  | some h =>
    match m.write h bytes with
    | (.done, m) => some ({ u with output := later }.commit m p)
    | (.blocked, _) => none
    | (.broken, _) => some ((failed.commit m p).signal p.pid Signal.brokenPipe).2
    | (.failed _, _) => some (failed.commit m p)

/-- What reading an input yields. -/
inductive Chunk where
  | waits
  | bytes (m : Computer) (bytes : List UInt8)
  /-- The last bytes of the input. -/
  | ends (m : Computer) (bytes : List UInt8)
  | fails (reason : String)

/-- Reads some of an input.  A file is read as a whole. -/
def readInput (m : Computer) (p : Process Body) : Input → Chunk
  | .standard =>
    match p.handle? 0 with
    | none => .fails "-: Bad file descriptor"
    | some h =>
      match m.read h inputLimit with
      | (.bytes bytes, m) => .bytes m bytes
      | (.blocked, _) => .waits
      | (.ended, m) => .ends m []
      | (.failed e, _) => .fails ("-: " ++ e.reason)
  | .file path =>
    -- A file is opened only now, so one that an earlier program made is found.
    match m.openFile p.directory (Raw.toText path) .read with
    | .error e => .fails (path ++ ": " ++ e.reason)
    | .ok (.zeros, m) => .bytes m (List.replicate inputLimit 0)
    | .ok (.file id, m) =>
      match m.files.find? (·.1 == id) with
      | some (_, f) =>
        match m.contentAt f.place with
        | .ok content => .ends m content
        | .error e => .fails (path ++ ": " ++ e.reason)
      | none => .ends m []
    | .ok (_, m) => .ends m []

/-- Copies some of the first input to the targets. -/
def copy (u : Program) (m : Computer) (p : Process Body) (targets : List Nat) (status : Nat) :
    List Input → Option Computer
  | [] => some ({ u with progress := .finished status }.commit m p)
  | input :: rest =>
    let spread (bytes : List UInt8) : List (Nat × List UInt8) :=
      if bytes.isEmpty then [] else targets.map (·, bytes)
    match readInput m p input with
    | .waits => none
    | .bytes m bytes =>
      some (Program.commit ⟨spread bytes, .copying (input :: rest) targets status⟩ m p)
    | .ends m bytes => some (Program.commit ⟨spread bytes, .copying rest targets status⟩ m p)
    | .fails reason =>
      some (Program.commit ⟨[(2, Raw.toBytes ("cat: " ++ reason ++ "\n").toList)],
        .copying rest targets 1⟩ m p)

/-- The utility that does what its arguments say with what it has read. -/
def concluded (arguments : List String) (read : List (List UInt8)) (failed : Bool) : Program :=
  let result := conclude arguments read.reverse
  ⟨result.written.map fun (stream, text) => (stream.fd, Raw.toBytes text),
    .finished (if failed then max 1 result.status else result.status)⟩

/-- Reads some of the first input.  What was read of each input so far is kept, the last input
first. -/
def gather (m : Computer) (p : Process Body) (arguments : List String)
    (read : List (List UInt8)) : List Input → Option Computer
  | [] => some ((concluded arguments (read.drop 1) false).commit m p)
  | input :: rest =>
    -- The first of these is the input that is being read.
    let (current, before) := match read with
      | [] => ([], [])
      | current :: before => (current, before)
    match readInput m p input with
    | .waits => none
    | .bytes m bytes =>
      let read := (current ++ bytes) :: before
      if isSatisfied arguments (current ++ bytes) then
        some ((concluded arguments read false).commit m p)
      else some (Program.commit ⟨[], .gathering arguments (input :: rest) read⟩ m p)
    | .ends m bytes =>
      some (Program.commit ⟨[], .gathering arguments rest ([] :: (current ++ bytes) :: before)⟩ m p)
    | .fails reason =>
      let start := arguments.headD "" ++ ": "
      let message := match arguments.headD "" with
        | "head" | "tail" =>
          let path := (reason.splitOn ": ").headD ""
          start ++ "cannot open " ++ quotePath path ++ " for reading: " ++
            (reason.splitOn ": ").getLast?.getD ""
        | _ => start ++ reason
      some (Program.commit ⟨[(2, Raw.toBytes (message ++ "\n").toList)], .finished 1⟩ m p)

/-- One step of a utility, unless it has to wait. -/
def step (u : Program) (m : Computer) (p : Process Body) : Option Computer :=
  match u.output with
  | (fd, bytes) :: later => u.writeOut m p fd bytes later
  | [] =>
    match u.progress with
    | .finished status => some (m.endProcess p.pid (.exited (status % 256)))
    | .sleeping deadline =>
      if deadline ≤ m.now then some (m.endProcess p.pid (.exited 0)) else none
    | .copying inputs targets status => u.copy m p targets status inputs
    | .gathering arguments inputs read => gather m p arguments read inputs
    | .repeating bytes => some ({ u with output := [(1, bytes)] }.commit m p)

end Program

end Overseer.Utility
