import Overseer.Reader.Splitting

/-!
# Reading the Output of a Process

The reader takes the chunks in which output arrives and hands out complete lines.  One poll takes
the chunk that arrived first and goes on with those behind it only while little is pending.  The
fragment behind the last newline can be looked at or taken at any time, and is handed out at the
end of the output.

The queue is what stands between the thread that reads and the worker that polls: chunks come in at
one end at any time and are taken at the other.  The bound on what is pending keeps a poll from
taking output for ever from a process that writes faster than it is read.
-/

namespace Overseer.Reader

/-- What arrives from a process: a chunk of its output, or the news that there will be no more. -/
inductive Arrival where
  | bytes (chunk : List UInt8)
  | ended

/-- The longest chunk in which output arrives. -/
def chunkBytes : Nat := 4096

/-- What a poll finds. -/
inductive Poll where
  /-- Lines, without their newlines. -/
  | lines (texts : List String)
  /-- Output arrived, but no line is complete. -/
  | pending
  /-- Nothing arrived. -/
  | idle
  /-- All output was handed out. -/
  | closed
deriving DecidableEq

/-- The state of a reader.  What arrived waits in the queue until a poll takes it, and bytes that
were taken are pending until their line is complete. -/
structure OutputReader where
  /-- What arrived and was not taken yet, oldest first. -/
  queue : List Arrival
  /-- The end of the output has arrived. -/
  sourceEnded : Bool
  /-- Bytes taken and not handed out yet. -/
  pending : List UInt8
  /-- All output was handed out. -/
  closed : Bool

namespace OutputReader

/-- A reader before any output. -/
def empty : OutputReader := ⟨[], false, [], false⟩

/-- Something arrives; after the end of the output it is lost. -/
def arrive (r : OutputReader) (a : Arrival) : OutputReader :=
  if r.sourceEnded then r
  else
    match a with
    | .bytes chunk => { r with queue := r.queue ++ [.bytes chunk] }
    | .ended => { r with queue := r.queue ++ [.ended], sourceEnded := true }

/-- Takes chunks while fewer bytes are pending than a line may have.  So at most one chunk more than
that is pending, however much has arrived.  The answer tells whether the end of the output was met.
-/
def takeReady : List UInt8 → List Arrival → List UInt8 × Bool × List Arrival
  | pending, [] => (pending, false, [])
  | pending, a :: queue =>
    if pending.length < maxLineBytes then
      match a with
      | .bytes chunk => takeReady (pending ++ chunk) queue
      -- Nothing arrives behind the end, so the queue may be left where it is.
      | .ended => (pending, true, queue)
    else (pending, false, a :: queue)

/-- The lines in the pending bytes and what stays pending.  A fragment that is longer than a line
may be is cut at once, and only its last piece waits for the newline. -/
def splitPending (pending : List UInt8) : List String × List UInt8 :=
  let (complete, fragment) := completeSegments pending
  let (pieces, rest) := cutLong maxLineBytes maxLineBytes_pos fragment
  ((complete.flatMap piecesOf ++ pieces).map pieceText, rest)

/-- Hands out the lines among the pending bytes.  At the end of the output the fragment is a line as
well, unless it is empty, and the reader is closed. -/
def handOut (r : OutputReader) (ended : Bool) : Poll × OutputReader :=
  let (lines, rest) := splitPending r.pending
  if ended then
    -- A last line without a newline is a line; a newline at the very end opens none.
    let lines := if rest.isEmpty then lines else lines ++ [pieceText rest]
    (if lines.isEmpty then .closed else .lines lines, { r with pending := [], closed := true })
  else
    (if lines.isEmpty then .pending else .lines lines, { r with pending := rest })

/-- Takes what arrived and hands out the lines that are complete.  A poll that takes output but
completes no line says so, since nothing else tells it from one that found nothing. -/
def poll (r : OutputReader) : Poll × OutputReader :=
  if r.closed then (.closed, r)
  else
    match r.queue with
    | [] => (.idle, r)
    | .ended :: queue => { r with queue }.handOut true
    | .bytes chunk :: queue =>
      -- The first chunk is taken in any case, however much is pending.
      let (pending, ended, queue) := takeReady (r.pending ++ chunk) queue
      { r with queue, pending }.handOut ended

/-- The fragment behind the last line, decoded as it stands.  Its last character may still lack
bytes. -/
def fragment? (r : OutputReader) : Option String :=
  if r.pending.isEmpty then none else some (pieceText r.pending)

/-- Takes the fragment behind the last line.  What arrives later begins a new line, even inside of a
character. -/
def takeFragment (r : OutputReader) : Option String × OutputReader :=
  (r.fragment?, { r with pending := [] })

end OutputReader

end Overseer.Reader
