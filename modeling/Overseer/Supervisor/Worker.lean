import Overseer.Command.Basic
import Overseer.Reader.Basic
import Overseer.Sink.Fanout
import Overseer.Supervisor.Shared

/-!
# The Worker of a Run

A worker watches one process from its start to its end and tells the sinks of the run about it.
Its work is an agenda of small tasks, each of which touches what it shares with others at most
once; whatever callers do falls between two tasks.  A task looks at the outside only through an
observation: the clock, what has become of the process, and how its input takes bytes.

That an agenda is a list of tasks is what makes the course of a run a matter of induction.  No task
is done halfway, and none looks at what is shared twice, so whatever callers and other runs do can
be put between two tasks.
-/

namespace Overseer

/-- What has become of a process. -/
inductive ChildStatus where
  | running
  | exited (code : Int)
  /-- The system does not say, and takes no signal for it. -/
  | unknown (reason : String)
deriving DecidableEq

/-- What a task can see of the outside.  Nothing is assumed of it, so two looks need not agree, and
the clock may stand still.  Times are milliseconds. -/
structure Observation where
  now : Nat
  child : ChildStatus
  /-- How the input of the process would take bytes now. -/
  replies : PipeReplies

/-- How a process is stopped. -/
inductive StopSignal where
  /-- It is asked to end. -/
  | terminate
  /-- It is ended by force. -/
  | kill
deriving DecidableEq

/-- One task of a worker.  It is named for what is done at one place of the loop, and holds what was
decided before it: a deadline, a line or an outcome. -/
inductive Task where
  /-- Tell that the process was started. -/
  | start
  /-- Begin to wait for output. -/
  | listen
  /-- Take the output that arrived, or none when the time has come. -/
  | poll (deadline : Nat)
  /-- Do nothing until the time has come. -/
  | pause (deadline : Nat)
  /-- Tell about a line, and look for a prompt in it. -/
  | narrate (line : String)
  /-- Tell about a line that arrived after the decision to stop. -/
  | narrateLate (line : String)
  /-- Open a wait for a prompt. -/
  | openWait (text : String)
  /-- Tell about a prompt. -/
  | showPrompt (text : String)
  /-- Give the answer that was asked for beforehand. -/
  | autoAnswer
  /-- Tell what became of answers. -/
  | flush
  | checkStop
  | checkPrompt
  | checkTime
  | checkChild
  | checkEnd
  /-- Ask the process to end. -/
  | terminate (outcome : Outcome)
  /-- Wait for the end of the process until the time has come. -/
  | awaitEnd (deadline : Nat) (outcome : Outcome)
  /-- Wait for the end of a process that was ended by force. -/
  | reap (outcome : Outcome)
  /-- Begin to take the output that is left. -/
  | drain (outcome : Outcome)
  /-- Take output that is left, but not after the time has come. -/
  | drainUntil (deadline : Nat) (outcome : Outcome)
  | drainPoll (deadline quantum : Nat) (outcome : Outcome)
  | detach
  /-- Free the supervisor. -/
  | settle (outcome : Outcome)
  /-- Tell the outcome, as the last event. -/
  | conclude (outcome : Outcome)
  /-- End without a word. -/
  | collapse (outcome : Outcome)
deriving DecidableEq

/-- The worker of a run: what belongs to it alone.  What callers share with it stands in the
supervisor and is handed to each task. -/
structure Worker (σ : Type) where
  command : Command
  ticket : Nat
  pid : Nat
  startedAt : Nat
  reader : Reader.OutputReader
  fanout : Fanout σ
  tail : Tail
  /-- The exit code of the process and when it was noticed. -/
  exited : Option (Int × Nat)
  agenda : List Task
  report : Option Report

namespace Worker

variable {σ : Type} [Sink σ]

/-- How long a worker waits before it looks again whether a process has ended. -/
def stopPoll : Nat := 50

/-- The worker of a process that was just started.  It has nothing but the start to tell, and then
listens. -/
def new (tuning : Tuning) (command : Command) (ticket pid now : Nat) (fanout : Fanout σ) :
    Worker σ :=
  ⟨command, ticket, pid, now, .empty, fanout, .empty tuning.tailLimit, none, [.start, .listen],
    none⟩

/-- What is done after each poll, in this order.  A check that decides to stop puts its own task in
place of those behind it. -/
def checks : List Task := [.flush, .checkStop, .checkPrompt, .checkTime, .checkChild, .checkEnd]

/-- What is done when the outcome is settled.  The supervisor is freed before the outcome is told,
so a caller that hears of the outcome can start another run. -/
def finishing (outcome : Outcome) : List Task :=
  [.flush, .detach, .settle outcome, .conclude outcome]

/-- The outcome of a worker that cannot go on.  Its process is left alone. -/
def collapsed : Outcome := .failed "supervisor worker panicked"

/-- Publishes an event to the sinks of the run. -/
def publish (w : Worker σ) (e : Event) : Worker σ := { w with fanout := w.fanout.publish e }

/-- Puts tasks in front of the agenda. -/
def first (w : Worker σ) (tasks : List Task) : Worker σ := { w with agenda := tasks ++ w.agenda }

/-- Puts tasks in place of the agenda. -/
def only (w : Worker σ) (tasks : List Task) : Worker σ := { w with agenda := tasks }

/-- Tells about a line.  The tail has it before the sinks do. -/
def tell (w : Worker σ) (line : String) : Worker σ :=
  { w with tail := w.tail.push line }.publish (.output line)

/-- Decides to stop the process.  The checks that were still to be made are left out. -/
def stop (w : Worker σ) (outcome : Outcome) : Worker σ := w.only [.terminate outcome]

/-- Tells what became of an answer.  One that could not be written is an error, and the run goes on.
-/
def tellNotice (w : Worker σ) : Notice → Worker σ
  | .sent answer => w.publish (.answerSent answer)
  | .failed answer reason => w.publish (.error (Notice.failureText answer reason))

/-- What an observer reads when a prompt got no answer in time. -/
def promptExpiredText (text : String) (timeout : Nat) : String :=
  "no answer to \"" ++ text ++ "\" within " ++ toString (timeout / 1000) ++ "s"

/-- What an observer reads when a run took too long. -/
def timeExceededText (timeout : Nat) : String :=
  "run exceeded its time limit of " ++ toString (timeout / 1000) ++ "s"

/-- What an observer reads when output is left alone after the end of the process. -/
def pipeHeldText : String :=
  "output pipe still open after exit (background process?); stopped reading"

/-- Takes what the reader has; an idle reader's fragment is taken if it is a prompt. -/
def pollReader (tuning : Tuning) (w : Worker σ) (deadline : Nat) : Worker σ :=
  let (found, reader) := w.reader.poll
  let w := { w with reader }
  match found with
  | .lines lines => w.first (lines.map .narrate)
  | .pending => w
  | .closed => w.first [.pause deadline]
  | .idle =>
    -- A prompt has no newline, since the cursor stays behind it. Other fragments are left to grow.
    if reader.fragment?.any tuning.patterns.detects then
      let (fragment, reader) := reader.takeFragment
      { w with reader }.first (fragment.toList.map .narrate)
    else w

/-- Decides whether the run is over after its process has ended.  It goes on while a prompt waits,
and while there may be more output, but for no longer than the grace period. -/
def decideEnd (tuning : Tuning) (outstanding : Bool) (now : Nat) (w : Worker σ) : Worker σ :=
  match w.exited with
  -- This is the last of the checks, so the next round begins here.
  | none => w.only [.listen]
  | some (code, noticed) =>
    if outstanding then w.only [.listen]
    else if w.reader.closed then w.only (finishing (.completed code))
    else if noticed + tuning.gracePeriod ≤ now then
      (w.publish (.warning pipeHeldText)).only (finishing (.completed code))
    else w.only [.listen]

/-- What a step yields: the shared part and the worker after it, what was written into the input of
the process, and a signal for it. -/
structure Stepped (σ : Type) where
  shared : Supervisor
  worker : Worker σ
  written : List UInt8
  signal : Option StopSignal

/-- Performs a task that was taken off the agenda. -/
def perform (s : Supervisor) (w : Worker σ) (seen : Observation) : Task → Stepped σ
  | .start => ⟨s, w.publish (.started w.pid w.command.display), [], none⟩
  | .listen => ⟨s, w.first [.poll (seen.now + s.tuning.pollInterval)], [], none⟩
  | .poll _ =>
    -- The rest of the agenda gives way to the checks, and what the poll found is told before them.
    ⟨s, (w.only checks).pollReader s.tuning (seen.now + s.tuning.pollInterval), [], none⟩
  | .pause _ => ⟨s, w, [], none⟩
  | .narrate line =>
    let prompt := s.tuning.patterns.detect line
    ⟨s, (w.tell line).first (prompt.toList.map fun p => .openWait p.line), [], none⟩
  | .narrateLate line => ⟨s, w.tell line, [], none⟩
  | .openWait text =>
    match s.relay.openWait? text seen.now w.command.promptTimeout with
    -- The deadline of the wait is past the end of time: the worker is gone, and nobody stops the
    -- process.
    | none => ⟨s, w.only [.detach, .settle collapsed, .collapse collapsed], [], none⟩
    | some (opened, relay) =>
      ⟨{ s with relay }, if opened then w.first [.showPrompt text, .autoAnswer] else w, [], none⟩
  | .showPrompt text => ⟨s, w.publish (.promptDetected text), [], none⟩
  | .autoAnswer =>
    match w.command.autoAnswer with
    | none => ⟨s, w, [], none⟩
    | some a =>
      let (_, written, s) := s.answer a seen.replies
      -- What became of the answer is told at once, before any other line of the output.
      ⟨s, w.first [.flush], written, none⟩
  | .flush =>
    let (notices, relay) := s.relay.takeNotices
    ⟨{ s with relay }, notices.foldl tellNotice w, [], none⟩
  | .checkStop => ⟨s, if s.stopRequested w.ticket then w.stop .terminated else w, [], none⟩
  | .checkPrompt =>
    match s.relay.takeExpired seen.now with
    | (none, _) => ⟨s, w, [], none⟩
    | (some wait, relay) =>
      ⟨{ s with relay },
        (w.publish (.error (promptExpiredText wait.text w.command.promptTimeout))).stop
          (.timedOut .prompt), [], none⟩
  | .checkTime =>
    ⟨s,
      if w.startedAt + w.command.timeout ≤ seen.now then
        (w.publish (.error (timeExceededText w.command.timeout))).stop (.timedOut .execution)
      else w, [], none⟩
  | .checkChild =>
    -- Once its end was noticed the process is not asked for again, and the time of the first notice
    -- stays.
    if w.exited.isSome then ⟨s, w, [], none⟩
    else
      match seen.child with
      | .running => ⟨s, w, [], none⟩
      | .exited code => ⟨s, { w with exited := some (code, seen.now) }, [], none⟩
      | .unknown reason =>
        let error := "failed to poll child: " ++ reason
        ⟨s, (w.publish (.error error)).stop (.failed error), [], none⟩
  | .checkEnd => ⟨s, w.decideEnd s.tuning s.relay.outstanding seen.now, [], none⟩
  | .terminate outcome =>
    match seen.child with
    | .running =>
      ⟨s, w.only [.awaitEnd (seen.now + s.tuning.gracePeriod) outcome], [], some .terminate⟩
    | _ => ⟨s, w.only [.drain outcome], [], none⟩
  | .awaitEnd deadline outcome =>
    if seen.now < deadline then
      match seen.child with
      | .running =>
        ⟨s, w.only [.pause (seen.now + stopPoll), .awaitEnd deadline outcome], [], none⟩
      | _ => ⟨s, w.only [.drain outcome], [], none⟩
    else
      match seen.child with
      -- No signal reaches such a process, and without one there is no end to wait for.
      | .unknown _ => ⟨s, w.only [.drain outcome], [], none⟩
      | _ => ⟨s, w.only [.reap outcome], [], some .kill⟩
  | .reap outcome => ⟨s, w.only [.drain outcome], [], none⟩
  | .drain outcome =>
    ⟨s, w.only [.drainUntil (seen.now + s.tuning.gracePeriod) outcome], [], none⟩
  | .drainUntil deadline outcome =>
    if seen.now < deadline then
      ⟨s, w.only [.drainPoll deadline (seen.now + s.tuning.pollInterval) outcome], [], none⟩
    else ⟨s, w.only (finishing outcome), [], none⟩
  | .drainPoll deadline _ outcome =>
    let (found, reader) := w.reader.poll
    let w := { w with reader }
    match found with
    | .lines lines =>
      ⟨s, w.only (lines.map .narrateLate ++ [.drainUntil deadline outcome]), [], none⟩
    | .pending => ⟨s, w.only [.drainUntil deadline outcome], [], none⟩
    | .idle | .closed => ⟨s, w.only (finishing outcome), [], none⟩
  | .detach => ⟨s.detach, w, [], none⟩
  | .settle outcome => ⟨s.finish outcome, w, [], none⟩
  | .conclude outcome =>
    ⟨s, { w.publish (.finished outcome) with report := some ⟨outcome, w.pid, w.tail.lines⟩ }, [],
      none⟩
  | .collapse outcome => ⟨s, { w with report := some ⟨outcome, w.pid, []⟩ }, [], none⟩

/-- Performs the first task of the agenda.  The task is off the agenda while it is performed, so
what it puts in front is done next. -/
def step (s : Supervisor) (w : Worker σ) (seen : Observation) : Stepped σ :=
  match w.agenda with
  | [] => ⟨s, w, [], none⟩
  | task :: rest => perform s { w with agenda := rest } seen task

/-- Output arrives from the process. -/
def arrive (w : Worker σ) (a : Reader.Arrival) : Worker σ :=
  { w with reader := w.reader.arrive a }

/-- Whether there is something for the reader to hand out. -/
def hasOutput (w : Worker σ) : Bool := w.reader.closed || !w.reader.queue.isEmpty

/-- Whether the run is over. -/
def isDone (w : Worker σ) : Bool := w.agenda.isEmpty

end Worker

end Overseer
