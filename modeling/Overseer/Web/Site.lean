import Overseer.Catalog.Backups
import Overseer.Host.Preflight
import Overseer.Host.RunLog
import Overseer.Settings.Lookup
import Overseer.Web.Body
import Overseer.Web.Request
import Overseer.Web.Response

/-!
# The Site

What the server does with each request.  Most requests are answered at once; a request to run a
script first has its syntax checked and then sends frames until the run is over.

A visit is a request that is not answered at once.  It goes on in turns with the host, and its phase
says what it waits for; several visits may be under way at a time.
-/

namespace Overseer.Web

/-- How far a request has come.  What was sent stands with the newest frame first. -/
inductive Phase where
  /-- The syntax of the script is being checked by a run. -/
  | checking (order : RunOrder) (script : Catalog.Script) (run : Nat)
  /-- Frames about a run are being sent.  The last one was sent at a moment, in microseconds. -/
  | streaming (run : Nat) (sent : List String) (since : Nat)
  | answered (response : Response)

/-- The server: what it is set up with, the host on which scripts run, and the requests that came
in, by their numbers. -/
structure Site where
  host : Host
  catalog : Catalog
  launcher : Catalog.Launcher
  home : String
  /-- Where the logs of runs go, if they are kept. -/
  logDirectory : Option String
  logFormat : Log.LogFormat
  sinkBuffer : Nat
  /-- What runs are called, by their numbers, as far as that can be read: a stream bears the name of
  its run. -/
  runName : Nat → String
  exchanges : List Phase

namespace Site

/-- The supervisor of the site. -/
def seat : Nat := 0

/-- The microseconds after which a stream shows that it is alive, if there was nothing to tell
meanwhile. -/
def heartbeatInterval : Nat := 5000000

/-- A site with settings. -/
def ofSettings (host : Host) (settings : Settings) (tuning : Tuning) (home : String)
    (hasTerminal : Bool) : Site :=
  let (_, host) := host.addSupervisor tuning
  ⟨host, Catalog.load host.machine.tree host.directory home settings.scripts,
    settings.launcher home hasTerminal, home, some (settings.logDirectoryIn home),
    settings.logFormat, settings.sinkBuffer, toString, []⟩

/-! ## Requests that are answered at once -/

/-- The scripts by category. -/
def scripts (s : Site) : Response :=
  .ofRecord (.object [("scripts", s.catalog.groupedRecord),
    ("warnings", .strings s.catalog.warnings)])

/-- What the supervisor does. -/
def status (s : Site) : Response :=
  .ofRecord (.object [("supervisor", (s.host.activity seat).toRecord),
    ("pending_prompt", .ofOption (s.host.pendingPrompt? seat))])

/-- The backups of a product. -/
def backups (s : Site) (r : Request) : Response :=
  match (r.queryPairs.filter (·.1 == "type")).map (·.2) with
  | _ :: _ :: _ => .bare 400
  | kinds =>
    let found := do
      let kind ← Catalog.BackupKind.ofWord (kinds.headD "")
      Catalog.listBackups s.host.machine.tree s.host.directory s.home kind
    match found with
    | .ok names => .ofRecord (.object [("backups", .strings names)])
    | .error e => .ofProblem (.ofCatalog e)

/-- Hands an answer to the script that waits. -/
def relayAnswer (s : Site) (text : String) : Response × Site :=
  match Answer.ofText text with
  | .error e => (.ofProblem (.ofAnswer e), s)
  | .ok a =>
    let (result, host) := s.host.answer seat a
    (match result with
      | .ok _ => .ofRecord (.object [("status", .string "success")])
      | .error e => .ofProblem (.ofAnswer e), { s with host })

/-- Asks the script that runs to stop. -/
def stopRun (s : Site) : Response × Site :=
  let (found, host) := s.host.cancel seat
  (.ofRecord (.object [("status", .string (if found then "terminating" else "idle"))]),
    { s with host })

/-! ## Runs -/

/-- A run that never began. -/
def failedRun (reason : String) : Phase :=
  .answered (.ofFrames (Frame.renderAll (Frame.failed reason)))

/-- The name of the stream of the run that begins next. -/
def streamName (s : Site) : String := "stream-" ++ s.runName s.host.runs.length

/-- The observers of a run: the channel to its stream and, if it can be opened, its log.  The stream
comes first. -/
def observers (s : Site) : List Observer × Site :=
  let channel := Observer.channel (Channel.new s.streamName s.sinkBuffer)
  match s.logDirectory with
  | none => ([channel], s)
  | some directory =>
    let (log, host) := s.host.openRunLog directory s.logFormat
    (channel :: log, { s with host })

/-- Starts a script that passed its check.  A start that is refused because of another run is told
by a status, and one that fails by frames. -/
def launch (s : Site) (order : RunOrder) (script : Catalog.Script) : Phase × Site :=
  match s.launcher.command s.host.machine.tree s.host.directory script order.flags
      order.backupDirectory with
  | .error e => (failedRun e.message, s)
  | .ok command =>
    let (observers, s) := s.observers
    match s.host.start seat command observers with
    | (.ok run, host) => (.streaming run [] host.machine.now, { s with host })
    | (.error e, host) =>
      (match e with
        -- A process that could not be made is told in a stream, like a run that failed.
        | .notStarted .. => failedRun e.message
        | _ => .answered (.ofProblem (.ofStart e)), { s with host })

/-- Begins with an order: its script must be known and nothing else be running.  Whether that is
still so when the check is over is found out by the start itself. -/
def order (s : Site) (o : RunOrder) : Phase × Site :=
  match s.catalog.find o.script with
  | .error e => (.answered (.ofProblem (.ofCatalog e)), s)
  | .ok script =>
    match s.host.activity seat with
    -- Told before the check, which would be in vain.
    | .running pid _ => (.answered (.ofProblem (.ofStart (.busy pid))), s)
    | _ =>
      match s.host.beginCheck s.launcher script with
      | (.error e, host) => (failedRun e.message, { s with host })
      | (.ok none, host) => ({ s with host } : Site).launch o script
      | (.ok (some run), host) => (.checking o script run, { s with host })

/-! ## Routes -/

/-- The methods that a path answers, if it is known. -/
def methodsOf (path : String) : Option (List String) :=
  match path with
  | "/ping" | "/scripts" | "/status" | "/backups" => some ["GET", "HEAD"]
  | "/run" | "/backup_response" | "/exit" => some ["POST"]
  | _ => none

/-- The status of a body that was refused. -/
def faultStatus : BodyFault → Nat
  | .malformed => 400
  | .unfit => 422

/-- Reads the body of a request, or answers with the status that tells why it was refused. -/
def withBody {α : Type} (s : Site) (r : Request) (read : String → Except BodyFault α)
    (next : α → Phase × Site) : Phase × Site :=
  if r.isJson then
    match read r.body with
    | .ok value => next value
    | .error fault => (.answered (.bare (faultStatus fault)), s)
  else (.answered (.bare 415), s)

/-- What becomes of a request for a path that is known and answers its method. -/
def route (s : Site) (r : Request) : Phase × Site :=
  let done (x : Response × Site) : Phase × Site := (.answered x.1, x.2)
  match r.path with
  | "/ping" => done (.ofContent 200 "text/plain; charset=utf-8" "pong", s)
  | "/scripts" => done (s.scripts, s)
  | "/status" => done (s.status, s)
  | "/backups" => done (s.backups r, s)
  | "/run" => s.withBody r RunOrder.ofBody s.order
  | "/backup_response" => s.withBody r answerOfBody fun text => done (s.relayAnswer text)
  | _ => done s.stopRun

/-- What becomes of a request.  A path that is not known and a method that a path does not answer
have statuses of their own. -/
def receive (s : Site) (r : Request) : Phase × Site :=
  match methodsOf r.path with
  | none => (.answered (.bare 404), s)
  | some methods =>
    if methods.contains r.method then
      match r.method, s.route r with
      -- The request is carried out all the same; only its body is held back.
      | "HEAD", (.answered response, s) => (.answered { response with body := "" }, s)
      | _, found => found
    else (.answered (.bare 405), s)

/-- A request comes in and gets a number. -/
def accept (s : Site) (r : Request) : Nat × Site :=
  let (phase, s) := s.receive r
  (s.exchanges.length, { s with exchanges := s.exchanges ++ [phase] })

/-! ## Turns -/

/-- The response to a request, if it is whole. -/
def response? (s : Site) (number : Nat) : Option Response :=
  match s.exchanges[number]? with
  | some (.answered response) => some response
  | _ => none

/-- Goes on with a request, if something new happened.  A stream ends with the outcome of the run;
it also ends when the run is over and its channel holds nothing. -/
def proceed (s : Site) : Phase → Option (Phase × Site)
  | .answered _ => none
  | .checking o script run =>
    if s.host.isOver run then
      match s.host.verdict script run with
      | .error e => some (failedRun e.message, s)
      | .ok () => some (s.launch o script)
    else none
  | .streaming run sent since =>
    let now := s.host.machine.now
    match s.host.observer? run 0 with
    | some (.channel channel) =>
      match channel.receive with
      | (.event e, channel) =>
        let s := { s with host := s.host.modifyObserver run 0 fun _ => .channel channel }
        let sent := (Frame.ofEvent e).render :: sent
        -- What the channel holds behind the outcome is not sent any more.
        if e.isFinished then some (.answered (.ofFrames (String.join sent.reverse)), s)
        else some (.streaming run sent now, s)
      | _ =>
        -- The outcome itself was dropped, and nothing will arrive any more.
        if s.host.isOver run then
          some (.answered (.ofFrames (String.join sent.reverse)), s)
        else if since + heartbeatInterval ≤ now then
          some (.streaming run (Frame.heartbeat :: sent) now, s)
        else none
    | _ => some (.answered (.ofFrames (String.join sent.reverse)), s)

/-- One turn: a request goes on, or the host takes a turn. -/
def turn? (s : Site) : Option Site :=
  let moved := s.exchanges.zipIdx.findSome? fun (phase, i) =>
    (s.proceed phase).map fun (phase, s) =>
      { s with exchanges := s.exchanges.modify i fun _ => phase }
  match moved with
  | some s => some s
  | none => s.host.turn?.map fun host => { s with host }

/-- The next moment at which something can happen. -/
def nextWake? (s : Site) : Option Nat :=
  -- A stream has to wake up for its own heartbeat even if its run is silent.
  let beats := s.exchanges.filterMap fun phase => match phase with
    | .streaming _ _ since => some (since + heartbeatInterval)
    | _ => none
  (s.host.nextWake?.toList ++ beats).min?

instance : Clocked Site where
  now s := s.host.machine.now
  turn? := turn?
  nextWake? := nextWake?
  advanceTo s moment := { s with host := s.host.advanceTo moment }

/-- Waits until a condition holds or nothing more can happen. -/
def awaitThat (s : Site) (stop : Site → Bool) : Site := Clocked.awaitThat s stop

/-- Lets time pass, in microseconds. -/
def pass (s : Site) (duration : Nat) : Site := Clocked.pass s duration

/-- Waits for the response to a request. -/
def awaitResponse (s : Site) (number : Nat) : Site :=
  s.awaitThat fun s => (s.response? number).isSome

/-- The content of all run logs, in the order of their names. -/
def logText (s : Site) : List UInt8 :=
  match s.logDirectory with
  | none => []
  | some directory => s.host.logsIn directory

end Site

end Overseer.Web
