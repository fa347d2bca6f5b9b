import Overseer.CommandLine.Listing
import Overseer.Host.Preflight
import Overseer.Host.RunLog
import Overseer.Settings.Lookup
import Overseer.Settings.Report

/-!
# Sessions

What the program does with an order: it loads the settings, carries the order out on a host and ends
with an exit code.

An order that needs a run starts it on the host, shows its events on the console as they come, and
ends with the code that stands for the outcome.  Everything that an order does to the host is what
any other caller may do to it.
-/

namespace Overseer.CommandLine

/-- How the program ended: its exit code, what it wrote, and what it complained about. -/
structure Ending where
  code : Nat
  output : List UInt8
  complaint : Option String
deriving DecidableEq

namespace Ending

/-- The program did what it was asked for. -/
def done (text : String) : Ending := ⟨0, text.toUTF8.toList, none⟩

/-- The program could not do what it was asked for. -/
def failed (reason : String) : Ending := ⟨1, [], some reason⟩

/-- The program was not asked properly. -/
def misused : Ending := ⟨2, [], some "unexpected arguments"⟩

/-- The exit code for the outcome of a run: that of the process, or one that tells why it did not
end by itself. -/
def codeOf : Outcome → Int
  | .completed code => code
  | .timedOut _ => 124
  | .terminated => 130
  | .failed _ => 1

/-- The end after a run that wrote on the console. -/
def ofRun (outcome : Outcome) (console : Console) : Ending :=
  ⟨(codeOf outcome % 256).toNat, console.shown, none⟩

end Ending

/-- What the program finds when it is called: the host, the working directory and the home
directory, the settings, and whether the environment names a terminal. -/
structure Session where
  host : Host
  home : String
  settings : Settings
  source : Option String
  tuning : Tuning
  hasTerminal : Bool

namespace Session

/-! ## Runs -/

/-- Shows the events of a run until it is over, as they come.  `fuel` limits how often events are
waited for. -/
def follow (run : Nat) : Nat → Host → Console → Option Outcome × Console × Host
  | 0, h, console => (none, console, h)
  | fuel + 1, h, console =>
    let h := h.awaitThat fun h => h.isOver run || match h.observer? run 0 with
      | some (.channel c) => !c.queue.isEmpty
      | _ => true
    match h.observer? run 0 with
    | some (.channel c) =>
      let (events, c) := c.drain
      let h := h.modifyObserver run 0 fun _ => .channel c
      let followed := console.follow events
      match followed.outcome with
      | some outcome => (some outcome, followed.console, h)
      | none =>
        if events.isEmpty then (none, followed.console, h) else follow run fuel h followed.console
    | _ => (none, console, h)

/-- More events than are waited for. -/
def eventLimit : Nat := 1000000000

/-- Runs a command in the foreground.  Nobody is there to answer a prompt. -/
def supervise (s : Session) (command : Command) : Ending × Host :=
  let (seat, host) := s.host.addSupervisor s.tuning
  let (log, host) := host.openRunLog (s.settings.logDirectoryIn s.home) s.settings.logFormat
  let channel := Observer.channel (Channel.new "terminal" s.settings.sinkBuffer)
  match host.start seat command (channel :: log) with
  | (.error e, host) => (.failed e.message, host)
  | (.ok run, host) =>
    let (_, console, host) := follow run eventLimit host (Console.new .sound false)
    let host := host.awaitEnd run
    match host.report? run with
    | some report => (.ofRun report.outcome console, host)
    | none => (.failed "the run never ends", host)

/-- The catalog of the settings. -/
def catalog (s : Session) : Catalog :=
  .load s.host.machine.tree s.host.directory s.home s.settings.scripts

/-- Runs a script of the catalog, after its syntax was checked unless that is skipped. -/
def runScript (s : Session) (key : String) (flags : List String) (backupDirectory : Option String)
    (skipCheck : Bool) : Ending × Host :=
  match s.catalog.find key with
  | .error e => (.failed e.message, s.host)
  | .ok script =>
    let launcher := s.settings.launcher s.home s.hasTerminal
    let (checked, host) := if skipCheck then (.ok (), s.host) else s.host.check launcher script
    match checked with
    | .error e => (.failed e.message, host)
    | .ok () =>
      match launcher.command host.machine.tree host.directory script flags backupDirectory with
      | .error e => (.failed e.message, host)
      | .ok command => { s with host }.supervise command

/-- Runs a program. -/
def execute (s : Session) (program : String) (arguments : List String) (answer : Option Answer)
    (timeout promptTimeout : Option Nat) : Ending × Host :=
  s.supervise { Command.new program arguments with
    timeout := timeout.getD s.settings.timeoutSeconds * 1000
    promptTimeout := promptTimeout.getD s.settings.promptTimeoutSeconds * 1000
    autoAnswer := answer }

/-! ## Orders -/

/-- Carries out an order.  A host has no network, so that no address can be served. -/
def perform (s : Session) : Order → Ending × Host
  | .run script flags backupDirectory skipCheck =>
    s.runScript script flags backupDirectory skipCheck
  | .execute program arguments answer timeout promptTimeout =>
    s.execute program arguments answer timeout promptTimeout
  | .serve bind => (.failed ("failed to bind " ++ bind.getD s.settings.bind), s.host)
  | .listScripts asRecord =>
    (.done (if asRecord then Listing.line s.catalog.toRecord.renderIndented
      else Listing.ofCatalog s.catalog), s.host)
  | .listBackups kind =>
    match Catalog.listBackups s.host.machine.tree s.host.directory s.home kind with
    | .ok names => (.done (Listing.ofBackups names), s.host)
    | .error e => (.failed e.message, s.host)
  | .showSettings asRecord =>
    (.done (if asRecord then Listing.line (s.settings.renderRecord s.source)
      else s.settings.render s.source), s.host)
  | .showCompletions shell => (.done (completionText shell), s.host)

/-- A session on a host that is called in a directory.  Settings that cannot be loaded are told by
the text of the error. -/
def begin (host : Host) (directory home : String) (hasTerminal : Bool) : Except String Session :=
  match Settings.load host.machine.tree host.directory directory (some home) with
  | .error e => .error e.message
  | .ok (settings, source) =>
    match settings.tuning? with
    | some tuning => .ok ⟨host, home, settings, source, tuning, hasTerminal⟩
    | none => .error "invalid [prompt] patterns"

end Session

/-- Calls the program with some words, in a directory. -/
def call (host : Host) (directory home : String) (hasTerminal : Bool) (words : List String) :
    Ending × Host :=
  match Order.ofWords words with
  | .error .help => (.done helpText, host)
  | .error .version => (.done (Listing.line (programName ++ " " ++ version)), host)
  | .error .misuse => (.misused, host)
  | .ok order =>
    match Session.begin host directory home hasTerminal with
    | .ok session => session.perform order
    | .error reason => (.failed reason, host)

end Overseer.CommandLine
