import Overseer.CommandLine.Session
import Overseer.Proofs.Host.Interleaving
import Overseer.Web.Site

/-!
# Programs on a Host

Two programs work on a host: the one that is called on a command line, which carries out an order
and ends, and the one that serves a site, which answers requests in between the turns of the host.
All that either of them does to the host is what callers may do, whatever the words of a call are
and whatever the requests ask for.  So every host that they come to is one of the interleavings.

- `Clocked.reaches_runUntil`: taking turns and letting time pass
- `CommandLine.moves_call`: what a call does to a host
- `Web.Site.moves_receive`, `Web.Site.moves_runUntil`: what a site does to its host
- `CommandLine.reachable_call`, `Web.Site.reachable_visits`: where they come to
-/

namespace Overseer

open Relation (ReflTransGen)

/-! ## Section 1: Waiting

Whoever waits on a host lets it take turns until something holds or the time is up.  That is a
recursion with fuel, and all that is done in it is a move. -/

/-- A system that waits takes turns and lets time pass, and does nothing else. -/
theorem Clocked.reaches_runUntil {α : Type} [Clocked α] {R : α → α → Prop}
    (hturn : ∀ a next, turn? a = some next → ReflTransGen R a next)
    (hadvance : ∀ a moment, ReflTransGen R a (advanceTo a moment))
    (stop : α → Bool) (limit : Option Nat) (fuel : Nat) (a : α) :
    ReflTransGen R a (runUntil stop limit fuel a) := by
  induction fuel generalizing a with
  | zero => exact .refl
  | succ fuel ih =>
    unfold runUntil
    -- the condition holds or the moment has come, a turn is taken, or time passes
    split
    · exact .refl
    · split
      · next next hnext => exact (hturn a next hnext).trans (ih next)
      · split
        · exact (hadvance a _).trans (ih _)
        · exact (hadvance a _).trans (ih _)
        · exact hadvance a _
        · exact .refl

namespace Host

variable {h : Host}

theorem moves_runUntil (stop : Host → Bool) (limit : Option Nat) (fuel : Nat) (h : Host) :
    ReflTransGen Move h (Clocked.runUntil stop limit fuel h) :=
  Clocked.reaches_runUntil (fun _ _ hturn => .single (.turn hturn))
    (fun h _ => .single (.machine h _)) stop limit fuel h

theorem moves_awaitThat (stop : Host → Bool) : ReflTransGen Move h (h.awaitThat stop) := by
  unfold awaitThat Clocked.awaitThat
  exact moves_runUntil stop none _ h

theorem moves_awaitEnd (run : Nat) : ReflTransGen Move h (h.awaitEnd run) := by
  unfold awaitEnd
  exact moves_awaitThat _

theorem moves_openRunLog (directory : String) (format : Log.LogFormat) :
    ReflTransGen Move h (h.openRunLog directory format).2 := by
  unfold openRunLog
  dsimp only
  split
  · exact .refl
  · next file tree _ => exact .single (.machine h { h.machine with tree := tree })

theorem moves_beginCheck (launcher : Catalog.Launcher) (script : Catalog.Script) :
    ReflTransGen Move h (h.beginCheck launcher script).2 := by
  unfold beginCheck
  split
  · exact .refl
  · next command _ =>
    -- the check has a supervisor of its own
    have hstarted : ReflTransGen Move h (((h.addSupervisor Catalog.Launcher.preflightTuning).2.start
        (h.addSupervisor Catalog.Launcher.preflightTuning).1 command [.memory []]).2) :=
      .head (.addSupervisor h _) (.single (.start _ _ command _))
    dsimp only
    split
    · next heq =>
      rw [heq] at hstarted
      exact hstarted
    · next heq =>
      rw [heq] at hstarted
      exact hstarted

/-- Checking a script moves the host as its run does. -/
theorem moves_check (launcher : Catalog.Launcher) (script : Catalog.Script) :
    ReflTransGen Move h (h.check launcher script).2 := by
  have hbegun := moves_beginCheck (h := h) launcher script
  unfold check
  split
  · next heq =>
    -- the script is rejected, needs no check, or is checked by a run of its own
    rw [heq] at hbegun
    exact hbegun
  · next heq =>
    rw [heq] at hbegun
    exact hbegun
  · next run next heq =>
    rw [heq] at hbegun
    exact hbegun.trans (moves_awaitEnd run)

end Host

/-! ## Section 2: The program on the command line

An order shows something, checks a script, or supervises a command.  Following the events of a run
takes them out of its channel, which is a move as well. -/

namespace CommandLine

open Host

namespace Session

/-- Showing the events of a run takes them from its channel and waits for more. -/
theorem moves_follow (run fuel : Nat) (h : Host) (console : Console) :
    ReflTransGen Move h (follow run fuel h console).2.2 := by
  induction fuel generalizing h console with
  | zero => exact .refl
  | succ fuel ih =>
    -- each round waits for an event or the end of the run, and then empties the channel
    unfold follow
    dsimp only
    generalize hwaits : Host.awaitThat h _ = awaited
    have hawaited : ReflTransGen Move h awaited := by
      rw [← hwaits]
      exact moves_awaitThat _
    split
    · next channel _ =>
      have hemptied := hawaited.tail
        (.modifyObserver awaited run 0 fun _ => .channel channel.drain.2)
      split
      · exact hemptied
      · split
        · exact hemptied
        · exact hemptied.trans (ih _ _)
    · exact hawaited

/-- Supervising a command moves the host as a start, and the waiting for its end. -/
theorem moves_supervise (s : Session) (command : Command) :
    ReflTransGen Move s.host (s.supervise command).2 := by
  unfold supervise
  dsimp only
  -- the supervisor and the log come first, and then the run is started and followed
  have hlogged := (ReflTransGen.single (Move.addSupervisor s.host s.tuning)).trans
    (moves_openRunLog (s.settings.logDirectoryIn s.home) s.settings.logFormat)
  have hstarted := hlogged.tail (.start _ (s.host.addSupervisor s.tuning).1 command
    (.channel (Channel.new "terminal" s.settings.sinkBuffer) ::
      ((s.host.addSupervisor s.tuning).2.openRunLog (s.settings.logDirectoryIn s.home)
        s.settings.logFormat).1))
  split
  · next heq =>
    rw [heq] at hstarted
    exact hstarted
  · next run host heq =>
    rw [heq] at hstarted
    have hfollowed := moves_follow run eventLimit host (Console.new .sound false)
    have hended := (hstarted.trans hfollowed).trans (moves_awaitEnd run)
    split
    · exact hended
    · exact hended

/-- Running a script is a check, if there is one, and a supervised command. -/
theorem moves_runScript (s : Session) (key : String) (flags : List String)
    (backupDirectory : Option String) (skipCheck : Bool) :
    ReflTransGen Move s.host (s.runScript key flags backupDirectory skipCheck).2 := by
  unfold runScript
  split
  · exact .refl
  · next script _ =>
    -- the check of the script, unless it is to be skipped
    dsimp only
    have hchecked : ReflTransGen Move s.host (if skipCheck then (.ok (), s.host) else
        s.host.check (s.settings.launcher s.home s.hasTerminal) script).2 := by
      split
      · exact .refl
      · exact moves_check _ script
    split
    · exact hchecked
    · split
      · exact hchecked
      · next command _ => exact hchecked.trans (moves_supervise { s with host := _ } command)

/-- Every order moves the host by what is supervised for it, or leaves it alone. -/
theorem moves_perform (s : Session) (order : Order) :
    ReflTransGen Move s.host (s.perform order).2 := by
  cases order with
  | run script flags backupDirectory skipCheck =>
    exact s.moves_runScript script flags backupDirectory skipCheck
  | execute program arguments answer timeout promptTimeout =>
    unfold perform execute
    exact s.moves_supervise _
  | listBackups kind =>
    unfold perform
    dsimp only
    split
    · exact .refl
    · exact .refl
  -- the other orders only show something
  | serve _ | listScripts _ | showSettings _ | showCompletions _ =>
    unfold perform
    exact .refl

end Session

/-- **What a call does to a host** is what callers may do, whatever its words are. -/
theorem moves_call (host : Host) (directory home : String) (hasTerminal : Bool)
    (words : List String) :
    ReflTransGen Move host (call host directory home hasTerminal words).2 := by
  unfold call
  split
  · exact .refl
  · exact .refl
  · exact .refl
  · next order _ =>
    split
    · next session hbegin =>
      -- a session begins on the host that it was given
      have hhost : session.host = host := by
        unfold Session.begin at hbegin
        split at hbegin
        · cases hbegin
        · split at hbegin
          · cases hbegin
            rfl
          · cases hbegin
      exact hhost ▸ session.moves_perform order
    · exact .refl

end CommandLine

/-! ## Section 3: The site

A request is answered at once, or it begins a visit that goes on while the host takes turns: a run
that is streamed, or a check that is waited for. -/

namespace Web.Site

open Host (Move)

variable {s next : Site}

theorem moves_observers : ReflTransGen Move s.host s.observers.2.host := by
  unfold observers
  dsimp only
  split
  · exact .refl
  · next directory _ =>
    have hopened := Host.moves_openRunLog (h := s.host) directory s.logFormat
    revert hopened
    generalize s.host.openRunLog directory s.logFormat = opened
    exact fun hopened => hopened

/-- Launching a script opens its log and starts it. -/
theorem moves_launch (o : RunOrder) (script : Catalog.Script) :
    ReflTransGen Move s.host (s.launch o script).2.host := by
  unfold launch
  split
  · exact .refl
  · next command _ =>
    dsimp only
    -- the log of the run is opened before it is started
    have hstarted := (moves_observers (s := s)).tail
      (.start s.observers.2.host seat command s.observers.1)
    split
    · next heq =>
      rw [heq] at hstarted
      exact hstarted
    · next heq =>
      rw [heq] at hstarted
      exact hstarted

/-- An order for a run moves the host by its check and by its launch. -/
theorem moves_order (o : RunOrder) : ReflTransGen Move s.host (s.order o).2.host := by
  unfold order
  split
  · exact .refl
  · next script _ =>
    -- the order begins with a check, behind which the script is launched or answered for
    have hbegun := Host.moves_beginCheck (h := s.host) s.launcher script
    split
    · exact .refl
    · split
      · next heq =>
        rw [heq] at hbegun
        exact hbegun
      · next host heq =>
        rw [heq] at hbegun
        exact hbegun.trans (moves_launch (s := { s with host }) o script)
      · next heq =>
        rw [heq] at hbegun
        exact hbegun

theorem moves_relayAnswer (text : String) :
    ReflTransGen Move s.host (s.relayAnswer text).2.host := by
  unfold relayAnswer
  split
  · exact .refl
  · next answer _ => exact .single (.answer s.host seat answer)

theorem moves_withBody {α : Type} (r : Request) (read : String → Except BodyFault α)
    {proceed : α → Phase × Site}
    (hproceed : ∀ value, ReflTransGen Move s.host (proceed value).2.host) :
    ReflTransGen Move s.host (s.withBody r read proceed).2.host := by
  unfold withBody
  split
  · split
    · exact hproceed _
    · exact .refl
  · exact .refl

theorem moves_route (r : Request) : ReflTransGen Move s.host (s.route r).2.host := by
  unfold route
  dsimp only
  split
  · exact .refl
  · exact .refl
  · exact .refl
  · exact .refl
  · exact moves_withBody r _ moves_order
  · exact moves_withBody r _ moves_relayAnswer
  · exact .single (.cancel s.host seat)

theorem moves_receive (r : Request) : ReflTransGen Move s.host (s.receive r).2.host := by
  have hrouted := moves_route (s := s) r
  unfold receive
  split
  · exact .refl
  · split
    · split
      · next heq =>
        rw [heq] at hrouted
        exact hrouted
      · exact hrouted
    · exact .refl

/-- A visit that goes on moves the host by what it launches, or by what it takes from the channel of
its run. -/
theorem moves_proceed {phase : Phase} {found : Phase × Site}
    (hproceed : s.proceed phase = some found) : ReflTransGen Move s.host found.2.host := by
  cases phase with
  | answered response => cases hproceed
  | checking o script run =>
    unfold proceed at hproceed
    dsimp only at hproceed
    -- a check that is over launches its script, or answers for it
    split at hproceed
    · split at hproceed
      · cases hproceed
        exact .refl
      · cases hproceed
        exact moves_launch o script
    · cases hproceed
  -- a stream hands on one event, or pings when nothing came for a while
  | streaming run sent since =>
    unfold proceed at hproceed
    dsimp only at hproceed
    split at hproceed
    · next channel _ =>
      split at hproceed
      · next e channel _ =>
        have hreceived := ReflTransGen.single
          (Move.modifyObserver s.host run 0 fun _ => .channel channel)
        split at hproceed
        · cases hproceed
          exact hreceived
        · cases hproceed
          exact hreceived
      · -- nothing was received, and the host is left alone
        split at hproceed
        · cases hproceed
          exact .refl
        · split at hproceed
          · cases hproceed
            exact .refl
          · cases hproceed
    · cases hproceed
      exact .refl

theorem moves_turn (hturn : s.turn? = some next) : ReflTransGen Move s.host next.host := by
  unfold turn? at hturn
  dsimp only at hturn
  split at hturn
  · next after hmoved =>
    cases hturn
    obtain ⟨⟨phase, number⟩, -, hproceed⟩ := List.exists_of_findSome?_eq_some hmoved
    obtain ⟨found, hfound, rfl⟩ := Option.map_eq_some_iff.mp hproceed
    exact moves_proceed hfound
  · obtain ⟨host, hhost, rfl⟩ := Option.map_eq_some_iff.mp hturn
    exact .single (.turn hhost)

/-- **What a site does to its host while it waits** is what callers may do. -/
theorem moves_runUntil (stop : Site → Bool) (limit : Option Nat) (fuel : Nat) (s : Site) :
    ReflTransGen Move s.host (Clocked.runUntil stop limit fuel s).host := by
  have hreaches := Clocked.reaches_runUntil
    (R := fun s next : Site => ReflTransGen Move s.host next.host)
    (fun s next hturn => .single (moves_turn hturn))
    (fun s moment => .single (.single (.machine s.host _))) stop limit fuel s
  exact hreaches.lift' Site.host fun _ _ hmoves => hmoves

/-- What clients do at a site, and what the site does while they wait. -/
inductive Visit : Site → Site → Prop where
  | accept (s : Site) (r : Request) : Visit s (s.accept r).2
  | wait (s : Site) (stop : Site → Bool) (limit : Option Nat) (fuel : Nat) :
      Visit s (Clocked.runUntil stop limit fuel s)

theorem Visit.moves (hvisit : Visit s next) : ReflTransGen Move s.host next.host := by
  cases hvisit with
  | accept r => exact moves_receive r
  | wait stop limit fuel => exact moves_runUntil stop limit fuel s

end Web.Site

/-! ## Section 4: Where the programs come to

The two results put together what the moves lead to: from any host that is reached to the one that a
call, or any number of visits, leaves behind. -/

/-- **A call comes to an interleaving**: on a host that is reached, the host behind it is reached
too. -/
theorem CommandLine.reachable_call {host : Host} (hreached : host.Reachable)
    (directory home : String) (hasTerminal : Bool) (words : List String) :
    (call host directory home hasTerminal words).2.Reachable :=
  hreached.move (moves_call host directory home hasTerminal words)

/-- **A site comes to interleavings only**, whatever its clients ask for and however they wait.  So
what is proved of interleavings holds of every run that the server makes. -/
theorem Web.Site.reachable_visits {host : Host} (hreached : host.Reachable) (settings : Settings)
    (tuning : Tuning) (home : String) (hasTerminal : Bool) {s : Site}
    (hvisits : ReflTransGen Visit (.ofSettings host settings tuning home hasTerminal) s) :
    s.host.Reachable :=
  (hreached.move (.single (.addSupervisor host tuning))).move
    (hvisits.lift' Site.host fun _ _ hvisit => hvisit.moves)

end Overseer
