import Overseer.Proofs.Supervisor.Account
import Overseer.Sink.Observer

/-!
# The Process of a Run

A worker learns the end of its process when it polls or waits for it.  It turns away from a process
that it has not seen end in three places: where the process cannot be polled while it is being
stopped, twice, and where the clock cannot show when a prompt would expire.

- `Deed.learnsEnd`, `Deed.abandons`: learning the end and turning away
- `Agenda.Next.watch`: what one step does to the watch
- `lasting_watchLogged`: a run that freed the supervisor learned the end unless it turned away
- `Chronicle.overseen_after`: this for every run, and what follows for the number of processes
-/

namespace Overseer

open Agenda

variable {σ : Type} [Sink σ] {tuning : Tuning}

/-! ## Section 1: Learning the end of a process

A worker learns of the end of its process when a poll or a wait says so.  A poll may also fail, and
then the worker knows nothing and may turn away. -/

/-- What was found out about a process: its exit code. -/
def ChildStatus.exitCode? : ChildStatus → Option Int
  | .exited code => some code
  | _ => none

/-- Whether nothing could be found out about a process. -/
def ChildStatus.isUnknown : ChildStatus → Bool
  | .unknown _ => true
  | _ => false

theorem ChildStatus.isUnknown_eq_false {child : ChildStatus} (h : ∀ reason, child ≠ .unknown reason) :
    child.isUnknown = false := by
  cases child with
  | unknown reason => exact absurd rfl (h reason)
  | _ => rfl

/-- Of a process that is not running the end is learned, or nothing, unless it was known before. -/
theorem ChildStatus.exitCode?_or_isUnknown {child : ChildStatus} (h : child ≠ .running)
    (exited : Option (Int × Nat)) :
    (exited.isSome || child.exitCode?.isSome) = !(exited.isNone && child.isUnknown) := by
  cases child with
  | running => exact absurd rfl h
  | exited code => cases exited <;> rfl
  | unknown reason => cases exited <;> rfl

/-- The end of a process that can be waited for is learned. -/
theorem ChildStatus.isSome_or_not_isUnknown (child : ChildStatus) (exited : Option (Int × Nat)) :
    (exited.isSome || !child.isUnknown) = !(exited.isNone && child.isUnknown) := by
  cases exited <;> cases child <;> rfl

namespace Task

/-- The exit of the process that a task of the loop notes, and when. -/
def exit? (w : Worker σ) (seen : Observation) : Task → Option (Int × Nat)
  | .checkChild => if w.exited.isSome then none else seen.child.exitCode?.map fun code => (code, seen.now)
  | _ => none

/-- Whether a task learns that the process has ended. -/
def learnsEnd (w : Worker σ) (seen : Observation) : Task → Bool
  | .checkChild => w.exited.isNone && seen.child.exitCode?.isSome
  | .terminate _ => seen.child.exitCode?.isSome
  | .awaitEnd deadline _ => seen.now < deadline && seen.child.exitCode?.isSome
  | .reap _ => !seen.child.isUnknown
  | _ => false

/-- Whether a task turns away from a process that was not seen to end: it cannot be asked
about or killed while it is being stopped, or the clock cannot show when a prompt would expire. -/
def abandons (s : Supervisor) (w : Worker σ) (seen : Observation) : Task → Bool
  | .terminate _ | .awaitEnd .. | .reap _ => w.exited.isNone && seen.child.isUnknown
  | .openWait text =>
    w.exited.isNone && (s.relay.openWait? text seen.now w.command.promptTimeout).isNone
  | _ => false

omit [Sink σ] in
/-- The exit is noted by the check that learns of it. -/
theorem isSome_exit?_or (w : Worker σ) (seen : Observation) :
    ((exit? w seen .checkChild).or w.exited).isSome =
      (w.exited.isSome || learnsEnd w seen .checkChild) := by
  rw [exit?, learnsEnd]
  cases w.exited <;> cases seen.child <;> rfl

end Task

namespace Deed

/-- The exit of the process that the worker notes in its loop, and when. -/
def exit? : Deed σ → Option (Int × Nat)
  | .worked _ w seen => w.agenda.head?.bind (Task.exit? w seen)
  | .answered .. => none

/-- Whether the worker learns that its process has ended. -/
def learnsEnd : Deed σ → Bool
  | .worked _ w seen => w.agenda.head?.any (Task.learnsEnd w seen)
  | .answered .. => false

/-- Whether the worker turns away from a process that it has not seen end. -/
def abandons : Deed σ → Bool
  | .worked s w seen => w.agenda.head?.any (Task.abandons s w seen)
  | .answered .. => false

/-- The signal that the worker sends to its process. -/
def signal? : Deed σ → Option StopSignal
  | .worked s w seen => (w.step s seen).signal
  | .answered .. => none

end Deed

namespace Worker

variable {s : Supervisor} {w : Worker σ} {seen : Observation}

/-- Only one task notes the exit of the process. -/
theorem exited_perform {task : Task} (htask : task ≠ .checkChild) :
    (perform s w seen task).worker.exited = w.exited := by
  cases task with
  | checkChild => exact absurd rfl htask
  -- a poll changes the reader and the agenda
  | poll deadline =>
    obtain ⟨reader, tasks, hpoll, -⟩ :=
      pollReader_spec s.tuning (w.only checks) (seen.now + s.tuning.pollInterval)
    simp only [perform, hpoll]
    rfl
  -- telling changes the sinks and the tail
  | flush =>
    simp only [perform, foldl_tellNotice]
    rfl
  | checkEnd =>
    simp only [perform]
    rcases decideEnd_spec s w seen with hend | ⟨code, hend⟩
    · rw [hend]
      rfl
    · rw [hend]
      rfl
  -- these change the relay or the agenda, or send a signal
  | openWait text =>
    simp only [perform]
    split
    · rfl
    · split <;> rfl
  | awaitEnd deadline outcome =>
    simp only [perform]
    split <;> split <;> rfl
  | autoAnswer | checkStop | checkPrompt | checkTime | terminate _ | drainUntil _ _
    | drainPoll _ _ _ =>
    simp only [perform]
    split <;> rfl
  | _ => rfl

/-- **What becomes of the exit**: once it is noted it stays.  Only the check that learns of it notes
it. -/
theorem exited_step (s : Supervisor) (w : Worker σ) (seen : Observation) :
    (step s w seen).worker.exited = (Deed.worked s w seen).exit?.or w.exited := by
  cases hagenda : w.agenda with
  | nil =>
    rw [step_over s seen hagenda, Deed.exit?, hagenda]
    rfl
  | cons task rest =>
    rw [step_cons hagenda, Deed.exit?, hagenda]
    by_cases htask : task = .checkChild
    · subst htask
      -- the one task that may note something, if nothing was noted before
      show _ = (Task.exit? w seen .checkChild).or w.exited
      simp only [perform, Task.exit?]
      cases hexited : w.exited with
      | some ending => rfl
      | none => cases seen.child <;> rfl
    · rw [exited_perform htask]
      cases task with
      | checkChild => exact absurd rfl htask
      | _ => rfl

/-- A task of the loop sends no signal. -/
theorem signal_perform {task : Task} (htask : task.outcome? = none) :
    (perform s w seen task).signal = none := by
  cases task with
  -- the tasks on the way to the end have an outcome
  | terminate _ | awaitEnd _ _ | reap _ | drain _ | drainUntil _ _ | drainPoll _ _ _ | settle _
    | conclude _ | collapse _ => exact absurd htask nofun
  | checkChild =>
    simp only [perform]
    split
    · rfl
    · split <;> rfl
  | openWait _ | autoAnswer | checkPrompt =>
    simp only [perform]
    split <;> rfl
  | _ => rfl

/-- **While a run goes round its loop** no signal is sent. -/
theorem signal_step (s : Supervisor) (seen : Observation) (h : Undecided w.agenda) :
    (step s w seen).signal = none := by
  obtain ⟨task, rest, hagenda⟩ := List.exists_cons_of_ne_nil h.ne_nil
  have hnone := h.outcome?_eq
  rw [step_cons hagenda]
  refine signal_perform ?_
  rw [hagenda, outcome?, List.findSome?_cons] at hnone
  cases htask : task.outcome? with
  | none => rfl
  | some outcome =>
    rw [htask] at hnone
    cases hnone

end Worker

/-! ## Section 2: The watch over a process

The watch goes on as long as some task on the agenda will look at the process again.  What ends it
is written into the log in the same step. -/

/-- The tasks that lead to another look at the process. -/
def Task.watches : Task → Bool
  | .start | .listen | .poll _ | .checkEnd | .terminate _ | .awaitEnd .. | .reap _ => true
  | _ => false

namespace Agenda

/-- Whether the worker is still to learn about its process. -/
def watching (agenda : List Task) : Bool := agenda.any Task.watches

@[simp] theorem watching_cons (task : Task) (rest : List Task) :
    watching (task :: rest) = (task.watches || watching rest) := rfl

@[simp] theorem watching_nil : watching [] = false := rfl

@[simp] theorem watching_checks : watching Worker.checks = true := rfl

@[simp] theorem watching_finishing (outcome : Outcome) :
    watching (Worker.finishing outcome) = false := rfl

@[simp] theorem watching_telling (lines : List String) : watching (telling lines) = true := by
  rw [watching, telling, List.any_append]
  exact Bool.or_true _

@[simp] theorem watching_tellingLate (lines : List String) (deadline : Nat) (outcome : Outcome) :
    watching (tellingLate lines deadline outcome) = false := by
  induction lines with
  | nil => rfl
  | cons line lines ih => exact ih

/-- The watch over a process goes on, ends, or has ended. -/
inductive Watch {σ : Type} [Sink σ] (s : Supervisor) (w : Worker σ) (seen : Observation)
    (before after : List Task) : Prop where
  | goesOn (h : watching before = true) (h' : watching after = true)
      (hkept : (Deed.worked s w seen).abandons = false)
      (hlearned : (w.step s seen).worker.exited.isSome =
        (w.exited.isSome || (Deed.worked s w seen).learnsEnd))
  | ends (h : watching before = true) (h' : watching after = false)
      (hlearned : (w.exited.isSome || (Deed.worked s w seen).learnsEnd) =
        !(Deed.worked s w seen).abandons)
  | ended (h : watching before = false) (h' : watching after = false)
      (hkept : (Deed.worked s w seen).abandons = false)
      (hnone : (Deed.worked s w seen).learnsEnd = false)

/-- A task that looks at no process: it learns nothing, and it abandons nothing. -/
theorem Watch.of_blind {s : Supervisor} {w : Worker σ} {seen : Observation}
    {before after : List Task} (hwatching : watching before = watching after)
    (hlearned : (Deed.worked s w seen).learnsEnd = false)
    (hkept : (Deed.worked s w seen).abandons = false)
    (hexit : (Deed.worked s w seen).exit? = none) : Watch s w seen before after := by
  have hexited := Worker.exited_step s w seen
  rw [hexit, Option.none_or] at hexited
  cases hafter : watching after with
  | true =>
    refine .goesOn (hwatching.trans hafter) hafter hkept ?_
    rw [hexited, hlearned, Bool.or_false]
  | false => exact .ended (hwatching.trans hafter) hafter hkept hlearned

/-- **What one step does to the watch** over the process.  It ends by learning of the end or by
turning away, and no other step changes it. -/
theorem Next.watch {s : Supervisor} {w : Worker σ} {seen : Observation} {before after : List Task}
    (h : Next s w seen before after) (hbefore : w.agenda = before) : Watch s w seen before after := by
  have hexited := Worker.exited_step s w seen
  have hexit : (Deed.worked s w seen).exit? = before.head?.bind (Task.exit? w seen) := by
    rw [← hbefore]
    rfl
  have hlearns : (Deed.worked s w seen).learnsEnd = before.head?.any (Task.learnsEnd w seen) := by
    rw [← hbefore]
    rfl
  have habandons : (Deed.worked s w seen).abandons = before.head?.any (Task.abandons s w seen) := by
    rw [← hbefore]
    rfl
  rw [hexit] at hexited
  cases h with
  -- the process is polled
  | polled | lost =>
    refine .goesOn rfl rfl habandons ?_
    rw [hexited, hlearns]
    exact Task.isSome_exit?_or w seen
  -- the process has ended
  | completed code noticed hended =>
    refine .ends rfl rfl ?_
    rw [habandons, hended]
    rfl
  | reap outcome =>
    refine .ends rfl rfl ?_
    rw [hlearns, habandons]
    exact ChildStatus.isSome_or_not_isUnknown seen.child w.exited
  -- the process is stopped: the watch ends with the first poll that does not find it running
  | terminate moment outcome hrunning =>
    refine .of_blind rfl (hlearns.trans ?_) (habandons.trans ?_) hexit
    · simp [Task.learnsEnd, hrunning, ChildStatus.exitCode?]
    · simp [Task.abandons, hrunning, ChildStatus.isUnknown]
  | await moment deadline outcome hnow hrunning =>
    refine .of_blind rfl (hlearns.trans ?_) (habandons.trans ?_) hexit
    · simp [Task.learnsEnd, hrunning, ChildStatus.exitCode?]
    · simp [Task.abandons, hrunning, ChildStatus.isUnknown]
  | kill deadline outcome hlate hknown =>
    have hnow : decide (seen.now < deadline) = false := decide_eq_false (Nat.not_lt.mpr hlate)
    refine .of_blind rfl (hlearns.trans ?_) (habandons.trans ?_) hexit
    · simp [Task.learnsEnd, hnow]
    · simp [Task.abandons, ChildStatus.isUnknown_eq_false hknown]
  | letLive deadline outcome reason hlate hunknown =>
    have hnow : decide (seen.now < deadline) = false := decide_eq_false (Nat.not_lt.mpr hlate)
    refine .ends rfl rfl ?_
    rw [hlearns, habandons]
    simp [Task.learnsEnd, Task.abandons, hnow, hunknown, ChildStatus.isUnknown]
  | leaveEnded outcome hended =>
    refine .ends rfl rfl ?_
    rw [hlearns, habandons]
    exact ChildStatus.exitCode?_or_isUnknown hended w.exited
  | awaited deadline outcome hnow hended =>
    have hnow : decide (seen.now < deadline) = true := decide_eq_true hnow
    refine .ends rfl rfl ?_
    simp only [hlearns, habandons, List.head?_cons, Option.any_some, Task.learnsEnd, Task.abandons,
      hnow, Bool.true_and]
    exact ChildStatus.exitCode?_or_isUnknown hended w.exited
  -- a wait is opened
  | repeated text lines relay hopen =>
    refine .of_blind (by simp [Task.watches]) hlearns (habandons.trans ?_) hexit
    simp [Task.abandons, hopen]
  | opened text lines relay hopen =>
    refine .of_blind (by simp [Task.watches]) hlearns (habandons.trans ?_) hexit
    simp [Task.abandons, hopen]
  | unrepresentable text lines hopen =>
    refine .ends (by simp) rfl ?_
    simp only [hlearns, habandons, List.head?_cons, Option.any_some, Task.learnsEnd, Task.abandons,
      hopen]
    cases w.exited <;> rfl
  -- no other task looks at the process
  | narrateLate line lines deadline outcome => exact .of_blind (by simp) hlearns habandons hexit
  | _ => exact .of_blind (by simp [Task.watches]) hlearns habandons hexit

end Agenda

/-- The log of a run says whether the watch over its process goes on, and how it ended. -/
structure WatchLogged (w : Worker σ) (log : List (Deed σ)) : Prop where
  going : watching w.agenda = true →
    log.any Deed.abandons = false ∧ w.exited.isSome = log.any Deed.learnsEnd
  ended : watching w.agenda = false → log.any Deed.learnsEnd = !log.any Deed.abandons

omit [Sink σ] in
theorem any_concat (log : List (Deed σ)) (e : Deed σ) (p : Deed σ → Bool) :
    (log ++ [e]).any p = (log.any p || p e) := by
  rw [List.any_append, List.any_cons, List.any_nil, Bool.or_false]

/-- One step of the watch: the log has what the step did, and the invariant follows what the step
says of itself. -/
theorem WatchLogged.step {s : Supervisor} {w : Worker σ} {log : List (Deed σ)} (h : WatchLogged w log)
    (seen : Observation) (hwatch : Watch s w seen w.agenda (w.step s seen).worker.agenda) :
    WatchLogged (w.step s seen).worker (log ++ [.worked s w seen]) := by
  cases hwatch with
  | goesOn hbefore hafter hkept hlearned =>
    obtain ⟨hnone, hexited⟩ := h.going hbefore
    constructor
    · -- the watch goes on, so nothing was learned and nobody has turned away
      intro _
      rw [any_concat, any_concat, hnone, hkept, hlearned, hexited]
      exact ⟨rfl, rfl⟩
    · intro hended
      exact absurd (hafter.symm.trans hended) nofun
  | ends hbefore hafter hlearned =>
    obtain ⟨hnone, hexited⟩ := h.going hbefore
    constructor
    · intro hgoing
      exact absurd (hafter.symm.trans hgoing) nofun
    · -- it ends here: the end is learned in this step, or the worker turns away in it
      intro _
      rw [any_concat, any_concat, hnone, Bool.false_or, ← hexited]
      exact hlearned
  | ended hbefore hafter hkept hnone =>
    constructor
    · intro hgoing
      exact absurd (hafter.symm.trans hgoing) nofun
    · -- it had ended before, and this step adds nothing
      intro _
      rw [any_concat, any_concat, hkept, hnone, Bool.or_false, Bool.or_false]
      exact h.ended hbefore

/-- **The watch over the process of a run** goes on until the worker has learned its end, or turned
away. -/
theorem lasting_watchLogged (tuning : Tuning) : Lasting (σ := σ) tuning fun _ w log => WatchLogged w log :=
  .ofLog
    { begins := fun w hfresh => by
        obtain ⟨command, ticket, pid, now, fanout, arrivals, rfl⟩ := hfresh
        rw [Worker.foldl_arrive]
        exact ⟨fun _ => ⟨rfl, rfl⟩, nofun⟩
      works := fun s w log seen ha h => by
        by_cases hover : w.agenda = []
        · -- a run that is over does nothing, so its watch has ended already
          have hsame : (w.step s seen).worker = w := by rw [Worker.step_over s seen hover]
          refine h.step seen (.ended ?_ ?_ ?_ ?_)
          · rw [hover]
            rfl
          · rw [hsame, hover]
            rfl
          · rw [Deed.abandons, hover]
            rfl
          · rw [Deed.learnsEnd, hover]
            rfl
        · exact h.step seen ((Worker.next_step s seen ha.phase hover).watch rfl)
      arrives := fun w log arrival h => ⟨h.going, h.ended⟩
      answers := fun relay w log answer replies _ h => by
        constructor
        · -- an answer is no step of the worker
          rw [any_concat, any_concat]
          simpa [Deed.abandons, Deed.learnsEnd] using h.going
        · rw [any_concat, any_concat]
          simpa [Deed.abandons, Deed.learnsEnd] using h.ended }

/-! ## Section 3: Processes of a chronicle

A process is alive for a chronicle from the moment at which it may have been made until a worker has
learned of its end.  That it may have ended by itself earlier is beside the point: nobody knows of
it. -/

theorem Agenda.not_watching_of_settled {agenda : List Task} (h : agenda.all Task.isLast = true) :
    watching agenda = false := by
  refine List.any_eq_false.mpr fun task htask => ?_
  have hlast := List.all_eq_true.mp h task htask
  cases task with
  | conclude _ | collapse _ => exact nofun
  | _ => exact absurd hlast nofun

namespace Chronicle

/-- The process of the run is being made, or it was made and nobody has learned its end. -/
def Alive (h : Chronicle σ) (t : Nat) : Prop :=
  h.crew.Reserved t ∨
    (∃ w attached, h.crew.stages t = some (.working w attached)) ∧
      ∀ e ∈ h.log t, e.learnsEnd = false

/-- When a run has freed the supervisor, its worker has learned the end of its process. -/
def EndsLearned (h : Chronicle σ) : Prop :=
  h.Every fun _ w log => w.isSettled = true → ∃ e ∈ log, e.learnsEnd = true

/-- At most one process is alive. -/
def OneProcess (h : Chronicle σ) : Prop := ∀ t u, h.Alive t → h.Alive u → t = u

/-- How well the processes of a chronicle are watched. -/
structure Overseen (h : Chronicle σ) : Prop where
  /-- When a run has freed the supervisor, its worker has learned the end of its process exactly
  if it never turned away from it. -/
  learned : h.Every fun _ w log => w.isSettled = true →
    ((∃ e ∈ log, e.learnsEnd = true) ↔ ∀ e ∈ log, e.abandons = false)
  /-- Where no worker turned away from its process, at most one process is alive. -/
  alone : (∀ t, ∀ e ∈ h.log t, e.abandons = false) → h.OneProcess

/-- **The processes of runs**, in every interleaving: a worker that frees the supervisor has learned
the end of its process unless it turned away.  It turns away where it cannot go on, and where a
process that is being stopped cannot be asked about or killed. -/
theorem overseen_after (tuning : Tuning) (actions : List (Crew.Action σ)) :
    (after tuning actions).Overseen := by
  have hkeeps := keeps_after (lasting_watchLogged (σ := σ) tuning) actions
  have hlearned : (after tuning actions).Every fun _ w log => w.isSettled = true →
      ((∃ e ∈ log, e.learnsEnd = true) ↔ ∀ e ∈ log, e.abandons = false) := by
    intro t w hstage hsettled
    have hended := (hkeeps.holds t w hstage).ended (not_watching_of_settled hsettled)
    rw [← List.any_eq_true, hended, Bool.not_eq_true', List.any_eq_false]
    exact forall₂_congr fun e _ => iff_of_eq (Bool.not_eq_true e.abandons)
  refine ⟨hlearned, fun hkept t u ht hu => ?_⟩
  -- a process that is alive has a run that occupies the supervisor
  have hactive : ∀ t, (after tuning actions).Alive t → (after tuning actions).crew.Active t := by
    rintro t (hreserved | ⟨⟨w, attached, hstage⟩, hunlearned⟩)
    · exact hreserved.active
    · refine Crew.Runs.active ⟨attached, hstage, ?_⟩
      cases attached with
      | false => exact (hkeeps.fresh t w hstage).isSettled
      | true =>
        cases hsettled : w.isSettled with
        | false => rfl
        | true =>
          obtain ⟨e, he, hlearns⟩ := (hlearned t w hstage hsettled).mpr (hkept t)
          exact absurd (hlearns.symm.trans (hunlearned e he)) nofun
  exact hkeeps.tracks.eq_of_active (hactive t ht) (hactive u hu)

/-! ## Section 4: A process that is left behind

The clock cannot show when the wait would expire, so the worker goes no further.  It frees the
supervisor and leaves the process alone. -/

/-- Whether the run has freed the supervisor. -/
def hasLeft (h : Chronicle σ) (t : Nat) : Bool :=
  match h.crew.stages t with
  | some (.working w true) => w.isSettled
  | _ => false

/-- Whether the process of the run was made and nobody has learned its end. -/
def isUnlearned (h : Chronicle σ) (t : Nat) : Bool :=
  match h.crew.stages t with
  | some (.working ..) => (h.log t).all fun e => !e.learnsEnd
  | _ => false

omit [Sink σ] in
theorem alive_of_isUnlearned {h : Chronicle σ} {t : Nat} (hunlearned : h.isUnlearned t = true) :
    h.Alive t := by
  simp only [isUnlearned] at hunlearned
  split at hunlearned
  · next w attached hstage =>
    refine .inr ⟨⟨w, attached, hstage⟩, fun e he => ?_⟩
    simpa using List.all_eq_true.mp hunlearned e he
  · exact absurd hunlearned nofun

omit [Sink σ] in
theorem settled_of_hasLeft {h : Chronicle σ} {t : Nat} (hleft : h.hasLeft t = true) :
    ∃ w, h.crew.stages t = some (.working w true) ∧ w.isSettled = true := by
  simp only [hasLeft] at hleft
  split at hleft
  · next w hstage => exact ⟨w, hstage, hleft⟩
  · exact absurd hleft nofun

omit [Sink σ] in
theorem not_endsLearned {h : Chronicle σ} {t : Nat} (hleft : h.hasLeft t = true)
    (hunlearned : h.isUnlearned t = true) : ¬h.EndsLearned := by
  intro hlearned
  obtain ⟨w, hstage, hsettled⟩ := settled_of_hasLeft hleft
  obtain ⟨e, he, hlearns⟩ := hlearned t w hstage hsettled
  simp only [isUnlearned, hstage] at hunlearned
  simpa [hlearns] using List.all_eq_true.mp hunlearned e he

/-- A command whose prompts may wait for longer than the clock can show. -/
def patientCommand : Command :=
  { Command.new "sh" ["ask.sh"] with promptTimeout := (Nat.pow 2 64 - 1) * 1000 }

/-- What a worker sees whose process runs on and takes every byte. -/
def calm : Observation := ⟨0, .running, ⟨[], none⟩⟩

/-- The process of a patient command asks, its worker cannot go on, and another run is started. -/
def patientRun : List (Crew.Action Observer) :=
  [.reserve patientCommand (.ofSinks []), .announce 0 7 0, .attach 0,
      .arrive 0 (.bytes "Backup? [y/n]\n".toUTF8.toList)] ++
    List.replicate 7 (.work 0 calm) ++
    [.reserve patientCommand (.ofSinks []), .announce 1 8 0]

/-- **A process that is left behind**: the first run has freed the supervisor, its process runs on,
and so does the process of the second. -/
theorem not_overseen_patientRun :
    ¬(after .standard patientRun).EndsLearned ∧ ¬(after .standard patientRun).OneProcess := by
  have hleft : (after .standard patientRun).hasLeft 0 = true := by decide +kernel
  have hfirst : (after .standard patientRun).isUnlearned 0 = true := by decide +kernel
  have hsecond : (after .standard patientRun).isUnlearned 1 = true := by decide +kernel
  refine ⟨not_endsLearned hleft hfirst, fun hone => ?_⟩
  have hsame := hone 0 1 (alive_of_isUnlearned hfirst) (alive_of_isUnlearned hsecond)
  exact absurd hsame (by decide)

end Chronicle

end Overseer
