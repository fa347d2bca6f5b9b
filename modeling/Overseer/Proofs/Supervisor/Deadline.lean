import Overseer.Proofs.Supervisor.Rounds

/-!
# Loops Against the Clock

A run goes round its loop until its time is over at the latest, and when it is stopped it takes the
output that is left until the grace period is over at the latest.  Both loops look at the clock
before they go on, whatever the process writes and whoever answers or interrupts.

- `Agenda.Drains`: the agenda while output that is left is taken
- `Worker.drained_step`: one step of that
- `lasting_draining`: from the moment at which a run begins to take what is left
- `Chronicle.timely_after`: both loops of every run
-/

namespace Overseer

open Agenda
open Worker (finishing)

variable {σ : Type} [Sink σ]

/-! ## Section 1: What is left of the output

A run that is stopped takes what is left of its output in a loop of its own: a look at the clock, a
poll, and the lines that the poll found.  The agenda says how much of one round is still to come. -/

namespace Task

/-- Tasks of the loop that takes the output that is left. -/
def drains : Task → Bool
  | .drainUntil .. | .drainPoll .. | .narrateLate _ => true
  | _ => false

/-- The task that begins this loop. -/
def beginsDrain : Task → Bool
  | .drain _ => true
  | _ => false

/-- The task that looks at the clock before the loop goes on. -/
def checksDrain : Task → Bool
  | .drainUntil .. => true
  | _ => false

/-- The task that takes output in this loop. -/
def takesLeft : Task → Bool
  | .drainPoll .. => true
  | _ => false

end Task

/-- Whether the worker does a task of some kind. -/
def Deed.does (kind : Task → Bool) (e : Deed σ) : Bool := e.task?.any kind

namespace Agenda

/-- The run has done all but its last tasks. -/
def IsOver (agenda : List Task) : Prop := ∃ outcome, agenda <:+ finishing outcome

/-- The agenda while the output that is left is taken until a deadline, and afterwards, with the
steps and the polls that are still to come before the clock is looked at. -/
inductive Drains (deadline : Nat) : (steps polls : Nat) → List Task → Prop where
  | telling (lines : List String) (outcome : Outcome) :
      Drains deadline (lines.length + 1) 0 (tellingLate lines deadline outcome)
  | taking (quantum : Nat) (outcome : Outcome) :
      Drains deadline 2 1 [.drainPoll deadline quantum outcome]
  | ended {agenda : List Task} : IsOver agenda → Drains deadline 0 0 agenda

end Agenda

namespace Chronicle

/-- How many looks at the clock, of some kind, came before a time. -/
def early (kind : Task → Bool) (time : Nat) (log : List (Deed σ)) : Nat :=
  (readings kind log).countP (· < time)

omit [Sink σ] in
theorem early_concat (kind : Task → Bool) (time : Nat) (log : List (Deed σ)) (e : Deed σ) :
    early kind time (log ++ [e]) = early kind time log + early kind time [e] := by
  rw [early, readings, List.filterMap_append, List.countP_append]
  rfl

end Chronicle

/-- What one step does to the loop that takes the output that is left. -/
structure Agenda.Drained (deadline : Nat) (e : Deed σ) (steps polls : Nat) (after : List Task) :
    Prop where
  goesOn : ∃ steps' polls', Drains deadline steps' polls' after ∧
    steps' + (e.does Task.drains).toNat ≤
      steps + 2 * Chronicle.early Task.checksDrain deadline [e] + e.handed.length ∧
    polls' + (e.does Task.takesLeft).toNat ≤
      polls + Chronicle.early Task.checksDrain deadline [e]
  checks : ∀ time outcome, e.task? = some (.drainUntil time outcome) → time = deadline
  stops : ∀ now ∈ e.reading? Task.checksDrain, deadline ≤ now → IsOver after

namespace Deed

variable {s : Supervisor} {w : Worker σ} {seen : Observation} {task : Task} {rest : List Task}

omit [Sink σ] in
theorem does_worked (h : w.agenda = task :: rest) (kind : Task → Bool) :
    (Deed.worked s w seen).does kind = kind task := by
  rw [does, task?, h, List.head?_cons, Option.any_some]

omit [Sink σ] in
theorem reading?_worked (h : w.agenda = task :: rest) (kind : Task → Bool) :
    (Deed.worked s w seen).reading? kind = if kind task then some seen.now else none := by
  rw [reading?, h, List.head?_cons, Option.any_some]

omit [Sink σ] in
/-- The clock is looked at by tasks of the kind only. -/
theorem reading?_eq_none {kind : Task → Bool} {e : Deed σ} (h : e.does kind = false) :
    e.reading? kind = none := by
  cases e with
  | answered => rfl
  | worked s w seen =>
    rw [does, task?] at h
    rw [reading?, h, if_neg Bool.false_ne_true]

omit [Sink σ] in
theorem beginsDrain_worked (h : (Deed.worked s w seen).does Task.beginsDrain = true) :
    ∃ outcome, w.agenda.head? = some (.drain outcome) := by
  obtain ⟨task, hhead, htask⟩ := (Option.any_eq_true _ _).mp h
  cases task with
  | drain outcome => exact ⟨outcome, hhead⟩
  | _ => cases htask

omit [Sink σ] in
/-- Looking at the clock and polling are parts of the loop. -/
theorem does_of_not_drains {e : Deed σ} (h : e.does Task.drains = false) :
    e.does Task.checksDrain = false ∧ e.does Task.takesLeft = false := by
  rw [does] at h
  rw [does, does]
  cases htask : e.task? with
  | none => exact ⟨rfl, rfl⟩
  | some task =>
    rw [htask] at h
    cases task with
    | drainUntil _ _ | drainPoll _ _ _ => cases h
    | _ => exact ⟨rfl, rfl⟩

end Deed

omit [Sink σ] in
/-- A step that does not look at the clock.  It keeps within the bounds when what is left to do and
what it did itself are no more than what there was to do, and it never ends the loop. -/
theorem Agenda.Drained.blind {deadline steps polls steps' polls' : Nat} {e : Deed σ}
    {after : List Task} (hcheck : e.does Task.checksDrain = false)
    (hafter : Drains deadline steps' polls' after)
    (hsteps : steps' + (e.does Task.drains).toNat ≤ steps + e.handed.length)
    (hpolls : polls' + (e.does Task.takesLeft).toNat ≤ polls) :
    Drained deadline e steps polls after := by
  have hnone := Deed.reading?_eq_none hcheck
  refine ⟨⟨steps', polls', hafter, ?_, ?_⟩, ?_, ?_⟩
  · exact Nat.le_trans hsteps (by omega)
  · exact Nat.le_add_right_of_le hpolls
  · -- the task is no check, so it neither names a deadline nor reads the clock
    intro time outcome htask
    rw [Deed.does, htask] at hcheck
    cases hcheck
  · intro now hnow
    rw [hnone] at hnow
    cases hnow

namespace Worker

variable {w : Worker σ} {deadline : Nat}

/-- A run that is over stays over, and takes nothing of the output any more. -/
theorem isOver_step (s : Supervisor) (seen : Observation) (h : IsOver w.agenda) :
    IsOver (step s w seen).worker.agenda ∧ (Deed.worked s w seen).does Task.drains = false := by
  obtain ⟨outcome, hsuffix⟩ := h
  -- one case for each of the last tasks, and one behind them
  simp only [finishing, List.suffix_cons_iff, List.suffix_nil] at hsuffix
  rcases hsuffix with hagenda | hagenda | hagenda | hagenda | hagenda
  · rw [step_cons hagenda, Deed.does_worked hagenda]
    simp only [perform, foldl_tellNotice]
    exact ⟨⟨outcome, [.flush], rfl⟩, rfl⟩
  · rw [step_cons hagenda, Deed.does_worked hagenda]
    exact ⟨⟨outcome, [.flush, .detach], rfl⟩, rfl⟩
  · rw [step_cons hagenda, Deed.does_worked hagenda]
    exact ⟨⟨outcome, [.flush, .detach, .settle outcome], rfl⟩, rfl⟩
  · rw [step_cons hagenda, Deed.does_worked hagenda]
    exact ⟨⟨outcome, List.nil_suffix⟩, rfl⟩
  · rw [step_over s seen hagenda, Deed.does, Deed.task?, hagenda]
    exact ⟨⟨outcome, List.nil_suffix⟩, rfl⟩

/-- A look at the clock goes on with the loop, or ends it. -/
theorem drained_look {outcome : Outcome} (s : Supervisor) (seen : Observation)
    (hagenda : w.agenda = [.drainUntil deadline outcome]) :
    Drained deadline (.worked s w seen) 1 0 (step s w seen).worker.agenda := by
  -- what the deed counts as can be read off the task in front
  have hdoes : ∀ kind, (Deed.worked s w seen).does kind = kind _ := Deed.does_worked hagenda
  have hreading : (Deed.worked s w seen).reading? Task.checksDrain = some seen.now :=
    Deed.reading?_worked hagenda _
  have hchecks : ∀ time other, (Deed.worked s w seen).task? = some (.drainUntil time other) →
      time = deadline := by
    intro time other htask
    rw [Deed.task?, hagenda] at htask
    cases htask
    rfl
  have hearly : Chronicle.early Task.checksDrain deadline [.worked s w seen] =
      (decide (seen.now < deadline)).toNat := by
    rw [Chronicle.early, Chronicle.readings, List.filterMap_cons, hreading]
    by_cases hnow : seen.now < deadline <;> simp [hnow]
  rw [step_cons hagenda]
  simp only [perform]
  -- too early, and the loop makes another pass; or the grace period is over, and with it the loop
  by_cases hnow : seen.now < deadline
  · rw [if_pos hnow]
    refine ⟨⟨2, 1, .taking _ outcome, ?_, ?_⟩, hchecks, fun now hread hlate => ?_⟩
    · rw [hdoes, hearly, decide_eq_true hnow]
      exact Nat.le_add_right _ _
    · rw [hdoes, hearly, decide_eq_true hnow]
      exact Nat.le_refl _
    · rw [hreading] at hread
      cases hread
      exact absurd hlate (Nat.not_le.mpr hnow)
  · rw [if_neg hnow]
    -- what is left of the agenda only concludes the run
    have hover : IsOver (finishing outcome) := ⟨outcome, List.suffix_refl _⟩
    refine ⟨⟨0, 0, .ended hover, ?_, ?_⟩, hchecks, fun _ _ _ => hover⟩
    · rw [hdoes]
      exact Nat.le_add_right_of_le (Nat.le_add_right _ _)
    · rw [hdoes]
      exact Nat.zero_le _

/-- **One step of the loop** that takes the output that is left.  It uses up one of the steps that
may still come, or looks at the clock and finds it before the deadline. -/
theorem drained_step {steps polls : Nat} (s : Supervisor) (seen : Observation)
    (h : Drains deadline steps polls w.agenda) :
    Drained deadline (.worked s w seen) steps polls (step s w seen).worker.agenda := by
  generalize hagenda : w.agenda = agenda at h
  cases h with
  | telling lines outcome =>
    cases lines with
    | nil => exact drained_look s seen hagenda
    | cons line lines =>
      have hdoes : ∀ kind, (Deed.worked s w seen).does kind = kind _ := Deed.does_worked hagenda
      rw [step_cons hagenda]
      refine .blind (hdoes _) (.telling lines outcome) ?_ ?_
      · rw [hdoes, List.length_cons]
        exact Nat.le_add_right _ _
      · rw [hdoes]
        exact Nat.le_refl 0
  | taking quantum outcome =>
    have hdoes : ∀ kind, (Deed.worked s w seen).does kind = kind _ := Deed.does_worked hagenda
    have hover : IsOver (finishing outcome) := ⟨outcome, List.suffix_refl _⟩
    have hpoll : (Deed.worked s w seen).does Task.takesLeft = true := hdoes _
    have hdrains : (Deed.worked s w seen).does Task.drains = true := hdoes _
    rw [step_cons hagenda]
    simp only [perform]
    split
    · next lines hfound =>
      refine .blind (hdoes _) (.telling lines outcome) ?_ ?_
      · simp only [hdrains, Deed.handed, Worker.handed, hagenda, hfound, Bool.toNat_true]
        omega
      · rw [hpoll]
        exact Nat.le_refl 1
    · refine .blind (hdoes _) (.telling [] outcome) ?_ ?_
      · rw [hdrains]
        exact Nat.le_add_right _ _
      · rw [hpoll]
        exact Nat.le_refl 1
    -- nothing more comes from a source that has ended
    all_goals
      refine .blind (hdoes _) (.ended hover) ?_ ?_
      · rw [hdrains]
        exact Nat.le_add_right_of_le (Nat.le_succ 1)
      · rw [hpoll]
        exact Nat.le_refl 1
  | ended hover =>
    rw [← hagenda] at hover
    obtain ⟨hafter, hdrains⟩ := isOver_step s seen hover
    obtain ⟨hcheck, htakes⟩ := Deed.does_of_not_drains hdrains
    refine .blind hcheck (.ended hafter) ?_ ?_
    · rw [hdrains]
      exact Nat.zero_le _
    · rw [htakes]
      exact Nat.le_refl 0

end Worker

/-! ## Section 2: Until the grace period is over

Looks at the clock and polls are counted from the moment at which the loop begins.  Each look that
comes too late ends the loop, so one of them at most is behind the deadline. -/

/-- A run that takes the output that is left, with what it has done since it began to. -/
structure Draining (deadline : Nat) (w : Worker σ) (after : List (Deed σ)) : Prop where
  /-- Each poll comes behind a look at the clock before the deadline, and few steps do. -/
  goesOn : ∃ steps polls, Drains deadline steps polls w.agenda ∧
    after.countP (Deed.does Task.drains) + steps ≤
      2 * Chronicle.early Task.checksDrain deadline after + (Chronicle.handed after).length + 1 ∧
    after.countP (Deed.does Task.takesLeft) + polls ≤
      Chronicle.early Task.checksDrain deadline after
  checks : ∀ later ∈ after, ∀ time outcome, later.task? = some (.drainUntil time outcome) →
    time = deadline
  /-- A look at the clock at the deadline or later ends the loop. -/
  stops : ∀ before later rest, after = before ++ later :: rest →
    (∃ now ∈ later.reading? Task.checksDrain, deadline ≤ now) →
    IsOver w.agenda ∧ ∀ e ∈ rest, e.does Task.drains = false

namespace Draining

variable {s : Supervisor} {w : Worker σ} {deadline : Nat} {after : List (Deed σ)}

/-- One step of the run goes on within the bounds: it spends what it does, and no step behind a late
look is one of the loop. -/
theorem step (h : Draining deadline w after) (seen : Observation) :
    Draining deadline (w.step s seen).worker (after ++ [.worked s w seen]) := by
  obtain ⟨steps, polls, hdrains, hsteps, hpolls⟩ := h.goesOn
  have hstep := Worker.drained_step s seen hdrains
  constructor
  case goesOn =>
    -- the bounds of the step are added to those of the log before
    obtain ⟨steps', polls', hafter, hsteps', hpolls'⟩ := hstep.goesOn
    refine ⟨steps', polls', hafter, ?_, ?_⟩
    · rw [Chronicle.countP_concat, Chronicle.early_concat, Chronicle.handed_concat,
        List.length_append]
      omega
    · rw [Chronicle.countP_concat, Chronicle.early_concat]
      omega
  case checks => exact Chronicle.forall_mem_concat.mpr ⟨h.checks, hstep.checks⟩
  case stops =>
    refine Chronicle.forall_cut_concat.mpr ⟨fun before later rest hcut hlate => ?_, ?_⟩
    · -- the loop was ended by an earlier look already
      obtain ⟨hover, hrest⟩ := h.stops before later rest hcut hlate
      obtain ⟨hstays, hnot⟩ := Worker.isOver_step s seen hover
      exact ⟨hstays, Chronicle.forall_mem_concat.mpr ⟨hrest, hnot⟩⟩
    · -- this is the look that ends the loop, and nothing is behind it yet
      rintro ⟨now, hnow, hlate⟩
      exact ⟨hstep.stops now hnow hlate, fun e he => absurd he List.not_mem_nil⟩

omit [Sink σ] in
/-- An answer to a prompt spends nothing of what the loop has left. -/
theorem answered (h : Draining deadline w after) (relay : Relay) (answer : Answer)
    (replies : PipeReplies) : Draining deadline w (after ++ [.answered relay answer replies]) := by
  constructor
  -- an answer is no step of the worker and none of its looks at the clock
  case goesOn =>
    rw [Chronicle.early_concat, Chronicle.handed_concat, List.length_append]
    simp only [Chronicle.countP_concat]
    exact h.goesOn
  case checks => exact Chronicle.forall_mem_concat.mpr ⟨h.checks, nofun⟩
  case stops =>
    refine Chronicle.forall_cut_concat.mpr ⟨fun before later rest hcut hlate => ?_, ?_⟩
    · obtain ⟨hover, hrest⟩ := h.stops before later rest hcut hlate
      exact ⟨hover, Chronicle.forall_mem_concat.mpr ⟨hrest, rfl⟩⟩
    · rintro ⟨now, hnow, -⟩
      cases hnow

/-- The run begins to take what is left. -/
theorem begins (seen : Observation) (h : (Deed.worked s w seen).does Task.beginsDrain = true) :
    Draining (seen.now + s.tuning.gracePeriod) (w.step s seen).worker [] := by
  obtain ⟨outcome, hhead⟩ := Deed.beginsDrain_worked h
  obtain ⟨rest, hagenda⟩ := List.head?_eq_some_iff.mp hhead
  rw [Worker.step_cons hagenda]
  refine ⟨⟨1, 0, .telling [] outcome, Nat.le_refl 1, Nat.le_refl 0⟩, ?_, ?_⟩
  · exact fun later hlater => absurd hlater List.not_mem_nil
  · exact fun before later rest hcut => absurd hcut (by simp)

end Draining

/-- **From the moment at which a run begins to take the output that is left** it does so until its
grace period is over at the latest. -/
theorem lasting_draining (tuning : Tuning) :
    Lasting (σ := σ) tuning fun _ w log => ∀ before e after, log = before ++ e :: after →
      ∀ s' w' seen, e = .worked s' w' seen → e.does Task.beginsDrain = true →
        Draining (seen.now + tuning.gracePeriod) w after :=
  .ofLog
    { begins := fun w _ before e after hlog => absurd hlog (by simp)
      works := fun s w log seen ha h => Chronicle.forall_cut_concat.mpr
        ⟨fun before e after hlog s' w' seen' hdeed hbegins =>
          (h before e after hlog s' w' seen' hdeed hbegins).step seen, by
          intro s' w' seen' hdeed hbegins
          -- the moment at which it began is the one that the step saw
          cases hdeed
          rw [← ha.tuned]
          exact Draining.begins seen hbegins⟩
      arrives := fun w log arrival h before e after hlog s' w' seen hdeed hbegins => by
        obtain ⟨hgoesOn, hchecks, hstops⟩ := h before e after hlog s' w' seen hdeed hbegins
        exact ⟨hgoesOn, hchecks, hstops⟩
      answers := fun relay w log answer replies _ h => Chronicle.forall_cut_concat.mpr
        ⟨fun before e after hlog s' w' seen hdeed hbegins =>
          (h before e after hlog s' w' seen hdeed hbegins).answered relay answer replies,
          fun s' w' seen hdeed => absurd hdeed nofun⟩ }

/-! ## Section 3: Where the loop comes from

The loop has a start in the log: the step that put it on the agenda, with the deadline that it
reckoned. -/

namespace Agenda

theorem any_drains_telling (lines : List String) : (telling lines).any Task.drains = false := by
  induction lines with
  | nil => rfl
  | cons line lines ih => exact ih

omit [Sink σ] in
/-- The loop goes on, or it begins. -/
theorem Next.drains {s : Supervisor} {w : Worker σ} {seen : Observation} {before after : List Task}
    (h : Next s w seen before after) (hafter : after.any Task.drains = true) :
    before.any Task.drains = true ∨ ∃ outcome, before = [.drain outcome] := by
  cases h with
  | drain deadline outcome => exact .inr ⟨outcome, rfl⟩
  | drainOn | drained | takeLate | takeLater | takeLast | narrateLate => exact .inl rfl
  | take | narrate | repeated | leaveOpen | tellAnswer | detect | opened | showPrompt | answer =>
    cases (any_drains_telling _).symm.trans hafter
  | _ => cases hafter

end Agenda

/-- The output that is left is taken by a run that has begun to take it. -/
theorem lasting_begun (tuning : Tuning) :
    Lasting (σ := σ) tuning fun _ w log =>
      (w.agenda.any Task.drains = true → ∃ e ∈ log, e.does Task.beginsDrain = true) ∧
      ∀ before e after, log = before ++ e :: after → ∀ s w seen, e = .worked s w seen →
        (Deed.worked s w seen).does Task.drains = true →
          ∃ earlier ∈ before, earlier.does Task.beginsDrain = true := by
  -- the loop begins before anything of it stands on the agenda
  have hbegun : Lasting (σ := σ) tuning fun _ w log =>
      w.agenda.any Task.drains = true → ∃ e ∈ log, e.does Task.beginsDrain = true :=
    .ofLog
      { begins := fun w hfresh hdrains => by
          rw [hfresh.agenda] at hdrains
          cases hdrains
        works := fun s w log seen ha h hafter => by
          by_cases hover : w.agenda = []
          · rw [Worker.step_over s seen hover, hover] at hafter
            cases hafter
          · have hnext := Worker.next_step s seen ha.phase hover
            -- it was on the agenda before, or this step put it there
            rcases hnext.drains hafter with hbefore | ⟨outcome, hbegins⟩
            · obtain ⟨e, he, hdrain⟩ := h hbefore
              exact ⟨e, List.mem_append_left _ he, hdrain⟩
            · refine ⟨_, List.mem_append_right _ (List.mem_singleton.mpr rfl), ?_⟩
              rw [Deed.does_worked hbegins]
              rfl
        arrives := fun w log arrival h => h
        answers := fun relay w log answer replies _ h hdrains => by
          obtain ⟨e, he, hdrain⟩ := h hdrains
          exact ⟨e, List.mem_append_left _ he, hdrain⟩ }
  -- what a worker does in the loop, it had on its agenda
  refine hbegun.recorded fun s w log seen ha h hdrains => h ?_
  rw [Deed.does, Deed.task?] at hdrains
  cases hagenda : w.agenda with
  | nil =>
    rw [hagenda] at hdrains
    cases hdrains
  | cons task rest =>
    rw [hagenda, List.head?_cons, Option.any_some] at hdrains
    rw [List.any_cons, hdrains, Bool.true_or]

/-! ## Section 4: Both loops of every run

The bounds are about a clock that advances by a step at least from one look to the next.  Without
such an assumption the loops still end at their deadlines, but nothing could be said about the
number of their rounds. -/

namespace Chronicle

/-- How a run takes the output that is left, from the moment at which it begins to.  The deadline is
fixed then and looked at before each poll. -/
structure Expires (start grace : Nat) (after : List (Deed σ)) : Prop where
  /-- The clock is looked at against the end of the grace period. -/
  checks : ∀ later ∈ after, ∀ time outcome, later.task? = some (.drainUntil time outcome) →
    time = start + grace
  /-- No step of the loop comes behind a look that finds the grace period over. -/
  stops : ∀ before later rest, after = before ++ later :: rest →
    (∃ now ∈ later.reading? Task.checksDrain, start + grace ≤ now) →
    ∀ e ∈ rest, e.does Task.drains = false
  /-- Where the clock advances from look to look, there are few polls. -/
  polls_le : ∀ step, 0 < step → Advances step start (readings Task.checksDrain after) →
    after.countP (Deed.does Task.takesLeft) ≤ grace ⌈/⌉ step
  /-- And there are few steps, counted by the lines that are told. -/
  steps_le : ∀ step, 0 < step → Advances step start (readings Task.checksDrain after) →
    after.countP (Deed.does Task.drains) ≤ 2 * (grace ⌈/⌉ step) + (handed after).length + 1

/-- The loops of a run against the clock.  Nothing is promised where the clock stands still, so the
bounds are in terms of how it advances. -/
structure Timely (tuning : Tuning) (w : Worker σ) (log : List (Deed σ)) : Prop where
  /-- When a round begins, each round before it has passed the check of the time. -/
  rounds : ∀ before e after, log = before ++ e :: after → listens e = true →
    before.countP listens = before.countP Deed.passesTime
  /-- A check that finds the time over decides to stop the run, and no step of the loop comes behind
  it. -/
  late : ∀ before e after, log = before ++ e :: after →
    (∃ now ∈ e.reading? Task.checksTime, w.startedAt + w.command.timeout ≤ now) →
    e.decision? = some (.timedOut .execution) ∧ ∀ later ∈ after, later.inLoop = false
  /-- Where the clock advances from check to check, there are few rounds. -/
  rounds_le : ∀ step, 0 < step → Advances step w.startedAt (readings Task.checksTime log) →
    log.countP listens ≤ w.command.timeout ⌈/⌉ step + 1
  /-- A round takes few steps, counted by the lines that it tells. -/
  steps_le : log.countP Deed.inLoop ≤ 9 * log.countP listens + 5 * (handed log).length + 1
  /-- So the loop is left by a run that has done more than these rounds can have. -/
  leaves : ∀ step, 0 < step → Advances step w.startedAt (readings Task.checksTime log) →
    9 * (w.command.timeout ⌈/⌉ step + 1) + 5 * (handed log).length + 1 <
      log.countP (fun e => e.task?.isSome) → ¬Undecided w.agenda
  /-- The output that is left is taken by a run that has begun to. -/
  begun : ∀ before e after, log = before ++ e :: after → e.does Task.drains = true →
    ∃ earlier ∈ before, earlier.does Task.beginsDrain = true
  /-- From then on, it is taken until the grace period is over at the latest. -/
  drained : ∀ before e after, log = before ++ e :: after →
    ∀ now ∈ e.reading? Task.beginsDrain, Expires now tuning.gracePeriod after

omit [Sink σ] in
/-- The bounds in terms of the clock: a clock that advances by `step` lets no more looks in than fit
into the grace period. -/
theorem expires_of_draining {start grace : Nat} {w : Worker σ} {after : List (Deed σ)}
    (h : Draining (start + grace) w after) : Expires start grace after := by
  obtain ⟨steps, polls, -, hsteps, hpolls⟩ := h.goesOn
  constructor
  case checks => exact h.checks
  case stops => exact fun before later rest hcut hlate => (h.stops before later rest hcut hlate).2
  case polls_le =>
    -- each pass but the last saw the clock before the deadline
    intro step hstep hclock
    exact Nat.le_trans (Nat.le_of_add_right_le hpolls) (hclock.countP_le hstep grace)
  case steps_le =>
    intro step hstep hclock
    have hearly : early Task.checksDrain (start + grace) after ≤ grace ⌈/⌉ step :=
      hclock.countP_le hstep grace
    omega

/-- **Both loops of every run end in time**, whatever its process does and whoever answers or
interrupts.  The bounds count rounds and polls by the readings of the clock, of which only is asked
that they go on by some step. -/
theorem timely_after (tuning : Tuning) (actions : List (Crew.Action σ)) :
    (after tuning actions).Every fun _ w log => Timely tuning w log := by
  intro t w hstage
  obtain ⟨⟨-, hrounds⟩, hleft⟩ := lasting_after (lasting_left (σ := σ) tuning) actions t w hstage
  have hsame := lasting_after (lasting_oneWorker (σ := σ) tuning) actions t w hstage
  have hbegun := (lasting_after (lasting_begun (σ := σ) tuning) actions t w hstage).2
  have hdraining := lasting_after (lasting_draining (σ := σ) tuning) actions t w hstage
  -- from here on the log is any log with these invariants
  generalize (after tuning actions).log t = log at *
  constructor
  case rounds =>
    intro before e after hlog hlistens
    cases e with
    -- only the listening of a worker begins a round
    | answered => cases hlistens
    | worked s w' seen => exact (hleft before _ after hlog s w' seen rfl).2.1 hlistens
  case late =>
    rintro before e after hlog ⟨now, hnow, hlate⟩
    obtain ⟨s, w', seen, task, rfl, hhead, htask, rfl⟩ := Deed.reading?_eq_some hnow
    obtain rfl : task = .checkTime := eq_of_beq htask
    -- the clock is read for the deadline of the worker that logs it
    have hw := hsame s w' seen (hlog ▸ List.mem_append_right _ List.mem_cons_self)
    rw [← hw.startedAt, ← hw.command] at hlate
    have hdecision := (hleft before _ after hlog s w' seen rfl).2.2 hhead hlate
    -- decided, so no later step is in the loop
    refine ⟨hdecision, not_inLoop_of_decided ?_ hlog hdecision⟩
    intro before e after hlog hloop
    cases e with
    | answered => cases hloop
    | worked s w' seen => exact (hleft before _ after hlog s w' seen rfl).1 hloop
  case rounds_le => exact fun step hstep hclock => hrounds.countP_listens_le hsame hstep hclock
  case steps_le => exact hrounds.steps_le
  case leaves =>
    intro step hstep hclock
    exact hrounds.not_undecided (hrounds.countP_listens_le hsame hstep hclock)
  case begun =>
    intro before e after hlog hdrains
    cases e with
    | answered => cases hdrains
    | worked s w' seen => exact hbegun before _ after hlog s w' seen rfl hdrains
  case drained =>
    intro before e after hlog now hnow
    obtain ⟨s, w', seen, task, rfl, hhead, htask, rfl⟩ := Deed.reading?_eq_some hnow
    -- every such reading began the loop in which it stands
    have hbegins : (Deed.worked s w' seen).does Task.beginsDrain = true := by
      rw [Deed.does, Deed.task?, hhead, Option.any_some, htask]
    exact expires_of_draining (hdraining before _ after hlog s w' seen rfl hbegins)

/-- A command that has a tenth of a second. -/
def slowCommand : Command := { Command.new "sh" ["ask.sh"] with timeout := 100 }

/-- The process of a slow command asks and ends, and nobody answers.  Its output goes on to come,
and every look at the clock takes long. -/
def slowRun : List (Crew.Action Observer) :=
  let steps (count now : Nat) : List (Crew.Action Observer) :=
    List.replicate count (.work 0 ⟨now, .exited 0, ⟨[], none⟩⟩)
  [.reserve slowCommand (.ofSinks []), .announce 0 7 0, .attach 0,
      .arrive 0 (.bytes "Backup? [y/n]\n".toUTF8.toList)] ++
    steps 13 0 ++ steps 8 40 ++ steps 8 80 ++ steps 8 120 ++
    [.arrive 0 (.bytes "one\n".toUTF8.toList)] ++ steps 3 120 ++
    [.arrive 0 (.bytes "two\n".toUTF8.toList)] ++ steps 3 1620 ++ steps 5 3120

/-- Whether the run of a slow command is over. -/
def hasRunSlowly (h : Chronicle σ) (t : Nat) : Bool :=
  match h.crew.stages t with
  | some (.working w true) => w.command.timeout == 100 && w.startedAt == 0 && w.isDone
  | _ => false

/-- Both loops go on for as long as they may, at a clock that advances by 40 in the first one and by
1500 in the second. -/
theorem exists_timely_slowRun : ∃ w,
    (after .standard slowRun).crew.stages 0 = some (.working w true) ∧ w.isDone = true ∧
      Advances 40 w.startedAt (readings Task.checksTime ((after .standard slowRun).log 0)) ∧
      ((after .standard slowRun).log 0).countP listens = w.command.timeout ⌈/⌉ 40 + 1 ∧
      Advances 1500 120 (readings Task.checksDrain ((after .standard slowRun).log 0)) ∧
      ((after .standard slowRun).log 0).countP (Deed.does Task.takesLeft) =
        Tuning.standard.gracePeriod ⌈/⌉ 1500 ∧
      Timely .standard w ((after .standard slowRun).log 0) := by
  -- the run is short enough to be computed
  have hrun : (after .standard slowRun).hasRunSlowly 0 = true := by decide +kernel
  have htime : readings Task.checksTime ((after .standard slowRun).log 0) = [0, 40, 80, 120] := by
    decide +kernel
  have hdrain :
      readings Task.checksDrain ((after .standard slowRun).log 0) = [120, 1620, 3120] := by
    decide +kernel
  simp only [hasRunSlowly] at hrun
  split at hrun
  · next w hstage =>
    simp only [Bool.and_eq_true, beq_iff_eq] at hrun
    obtain ⟨⟨htimeout, hstart⟩, hdone⟩ := hrun
    refine ⟨w, hstage, hdone, ?_, ?_, ?_, by decide +kernel,
      timely_after .standard slowRun 0 w hstage⟩
    · rw [htime, hstart]
      exact ⟨by simp, by simp⟩
    · rw [htimeout]
      decide +kernel
    · rw [hdrain]
      exact ⟨by simp, by simp⟩
  · exact absurd hrun nofun

end Chronicle

end Overseer
