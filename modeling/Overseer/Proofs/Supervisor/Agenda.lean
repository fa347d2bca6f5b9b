import Overseer.Proofs.Supervisor.Narration

/-!
# The Shape of an Agenda

A worker that has not freed the supervisor has some ordinary tasks before it and then either one
task that decides what comes next or the settling of the outcome.  A worker that has freed the
supervisor has at most the telling of the outcome before it.

- `Agenda.Live`, `Agenda.Settled`: the two shapes
- `Worker.live_step`: what a step does to the first shape
- `Worker.settled_step`: what a step does to the second
- `Worker.settled_of_finished`: `finished` is published by settled workers only
-/

namespace Overseer

/-! ## Section 1: Shapes

The agenda is a list of tasks, and only a few lists ever come up.  The two shapes are as coarse as
possible: they say whether the run still occupies the supervisor, and no more. -/

namespace Task

/-- Tasks that leave the rest of the agenda to come, unless they stop the run. -/
def isPlain : Task → Bool
  | .start | .pause _ | .narrate _ | .narrateLate _ | .openWait _ | .showPrompt _ | .autoAnswer
  | .flush | .checkStop | .checkPrompt | .checkTime | .checkChild | .detach => true
  | _ => false

/-- Tasks that decide what comes next. -/
def leads : Task → Bool
  | .listen | .poll _ | .checkEnd | .terminate _ | .awaitEnd .. | .reap _ | .drain _
  | .drainUntil .. | .drainPoll .. => true
  | _ => false

/-- Tasks that follow the settling of the outcome. -/
def isLast : Task → Bool
  | .conclude _ | .collapse _ => true
  | _ => false

end Task

namespace Agenda

/-- The agenda of a worker that has not freed the supervisor.  The task that frees it is still to
come, and it comes once. -/
inductive Live : List Task → Prop where
  | lead {task : Task} : task.leads = true → Live [task]
  | finish (outcome : Outcome) : Live [.settle outcome, .conclude outcome]
  | abort (outcome : Outcome) : Live [.settle outcome, .collapse outcome]
  | plain {task : Task} {rest : List Task} : task.isPlain = true → Live rest → Live (task :: rest)

/-- The agenda of a worker that has freed the supervisor.  At most the last event is still to be
told. -/
inductive Settled : List Task → Prop where
  | conclude (outcome : Outcome) : Settled [.conclude outcome]
  | collapse (outcome : Outcome) : Settled [.collapse outcome]
  | done : Settled []

theorem Live.append {tasks rest : List Task} (hrest : Live rest)
    (htasks : ∀ task ∈ tasks, task.isPlain = true) : Live (tasks ++ rest) := by
  induction tasks with
  | nil => exact hrest
  | cons task tasks ih =>
    obtain ⟨htask, htasks⟩ := List.forall_mem_cons.mp htasks
    exact .plain htask (ih htasks)

theorem live_finishing (outcome : Outcome) : Live (Worker.finishing outcome) :=
  .plain rfl (.plain rfl (.finish outcome))

theorem live_checks : Live Worker.checks :=
  .plain rfl (.plain rfl (.plain rfl (.plain rfl (.plain rfl (.lead rfl)))))

theorem Live.not_all_isLast {agenda : List Task} (h : Live agenda) :
    agenda.all Task.isLast = false := by
  cases h with
  | lead htask => cases ‹Task› <;> first | rfl | exact absurd htask nofun
  | finish outcome => rfl
  | abort outcome => rfl
  | plain htask _ => cases ‹Task› <;> first | rfl | exact absurd htask nofun

theorem Settled.all_isLast {agenda : List Task} (h : Settled agenda) :
    agenda.all Task.isLast = true := by
  cases h <;> rfl

end Agenda

/-! ## Section 2: Steps of a worker

A task that decides what comes next stands at the end of the agenda and replaces itself; an ordinary
task goes, or is replaced by ordinary ones.  So the shape can be followed with one lemma for each of
the two. -/

namespace Worker

open Agenda

variable {σ : Type} [Sink σ] {s : Supervisor} {w : Worker σ} {seen : Observation}

/-- The worker has freed the supervisor. -/
def isSettled (w : Worker σ) : Bool := w.agenda.all Task.isLast

/-- A task that decides what comes next leaves a live agenda. -/
theorem live_perform_lead {task : Task} (htask : task.leads = true) (hw : w.agenda = []) :
    Live (perform s w seen task).worker.agenda := by
  cases task with
  | listen =>
    -- nothing stands behind it, and it puts a whole round on the agenda
    simp only [perform, first, hw]
    exact .lead rfl
  | poll deadline =>
    -- what the poll yields is told in front of the checks of the round
    obtain ⟨reader, tasks, hpoll, htasks⟩ :=
      pollReader_spec s.tuning (w.only checks) (seen.now + s.tuning.pollInterval)
    simp only [perform, hpoll]
    refine live_checks.append fun task htask => ?_
    rcases htasks task htask with rfl | ⟨line, rfl⟩ <;> rfl
  | checkEnd =>
    simp only [perform]
    -- the process runs on, or its end is decided on
    rcases decideEnd_spec s w seen with hend | ⟨code, hend⟩
    · rw [hend]
      exact .lead rfl
    · rw [hend]
      exact live_finishing _
  | terminate outcome =>
    simp only [perform]
    split <;> exact .lead rfl
  | awaitEnd deadline outcome =>
    simp only [perform]
    -- in time or too late, and alive or not: the next task decides again
    split
    · split
      · exact .plain rfl (.lead rfl)
      · exact .lead rfl
    · split <;> exact .lead rfl
  | reap outcome => exact .lead rfl
  | drain outcome => exact .lead rfl
  | drainUntil deadline outcome =>
    simp only [perform]
    -- another quantum, or the end of the run
    split
    · exact .lead rfl
    · exact live_finishing outcome
  | drainPoll deadline quantum outcome =>
    simp only [perform]
    split
    · next lines _ =>
      -- lines came in: they are told, and the next look at the clock is behind them
      refine Live.append (.lead rfl) fun task htask => ?_
      obtain ⟨line, -, rfl⟩ := List.mem_map.mp htask
      rfl
    · exact .lead rfl
    -- the output is at its end, or the quantum or the grace period is
    all_goals exact live_finishing outcome
  | _ => cases htask

/-- An ordinary task leaves a live agenda if the rest of the agenda is live. -/
theorem live_perform_plain {task : Task} (htask : task.isPlain = true) (hw : Live w.agenda) :
    Live (perform s w seen task).worker.agenda := by
  cases task with
  | narrate line =>
    simp only [perform]
    -- the lines that are told late stand in front of what was there
    refine Live.append hw fun task htask => ?_
    obtain ⟨line, -, rfl⟩ := List.mem_map.mp htask
    rfl
  | openWait text =>
    simp only [perform]
    split
    · -- a wait that cannot be opened makes the run collapse
      exact .plain rfl (.abort collapsed)
    · split
      · exact .plain rfl (.plain rfl hw)
      · exact hw
  | autoAnswer =>
    simp only [perform]
    split
    · exact hw
    · exact .plain rfl hw
  | flush =>
    simp only [perform, foldl_tellNotice]
    exact hw
  | checkStop =>
    simp only [perform]
    split
    · exact .lead rfl
    · exact hw
  | checkPrompt =>
    simp only [perform]
    -- a stop, an expired prompt and a timeout end the loop; otherwise the rest is done
    split
    · exact hw
    · exact .lead rfl
  | checkTime =>
    simp only [perform]
    split
    · exact .lead rfl
    · exact hw
  | checkChild =>
    simp only [perform]
    split
    · exact hw
    · split
      · exact hw
      · exact hw
      · exact .lead rfl
  -- these put nothing on the agenda
  | start | pause _ | narrateLate _ | showPrompt _ | detach => exact hw
  | _ => cases htask

/-- **A step of a live worker** touches nothing but the relay and keeps the agenda live, or it
settles the outcome and frees the supervisor. -/
theorem live_step (s : Supervisor) (seen : Observation) (hw : Live w.agenda) :
    ((∃ relay, (step s w seen).shared = { s with relay }) ∧
        Live (step s w seen).worker.agenda) ∨
      ∃ outcome, (step s w seen).shared = s.finish outcome ∧
        Settled (step s w seen).worker.agenda := by
  have hstep : ∀ task rest, w.agenda = task :: rest →
      step s w seen = perform s { w with agenda := rest } seen task := by
    intro task rest h
    rw [step, h]
  -- the shape of the agenda says what kind of task comes first
  generalize hagenda : w.agenda = agenda at hw
  cases hw with
  | lead htask =>
    rw [hstep _ _ hagenda]
    refine .inl ⟨shared_perform _ _ _ _ fun outcome => ?_, live_perform_lead htask rfl⟩
    rintro rfl
    cases htask
  | finish outcome =>
    rw [hstep _ _ hagenda]
    exact .inr ⟨outcome, rfl, .conclude outcome⟩
  | abort outcome =>
    rw [hstep _ _ hagenda]
    exact .inr ⟨outcome, rfl, .collapse outcome⟩
  | plain htask hrest =>
    rw [hstep _ _ hagenda]
    refine .inl ⟨shared_perform _ _ _ _ fun outcome => ?_, live_perform_plain htask hrest⟩
    rintro rfl
    cases htask

/-- **A step of a settled worker** touches nothing that is shared.  So it does not matter to the
next run when the last one tells its outcome. -/
theorem settled_step (s : Supervisor) (seen : Observation) (hw : Settled w.agenda) :
    (step s w seen).shared = s ∧ Settled (step s w seen).worker.agenda := by
  generalize hagenda : w.agenda = agenda at hw
  cases hw with
  | conclude outcome =>
    rw [step, hagenda]
    exact ⟨rfl, .done⟩
  | collapse outcome =>
    rw [step, hagenda]
    exact ⟨rfl, .done⟩
  | done =>
    rw [step, hagenda]
    refine ⟨rfl, ?_⟩
    show Settled w.agenda
    rw [hagenda]
    exact .done

/-! ## Section 3: Who tells the outcome

The outcome is told by the last task, and that one stands behind the settling.  What a caller reads
in the stream of a run can therefore never be ahead of what the supervisor shows. -/

omit [Sink σ] in
theorem eq_conclude_of_finished {task : Task} {outcome : Outcome}
    (h : .finished outcome ∈ narration s w seen task) : task = .conclude outcome := by
  cases task with
  | conclude other =>
    cases List.mem_singleton.mp h
    rfl
  -- a notice never says that the run is finished
  | flush =>
    obtain ⟨notice, -, hnotice⟩ := List.mem_map.mp h
    cases notice <;> cases hnotice
  | start | narrate _ | narrateLate _ | showPrompt _ => cases List.mem_singleton.mp h
  -- the checks only tell about signals and ends of the process
  | checkPrompt | checkTime | checkChild | checkEnd =>
    simp only [narration] at h
    repeat' split at h
    all_goals first
      | exact absurd h List.not_mem_nil
      | cases List.mem_singleton.mp h
  | _ => exact absurd h List.not_mem_nil

omit [Sink σ] in
/-- The outcome is told by workers that have freed the supervisor. -/
theorem settled_of_finished {outcome : Outcome} (hw : Live w.agenda ∨ Settled w.agenda)
    (h : .finished outcome ∈ published s w seen) : Settled w.agenda := by
  refine hw.resolve_left fun hlive => ?_
  simp only [published] at h
  split at h
  · exact absurd h List.not_mem_nil
  · next task rest hagenda =>
    cases eq_conclude_of_finished h
    -- no live agenda begins with telling the outcome
    rw [hagenda] at hlive
    cases hlive with
    | lead htask => cases htask
    | plain htask _ => cases htask

end Worker

end Overseer
