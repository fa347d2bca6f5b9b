import Mathlib.Algebra.Order.Floor.Div
import Mathlib.GroupTheory.GroupAction.Ring
import Overseer.Proofs.Supervisor.Verdict

/-!
# The Rounds of a Loop

Nothing in the loop of a run gets smaller from round to round: its process may write for ever, and
a prompt may wait.  What ends the loop is the clock, which every round reads once when it checks the
time.  Where the clock advances from check to check, this bounds the rounds; and a round takes a
number of steps that its lines bound.

- `Advances.countP_le`: how many readings of a clock come before a time
- `Agenda.Next.round`: one step of the loop
- `Rounds.countP_listens_le`: how many rounds there are at most
- `Rounds.not_undecided`: a worker that works for long enough has left its loop
- `lasting_left`: a run that leaves its loop never comes back
-/

namespace Overseer

open Agenda

variable {σ : Type} [Sink σ] {tuning : Tuning}

/-! ## Section 1: A clock that advances

A clock that advances by a step at least can show only so many different times before a deadline.
This is the only place where something is assumed about a clock. -/

/-- Readings of a clock that begin at some moment or later, each of them later than the one before
by a step at least.  So only so many of them fit below a limit. -/
structure Advances (step start : Nat) (readings : List Nat) : Prop where
  start_le : ∀ now ∈ readings.head?, start ≤ now
  isChain : readings.IsChain fun now later => now + step ≤ later

theorem Advances.tail {step start now : Nat} {later : List Nat}
    (h : Advances step start (now :: later)) : Advances step (now + step) later := by
  cases later with
  | nil => exact ⟨nofun, .nil⟩
  | cons next later =>
    obtain ⟨hnext, hchain⟩ := List.isChain_cons_cons.mp h.isChain
    exact ⟨fun first hfirst => Option.some.inj hfirst ▸ hnext, hchain⟩

theorem Advances.countP_mul_le {step start limit : Nat} {readings : List Nat}
    (h : Advances step start readings) :
    readings.countP (· < limit) * step ≤ limit - start + (step - 1) := by
  induction readings generalizing start with
  | nil =>
    rw [List.countP_nil, Nat.zero_mul]
    exact Nat.zero_le _
  | cons now later ih =>
    have hstart := h.start_le now rfl
    have hlater := ih h.tail
    rw [List.countP_cons]
    generalize later.countP (· < limit) = count at hlater
    by_cases hnow : now < limit
    · rw [decide_eq_true hnow, if_pos rfl, Nat.add_mul, Nat.one_mul]
      -- where this is the last reading in time, no other one is counted
      by_cases hlast : now + step < limit
      · omega
      · have hnone : count * step = 0 := by
          rcases Nat.eq_zero_or_pos count with hzero | hpos
          · rw [hzero, Nat.zero_mul]
          · have := Nat.le_mul_of_pos_left step hpos
            omega
        omega
    · rw [decide_eq_false hnow, if_neg Bool.false_ne_true, Nat.add_zero]
      omega

/-- **How many readings come before a time**: no more than there are steps until then.  The
induction is on the readings, and each moves the start of those behind it. -/
theorem Advances.countP_le {step start : Nat} {readings : List Nat}
    (h : Advances step start readings) (hstep : 0 < step) (time : Nat) :
    readings.countP (· < start + time) ≤ time ⌈/⌉ step := by
  have hcount : readings.countP (· < start + time) * step ≤ start + time - start + (step - 1) :=
    h.countP_mul_le
  rw [Nat.ceilDiv_eq_add_pred_div, Nat.le_div_iff_mul_le hstep]
  omega

/-! ## Section 2: Rounds and their steps

A round begins with listening and passes one check of the time.  Its steps are as many as its lines,
and a few for each of them, since a line may be a prompt. -/

namespace Deed

/-- What the clock shows when the worker does a task of some kind. -/
def reading? (kind : Task → Bool) : Deed σ → Option Nat
  | .worked _ w seen => if w.agenda.head?.any kind then some seen.now else none
  | .answered .. => none

omit [Sink σ] in
theorem reading?_eq_some {kind : Task → Bool} {e : Deed σ} {now : Nat}
    (h : e.reading? kind = some now) : ∃ s w seen task, e = .worked s w seen ∧
      w.agenda.head? = some task ∧ kind task = true ∧ seen.now = now := by
  cases e with
  | answered => cases h
  | worked s w seen =>
    obtain ⟨hkind, hnow⟩ := Option.ite_none_right_eq_some.mp h
    obtain ⟨task, hhead, htask⟩ := (Option.any_eq_true _ _).mp hkind
    exact ⟨s, w, seen, task, rfl, hhead, htask, Option.some.inj hnow⟩

/-- The check of the time finds that the run may go on. -/
def passesTime : Deed σ → Bool
  | .worked _ w seen =>
    w.agenda.head? == some .checkTime && seen.now < w.startedAt + w.command.timeout
  | .answered .. => false

end Deed

/-- Whether a task is the check of the time. -/
def Task.checksTime (task : Task) : Bool := task == .checkTime

/-- What the clock shows whenever the worker does a task of some kind. -/
def Chronicle.readings (kind : Task → Bool) (log : List (Deed σ)) : List Nat :=
  log.filterMap (Deed.reading? kind)

namespace Task

/-- Tasks that lead to a check of the time in this round, or are one. -/
def owesCheck : Task → Bool
  | .checkTime | .poll _ => true
  | _ => false

/-- How many steps of its round a task takes at most, with those that it leads to.  The lines that a
poll finds are not counted. -/
def roundSteps : Task → Nat
  | .listen => 0
  | .poll _ => 8
  | task => task.steps

end Task

namespace Agenda

/-- How many checks of the time the round is still to make. -/
def checksOwed (agenda : List Task) : Nat := (agenda.map fun task => task.owesCheck.toNat).sum

/-- How many steps the round is still to take at most. -/
def stepsOwed (agenda : List Task) : Nat := (agenda.map Task.roundSteps).sum

@[simp] theorem checksOwed_cons (task : Task) (rest : List Task) :
    checksOwed (task :: rest) = task.owesCheck.toNat + checksOwed rest := by
  rw [checksOwed, List.map_cons, List.sum_cons, checksOwed]

@[simp] theorem stepsOwed_cons (task : Task) (rest : List Task) :
    stepsOwed (task :: rest) = task.roundSteps + stepsOwed rest := by
  rw [stepsOwed, List.map_cons, List.sum_cons, stepsOwed]

@[simp] theorem checksOwed_telling (lines : List String) : checksOwed (telling lines) = 1 := by
  induction lines with
  | nil => rfl
  | cons line lines ih =>
    rw [telling_cons, checksOwed_cons, ih]
    rfl

@[simp] theorem stepsOwed_telling (lines : List String) :
    stepsOwed (telling lines) = 5 * lines.length + 6 := by
  induction lines with
  | nil => rfl
  | cons line lines ih =>
    rw [telling_cons, stepsOwed_cons, ih, List.length_cons]
    simp only [Task.roundSteps, Task.steps]
    omega

theorem Undecided.checksOwed_le {agenda : List Task} (h : Undecided agenda) :
    checksOwed agenda ≤ 1 := by
  cases h with
  | telling lines | finding text lines | showing text lines | answering lines | noting lines =>
    simp [Task.owesCheck]
  | _ => exact Nat.le_of_ble_eq_true rfl

/-- Nothing is left of a round when the next one begins. -/
theorem Undecided.behind_listen {rest : List Task} (h : Undecided (.listen :: rest)) :
    rest = [] := by
  generalize hagenda : Task.listen :: rest = agenda at h
  cases h with
  | listening =>
    cases hagenda
    rfl
  | telling lines => cases lines <;> cases hagenda
  | _ => cases hagenda

/-- Whether a round begins. -/
def listens (agenda : List Task) : Bool := agenda.head? == some .listen

/-- What one step does to the round that is going on. -/
structure Round (s : Supervisor) (w : Worker σ) (seen : Observation) (before after : List Task) :
    Prop where
  /-- A round that begins owes a check, and a check that is passed is owed no more. -/
  checks : Undecided after →
    checksOwed after + (Deed.worked s w seen).passesTime.toNat =
      checksOwed before + (listens before).toNat
  steps : Undecided after →
    stepsOwed after + 1 ≤
      stepsOwed before + 9 * (listens before).toNat + 5 * (w.handed s.tuning).length
  /-- A step out of the loop begins no round and passes no check. -/
  leaves : ¬Undecided after → listens before = false ∧
    (Deed.worked s w seen).passesTime = false ∧ 1 ≤ stepsOwed before

section Round

variable {s : Supervisor} {w : Worker σ} {seen : Observation} {before after : List Task}

omit [Sink σ] in
/-- A task inside of the round. -/
theorem Round.inside (hafter : Undecided after) (hlistens : listens before = false)
    (hpasses : (Deed.worked s w seen).passesTime = false)
    (hchecks : checksOwed after = checksOwed before)
    (hsteps : stepsOwed after + 1 ≤ stepsOwed before) : Round s w seen before after where
  checks _ := by rw [hlistens, hpasses, hchecks]
  steps _ := by
    rw [hlistens]
    exact Nat.le_add_right_of_le hsteps
  leaves hleft := absurd hafter hleft

omit [Sink σ] in
/-- A step out of the loop. -/
theorem Round.out (hafter : outcome? after ≠ none) (hlistens : listens before = false)
    (hpasses : (Deed.worked s w seen).passesTime = false) (hsteps : 1 ≤ stepsOwed before) :
    Round s w seen before after where
  checks hstays := absurd hstays.outcome?_eq hafter
  steps hstays := absurd hstays.outcome?_eq hafter
  leaves _ := ⟨hlistens, hpasses, hsteps⟩

omit [Sink σ] in
/-- **One step of the loop.** -/
theorem Next.round (h : Next s w seen before after) (hbefore : w.agenda = before)
    (hundecided : Undecided before) : Round s w seen before after := by
  have hnone := hundecided.outcome?_eq
  have hpasses : (Deed.worked s w seen).passesTime =
      (before.head? == some .checkTime && seen.now < w.startedAt + w.command.timeout) := by
    rw [← hbefore]
    rfl
  cases h with
  | start => exact .inside .listening rfl hpasses (by decide) (by decide)
  | listen moment =>
    refine ⟨fun _ => ?_, fun _ => Nat.le_add_right _ _, absurd (.polling moment)⟩
    rw [hpasses]
    rfl
  | take deadline =>
    refine ⟨fun _ => ?_, fun _ => ?_, absurd (.telling _)⟩
    · rw [hpasses, checksOwed_telling]
      rfl
    · simp only [Worker.handed, hbefore, stepsOwed_telling, stepsOwed_cons, Task.roundSteps]
      omega
  | takeNothing deadline moment => exact .inside (.pausing moment) rfl hpasses rfl (Nat.le_refl _)
  | pause deadline => exact .inside (.telling []) rfl hpasses rfl (Nat.le_refl _)
  -- lines and prompts
  | narrate line lines | repeated text lines | leaveOpen lines | tellAnswer lines =>
    refine .inside (.telling lines) rfl hpasses (by simp [Task.owesCheck]) ?_
    simp only [stepsOwed_cons, stepsOwed_telling, List.length_cons, Task.roundSteps, Task.steps]
    omega
  | detect line lines prompt =>
    refine .inside (.finding _ lines) rfl hpasses (by simp [Task.owesCheck]) ?_
    simp only [stepsOwed_cons, stepsOwed_telling, List.length_cons, Task.roundSteps, Task.steps]
    omega
  | opened text lines relay =>
    refine .inside (.showing text lines) rfl hpasses (by simp [Task.owesCheck]) ?_
    simp only [stepsOwed_cons, stepsOwed_telling, Task.roundSteps, Task.steps]
    omega
  | unrepresentable text lines =>
    refine .out (Option.some_ne_none _) rfl hpasses ?_
    simp only [stepsOwed_cons, stepsOwed_telling, Task.roundSteps, Task.steps]
    omega
  | showPrompt text lines =>
    refine .inside (.answering lines) rfl hpasses (by simp [Task.owesCheck]) ?_
    simp only [stepsOwed_cons, stepsOwed_telling, Task.roundSteps, Task.steps]
    omega
  | answer lines =>
    refine .inside (.noting lines) rfl hpasses (by simp [Task.owesCheck]) ?_
    simp only [stepsOwed_cons, stepsOwed_telling, Task.roundSteps, Task.steps]
    omega
  -- the checks
  | flush => exact .inside .checkingStop rfl hpasses rfl (Nat.le_refl _)
  | notAsked => exact .inside .checkingPrompt rfl hpasses rfl (Nat.le_refl _)
  | notExpired => exact .inside .checkingTime rfl hpasses rfl (Nat.le_refl _)
  | inTime hearly =>
    have hpasses : (Deed.worked s w seen).passesTime = true := hpasses.trans (decide_eq_true hearly)
    refine ⟨fun _ => ?_, fun _ => Nat.le_add_right _ _, absurd .checkingChild⟩
    rw [hpasses]
    rfl
  | tooLate hlate =>
    have hpasses : (Deed.worked s w seen).passesTime = false :=
      hpasses.trans (decide_eq_false (Nat.not_lt.mpr hlate))
    exact .out (Option.some_ne_none _) rfl hpasses (by decide)
  | polled => exact .inside .checkingEnd rfl hpasses rfl (Nat.le_refl _)
  | goOn => exact .inside .listening rfl hpasses rfl (Nat.le_refl _)
  | asked | expired | lost | completed =>
    exact .out (Option.some_ne_none _) rfl hpasses (by decide)
  -- everything else is done behind the loop
  | drainOn | drained | narrateLate => cases (outcome?_tellingLate _ _ _).symm.trans hnone
  | _ => cases hnone

end Round

end Agenda

/-! ## Section 3: How many rounds there are

Rounds are counted by the checks of the time that they have passed: each round but the last one has
passed its own. -/

namespace Chronicle

omit [Sink σ] in
theorem countP_concat (p : Deed σ → Bool) (log : List (Deed σ)) (e : Deed σ) :
    (log ++ [e]).countP p = log.countP p + (p e).toNat := by
  rw [List.countP_append, List.countP_singleton]
  cases p e <;> rfl

end Chronicle

/-- The rounds of a run, counted by the checks of the time that they have passed, and their
steps. -/
structure Rounds (w : Worker σ) (log : List (Deed σ)) : Prop where
  /-- Each round but the one that is going on has passed its check. -/
  checks : Undecided w.agenda →
    log.countP Chronicle.listens = log.countP Deed.passesTime + checksOwed w.agenda
  checks_le : log.countP Chronicle.listens ≤ log.countP Deed.passesTime + 1
  steps : Undecided w.agenda → log.countP Deed.inLoop + stepsOwed w.agenda ≤
    9 * log.countP Chronicle.listens + 5 * (Chronicle.handed log).length + 1
  steps_le : log.countP Deed.inLoop ≤
    9 * log.countP Chronicle.listens + 5 * (Chronicle.handed log).length + 1
  /-- A worker in its loop has done nothing else. -/
  inside : Undecided w.agenda → ∀ e ∈ log, e.task?.isSome = true → e.inLoop = true

namespace Rounds

variable {s : Supervisor} {w : Worker σ} {log : List (Deed σ)}

omit [Sink σ] in
theorem listens_worked (s : Supervisor) (w : Worker σ) (seen : Observation) :
    Chronicle.listens (.worked s w seen) = Agenda.listens w.agenda := rfl

theorem step_undecided (h : Rounds w log) (seen : Observation) (ha : Attending tuning s w)
    (hundecided : Undecided w.agenda) :
    Rounds (w.step s seen).worker (log ++ [.worked s w seen]) := by
  have hround := (Worker.next_step s seen ha.phase hundecided.ne_nil).round rfl hundecided
  have hchecks := h.checks hundecided
  have hsteps := h.steps hundecided
  have hloop : (Deed.worked s w seen).inLoop = true := (Worker.inLoop_iff ha.phase).mpr hundecided
  have hhanded := Chronicle.length_handed_worked log s w seen
  constructor
  case inside =>
    exact fun _ => Chronicle.forall_mem_concat.mpr ⟨h.inside hundecided, fun _ => hloop⟩
  all_goals simp only [Chronicle.countP_concat, listens_worked, hloop, hhanded, Bool.toNat_true]
  case checks =>
    intro hafter
    have := hround.checks hafter
    omega
  -- a step that leaves the loop begins no round, so the bounds are kept although nothing is owed
  case checks_le =>
    by_cases hafter : Undecided (w.step s seen).worker.agenda
    · have := hround.checks hafter
      have := hafter.checksOwed_le
      omega
    · obtain ⟨hlistens, hpasses, -⟩ := hround.leaves hafter
      have := hundecided.checksOwed_le
      rw [hlistens, hpasses, Bool.toNat_false]
      omega
  case steps =>
    intro hafter
    have := hround.steps hafter
    omega
  case steps_le =>
    by_cases hafter : Undecided (w.step s seen).worker.agenda
    · have := hround.steps hafter
      omega
    · obtain ⟨hlistens, -, hpos⟩ := hround.leaves hafter
      rw [hlistens, Bool.toNat_false]
      omega

/-- Behind the loop a step begins no round and passes no check. -/
theorem step_decided (h : Rounds w log) (seen : Observation) (ha : Attending tuning s w)
    (hdecided : ¬Undecided w.agenda) :
    Rounds (w.step s seen).worker (log ++ [.worked s w seen]) := by
  have hafter : ¬Undecided (w.step s seen).worker.agenda :=
    mt (Worker.undecided_of_step ha.phase) hdecided
  -- a task of the loop in front would mean that nothing was decided yet
  have hnot : ∀ task, task.loops = true → (w.agenda.head? == some task) = false := by
    intro task htask
    rw [beq_eq_false_iff_ne]
    exact fun hhead => hdecided (Worker.undecided_of_head ha.phase hhead htask)
  have hlistens : Agenda.listens w.agenda = false := hnot .listen rfl
  have hpasses : (Deed.worked s w seen).passesTime = false := by
    rw [Deed.passesTime, hnot .checkTime rfl, Bool.false_and]
  have hloop : (Deed.worked s w seen).inLoop = false :=
    Bool.eq_false_iff.mpr (mt (Worker.inLoop_iff ha.phase).mp hdecided)
  have hchecks := h.checks_le
  have hsteps := h.steps_le
  -- the three parts about a run in its loop say nothing here
  refine ⟨fun hstays => absurd hstays hafter, ?_, fun hstays => absurd hstays hafter, ?_,
    fun hstays => absurd hstays hafter⟩
  · simp only [Chronicle.countP_concat, listens_worked, hlistens, hpasses, Bool.toNat_false]
    exact hchecks
  · simp only [Chronicle.countP_concat, listens_worked, hlistens, hloop, Bool.toNat_false,
      Chronicle.length_handed_worked]
    omega

end Rounds

/-- **Every round passes the check of the time** before the next one begins.  What a round still
owes is part of the invariant, so that one step can be looked at by itself. -/
theorem lasting_rounds (tuning : Tuning) : Lasting (σ := σ) tuning fun _ w log => Rounds w log :=
  .ofLog
    { begins := fun w hfresh => by
        constructor
        -- the first step of a worker is the one in front of all rounds
        · intro _
          rw [hfresh.agenda]
          rfl
        · exact Nat.zero_le 1
        · intro _
          rw [hfresh.agenda]
          exact Nat.le_refl 1
        · exact Nat.zero_le 1
        · exact fun _ e he => absurd he List.not_mem_nil
      works := fun s w log seen ha h => by
        by_cases hundecided : Undecided w.agenda
        · exact h.step_undecided seen ha hundecided
        · exact h.step_decided seen ha hundecided
      arrives := fun w log arrival h => ⟨h.checks, h.checks_le, h.steps, h.steps_le, h.inside⟩
      answers := fun relay w log answer replies _ h => by
        have hhanded : Chronicle.handed (log ++ [.answered relay answer replies]) =
            Chronicle.handed log := by
          rw [Chronicle.handed_concat]
          exact List.append_nil _
        constructor
        case inside =>
          exact fun hundecided => Chronicle.forall_mem_concat.mpr ⟨h.inside hundecided, nofun⟩
        all_goals simp only [Chronicle.countP_concat, hhanded]
        · exact h.checks
        · exact h.checks_le
        · exact h.steps
        · exact h.steps_le }

omit [Sink σ] in
/-- The checks that are passed are those at which the clock shows a time before the end. -/
theorem Chronicle.countP_passesTime {w : Worker σ} {log : List (Deed σ)} (h : OneWorker w log) :
    log.countP Deed.passesTime =
      (readings Task.checksTime log).countP (· < w.startedAt + w.command.timeout) := by
  rw [readings, List.countP_filterMap]
  -- the deeds are compared one by one, for the same worker throughout
  refine List.countP_congr fun e he => ?_
  cases e with
  | answered => rfl
  | worked s w' seen =>
    have hsame := h s w' seen he
    rw [Deed.passesTime, hsame.startedAt, hsame.command, Deed.reading?]
    cases w'.agenda.head? with
    | none => simp
    | some task => cases hchecks : task == .checkTime <;> simp [Task.checksTime, hchecks]

omit [Sink σ] in
/-- **How many rounds there are** where the clock advances from check to check.  Each round but the
last has read the clock before the limit. -/
theorem Rounds.countP_listens_le {w : Worker σ} {log : List (Deed σ)} (h : Rounds w log)
    (hsame : Chronicle.OneWorker w log) {step : Nat} (hstep : 0 < step)
    (hclock : Advances step w.startedAt (Chronicle.readings Task.checksTime log)) :
    log.countP Chronicle.listens ≤ w.command.timeout ⌈/⌉ step + 1 := by
  have hpassed := hclock.countP_le hstep w.command.timeout
  rw [← Chronicle.countP_passesTime hsame] at hpassed
  exact Nat.le_trans h.checks_le (Nat.add_le_add_right hpassed 1)

omit [Sink σ] in
/-- **The loop is left**: a worker that has done more than its rounds can have is behind it. -/
theorem Rounds.not_undecided {w : Worker σ} {log : List (Deed σ)} (h : Rounds w log) {rounds : Nat}
    (hrounds : log.countP Chronicle.listens ≤ rounds)
    (hlong : 9 * rounds + 5 * (Chronicle.handed log).length + 1 <
      log.countP fun e => e.task?.isSome) : ¬Undecided w.agenda := by
  intro hundecided
  -- inside of the loop all steps count, and they are too many
  have hinside := List.countP_mono_left (h.inside hundecided)
  have hsteps := h.steps_le
  omega

/-! ## Section 4: Out of the loop

A check that comes too late decides, and what was decided stays so.  A worker behind its loop may
still have steps to do, but no rounds. -/

/-- A check that finds the time over decides to stop the run. -/
theorem Worker.decision?_of_late {s : Supervisor} {w : Worker σ} {seen : Observation}
    (hphase : Phase w.agenda) (hhead : w.agenda.head? = some .checkTime)
    (hlate : w.startedAt + w.command.timeout ≤ seen.now) :
    (Deed.worked s w seen).decision? = some (.timedOut .execution) := by
  have hnone : w.verdict? = none := (undecided_of_head hphase hhead rfl).outcome?_eq
  rw [Deed.decision?, if_pos hnone]
  obtain ⟨rest, hagenda⟩ := List.head?_eq_some_iff.mp hhead
  rw [step_cons hagenda]
  simp only [perform, hlate, if_true]
  rfl

/-- Where a step of the loop has no decision before it, none comes behind a decision. -/
theorem Chronicle.not_inLoop_of_decided {log : List (Deed σ)}
    (hleft : ∀ before e after, log = before ++ e :: after → e.inLoop = true → decisions before = [])
    {before after : List (Deed σ)} {e : Deed σ} {outcome : Outcome}
    (hlog : log = before ++ e :: after) (hdecision : e.decision? = some outcome) :
    ∀ later ∈ after, later.inLoop = false := by
  intro later hlater
  -- a later step in the loop would have the decision in front of it
  rw [Bool.eq_false_iff]
  intro hloop
  obtain ⟨between, rest, rfl⟩ := List.append_of_mem hlater
  rw [← List.cons_append, ← List.append_assoc] at hlog
  have hnone := List.filterMap_eq_nil_iff.mp (hleft _ later rest hlog hloop) e
    (List.mem_append_right _ List.mem_cons_self)
  cases hdecision.symm.trans hnone

/-- **A run that leaves its loop never comes back**: whatever it does in its loop, it has decided on
nothing before.  And each round begins with all checks of the rounds before behind it. -/
theorem lasting_left (tuning : Tuning) :
    Lasting (σ := σ) tuning fun _ w log =>
      (Decisions w log ∧ Rounds w log) ∧
      ∀ before e after, log = before ++ e :: after → ∀ s w seen, e = .worked s w seen →
        ((Deed.worked s w seen).inLoop = true → Chronicle.decisions before = []) ∧
        (Chronicle.listens (Deed.worked s w seen) = true →
          before.countP Chronicle.listens = before.countP Deed.passesTime) ∧
        (w.agenda.head? = some .checkTime → w.startedAt + w.command.timeout ≤ seen.now →
          (Deed.worked s w seen).decision? = some (.timedOut .execution)) := by
  refine ((lasting_decisions tuning).and (lasting_rounds tuning)).recorded
    fun s w log seen ha ⟨hdecisions, hrounds⟩ => ⟨?_, ?_, ?_⟩
  · -- in the loop nothing has been decided, so nothing was before
    exact fun hloop => hdecisions.undecided ((Worker.inLoop_iff ha.phase).mp hloop)
  · -- at the start of a round no check of the rounds before is left to do
    intro hlistens
    have hhead : w.agenda.head? = some .listen := eq_of_beq hlistens
    obtain ⟨rest, hagenda⟩ := List.head?_eq_some_iff.mp hhead
    have hundecided := Worker.undecided_of_head ha.phase hhead rfl
    have hchecks := hrounds.checks hundecided
    rw [hagenda] at hundecided hchecks
    rw [hundecided.behind_listen] at hchecks
    exact hchecks
  · -- a check that comes too late decides for the timeout
    exact Worker.decision?_of_late ha.phase

end Overseer
