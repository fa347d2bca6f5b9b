import Overseer.Proofs.Supervisor.Account

/-!
# Requests to Stop

A request to stop a run is looked at once in each round of its loop, behind the lines of the round.
If it came before the round began, the check finds it, and it takes the worker a number of steps
that the lines of the round bound.

- `Agenda.stepsToStop`, `Agenda.Next.nearer`: each step comes nearer to the check
- `lasting_alerted`: a request that came before a round stops the run in that round
-/

namespace Overseer

open Agenda
open Worker (collapsed)

variable {σ : Type} [Sink σ] {tuning : Tuning}

/-! ## Section 1: On the way to the check

The measure is the number of steps until the check, if nothing new comes in on the way.  The lines
that the reader hands out are not counted in it, since they come in on the way; a step hands out
lines once in a round. -/

/-- How many steps it takes at most until a task and what it leads to are done.  A line may hold a
prompt, which is opened, told and answered. -/
def Task.steps : Task → Nat
  | .poll _ | .openWait _ => 4
  | .narrate _ => 5
  | .autoAnswer => 2
  | _ => 1

/-- How many steps it takes at most to do the check whether the run was asked to stop, not counting
lines that the reader hands out on the way. -/
def Agenda.stepsToStop : List Task → Option Nat
  | [] => none
  | task :: rest =>
    match task with
    | .checkStop | .poll _ => some task.steps
    | _ => (stepsToStop rest).map (· + task.steps)

namespace Agenda

/-- A task that leaves the rest of the agenda to come adds its steps. -/
theorem stepsToStop_cons {task : Task} {rest : List Task} {n : Nat}
    (htask : stepsToStop (task :: rest) = (stepsToStop rest).map (· + task.steps))
    (h : stepsToStop rest = some n) : stepsToStop (task :: rest) = some (n + task.steps) := by
  rw [htask, h, Option.map_some]

theorem stepsToStop_telling (lines : List String) :
    stepsToStop (telling lines) = some (5 * lines.length + 2) := by
  induction lines with
  | nil => rfl
  | cons line lines ih =>
    rw [telling_cons, stepsToStop_cons rfl ih, List.length_cons]
    exact congrArg some (by simp only [Task.steps]; omega)

theorem stepsToStop_tellingLate (lines : List String) (deadline : Nat) (outcome : Outcome) :
    stepsToStop (tellingLate lines deadline outcome) = none := by
  induction lines with
  | nil => rfl
  | cons line lines ih =>
    show (stepsToStop (tellingLate lines deadline outcome)).map (· + 1) = none
    rw [ih, Option.map_none]

omit [Sink σ] in
/-- **On the way to the check** of a run that was asked to stop, each step comes nearer, and the
check stops the run. -/
theorem Next.nearer {s : Supervisor} {w : Worker σ} {seen : Observation} {before after : List Task}
    {n : Nat} (h : Next s w seen before after) (hbefore : w.agenda = before)
    (hsteps : stepsToStop before = some n) (hasked : s.stopRequested w.ticket = true) :
    before.head? ≠ some .listen ∧ 1 ≤ n ∧
      ((∃ m, stepsToStop after = some m ∧ m + 1 ≤ n + 5 * (w.handed s.tuning).length) ∨
        after = [.terminate .terminated] ∨
        after = [.detach, .settle collapsed, .collapse collapsed] ∧
          ∃ text rest, before = .openWait text :: rest ∧
            s.relay.openWait? text seen.now w.command.promptTimeout = none) := by
  -- in front of lines to tell a task adds its steps
  have hfront : ∀ {task : Task} {lines : List String},
      stepsToStop (task :: telling lines) = (stepsToStop (telling lines)).map (· + task.steps) →
      stepsToStop (task :: telling lines) = some n → n = 5 * lines.length + 2 + task.steps :=
    fun htask h => Option.some.inj (h.symm.trans (stepsToStop_cons htask (stepsToStop_telling _)))
  cases h with
  | take deadline =>
    have hn : n = 4 := (Option.some.inj hsteps).symm
    refine ⟨nofun, by omega, .inl ⟨_, stepsToStop_telling _, ?_⟩⟩
    simp only [Worker.handed, hbefore]
    omega
  | takeNothing deadline moment =>
    have hn : n = 4 := (Option.some.inj hsteps).symm
    exact ⟨nofun, by omega, .inl ⟨3, rfl, by omega⟩⟩
  | pause deadline =>
    have hn : n = 3 := (Option.some.inj hsteps).symm
    exact ⟨nofun, by omega, .inl ⟨2, rfl, by omega⟩⟩
  | narrate line lines =>
    have hn : n = 5 * lines.length + 2 + 5 := hfront rfl hsteps
    exact ⟨nofun, by omega, .inl ⟨_, stepsToStop_telling lines, by omega⟩⟩
  | detect line lines prompt =>
    have hn : n = 5 * lines.length + 2 + 5 := hfront rfl hsteps
    refine ⟨nofun, by omega, .inl ⟨5 * lines.length + 2 + 4, ?_, by omega⟩⟩
    exact stepsToStop_cons rfl (stepsToStop_telling lines)
  | repeated text lines =>
    have hn : n = 5 * lines.length + 2 + 4 := hfront rfl hsteps
    exact ⟨nofun, by omega, .inl ⟨_, stepsToStop_telling lines, by omega⟩⟩
  | opened text lines =>
    have hn : n = 5 * lines.length + 2 + 4 := hfront rfl hsteps
    refine ⟨nofun, by omega, .inl ⟨5 * lines.length + 2 + 2 + 1, ?_, by omega⟩⟩
    exact stepsToStop_cons rfl (stepsToStop_cons rfl (stepsToStop_telling lines))
  | unrepresentable text lines hopen =>
    have hn : n = 5 * lines.length + 2 + 4 := hfront rfl hsteps
    exact ⟨nofun, by omega, .inr (.inr ⟨rfl, text, _, rfl, hopen⟩)⟩
  | showPrompt text lines =>
    have hanswer : stepsToStop (.autoAnswer :: telling lines) = some (5 * lines.length + 2 + 2) :=
      stepsToStop_cons rfl (stepsToStop_telling lines)
    have hn : some n = some (5 * lines.length + 2 + 2 + 1) :=
      hsteps.symm.trans (stepsToStop_cons rfl hanswer)
    injection hn with hn
    exact ⟨nofun, by omega, .inl ⟨_, hanswer, by omega⟩⟩
  | leaveOpen lines =>
    have hn : n = 5 * lines.length + 2 + 2 := hfront rfl hsteps
    exact ⟨nofun, by omega, .inl ⟨_, stepsToStop_telling lines, by omega⟩⟩
  | answer lines =>
    have hn : n = 5 * lines.length + 2 + 2 := hfront rfl hsteps
    refine ⟨nofun, by omega, .inl ⟨5 * lines.length + 2 + 1, ?_, by omega⟩⟩
    exact stepsToStop_cons rfl (stepsToStop_telling lines)
  | tellAnswer lines =>
    have hn : n = 5 * lines.length + 2 + 1 := hfront rfl hsteps
    exact ⟨nofun, by omega, .inl ⟨_, stepsToStop_telling lines, by omega⟩⟩
  | flush =>
    have hn : n = 2 := (Option.some.inj hsteps).symm
    exact ⟨nofun, by omega, .inl ⟨1, rfl, by omega⟩⟩
  | notAsked hnot => exact absurd (hasked.symm.trans hnot) nofun
  | asked =>
    have hn : n = 1 := (Option.some.inj hsteps).symm
    exact ⟨nofun, by omega, .inr (.inl rfl)⟩
  | drainOn | drained | narrateLate =>
    rw [stepsToStop_tellingLate] at hsteps
    cases hsteps
  | _ => cases hsteps

/-- Only a run that goes round its loop is on the way to the check. -/
theorem Phase.undecided_of_stepsToStop {agenda : List Task} {n : Nat} (h : Phase agenda)
    (hsteps : stepsToStop agenda = some n) : Undecided agenda := by
  cases h with
  | undecided h => exact h
  -- behind a decision the check for a stop is not made any more
  | decided outcome h =>
    cases h with
    | tellingLate lines deadline =>
      rw [stepsToStop_tellingLate] at hsteps
      cases hsteps
    | _ => cases hsteps
  | givenUp h => cases h <;> cases hsteps
  | ended h =>
    rw [h] at hsteps
    cases hsteps

end Agenda

/-! ## Section 2: Rounds

A round that begins when the run has been asked to stop already is the one in which the run stops.
An earlier round may have passed its check before the request came. -/

namespace Chronicle

/-- Whether the worker begins to wait for output, which begins a round. -/
def listens (e : Deed σ) : Bool := e.task? == some .listen

end Chronicle

namespace Deed

/-- A round begins although the run was asked to stop. -/
def alerts : Deed σ → Bool
  | .worked s w _ => w.agenda.head? == some .listen && s.stopRequested w.ticket
  | .answered .. => false

/-- A step of the loop. -/
def inLoop : Deed σ → Bool
  | .worked _ w _ => w.verdict?.isNone && !w.agenda.isEmpty
  | .answered .. => false

end Deed

namespace Worker

variable {s : Supervisor} {w : Worker σ} {seen : Observation}

/-- A step asks no run to stop and forgets no request. -/
theorem stopRequests_step (s : Supervisor) (w : Worker σ) (seen : Observation) :
    (step s w seen).shared.stopRequests = s.stopRequests := by
  rcases shared_step s w seen with ⟨outcome, -, hshared⟩ | ⟨-, relay, hshared⟩
  · rw [hshared]
    rfl
  · rw [hshared]

omit [Sink σ] in
theorem undecided_of_head {task : Task} (hphase : Phase w.agenda) (h : w.agenda.head? = some task)
    (htask : task.loops = true) : Undecided w.agenda := by
  obtain ⟨rest, hagenda⟩ := List.head?_eq_some_iff.mp h
  rw [hagenda] at hphase ⊢
  exact hphase.undecided_of_loops htask

omit [Sink σ] in
theorem inLoop_iff (hphase : Phase w.agenda) :
    (Deed.worked s w seen).inLoop = true ↔ Undecided w.agenda := by
  simp only [Deed.inLoop, Bool.and_eq_true, Option.isNone_iff_eq_none, Bool.not_eq_true',
    List.isEmpty_eq_false_iff]
  exact ⟨fun h => hphase.undecided_of_outcome? h.1 h.2, fun h => ⟨h.outcome?_eq, h.ne_nil⟩⟩

/-- The check whether the run was asked to stop decides that it was. -/
theorem decision?_of_asked (seen : Observation) (hphase : Phase w.agenda)
    (hhead : w.agenda.head? = some .checkStop) (hasked : s.stopRequested w.ticket = true) :
    (Deed.worked s w seen).decision? = some .terminated := by
  have hnone : w.verdict? = none := (undecided_of_head hphase hhead rfl).outcome?_eq
  rw [Deed.decision?, if_pos hnone]
  obtain ⟨rest, hagenda⟩ := List.head?_eq_some_iff.mp hhead
  rw [step_cons hagenda]
  simp only [perform, hasked, if_true]
  rfl

end Worker

/-! ## Section 3: The round of a request

By induction from the beginning of the round.  The request cannot be forgotten, nor can it be taken
by another run, so the check finds it. -/

/-- A run that was asked to stop before the round `after` is about stops in it. -/
structure Alerted (s : Supervisor) (w : Worker σ) (after : List (Deed σ)) : Prop where
  /-- The request is not forgotten. -/
  asked : w.isSettled = false → s.stopRequested w.ticket = true
  /-- No other round begins. -/
  round : ∀ later ∈ after, Chronicle.listens later = false
  /-- The run is stopped, unless the clock cannot show when a wait would expire. -/
  stopped : ∀ later ∈ after, ∀ outcome, later.decision? = some outcome →
    outcome = .terminated ∨ ¬later.IsRepresentable
  /-- This takes few steps. -/
  soon : after.countP Deed.inLoop ≤ 5 * (Chronicle.handed after).length + 4
  nearer : Undecided w.agenda → ∃ n, stepsToStop w.agenda = some n ∧
    after.countP Deed.inLoop + n ≤ 5 * (Chronicle.handed after).length + 4

omit [Sink σ] in
theorem Chronicle.listens_worked {s : Supervisor} {w : Worker σ} {seen : Observation}
    (hhead : w.agenda.head? ≠ some .listen) : listens (Deed.worked s w seen) = false := by
  simpa [listens, Deed.task?] using hhead

omit [Sink σ] in
theorem Chronicle.length_handed_worked (after : List (Deed σ)) (s : Supervisor) (w : Worker σ)
    (seen : Observation) : (handed (after ++ [.worked s w seen])).length =
      (handed after).length + (w.handed s.tuning).length := by
  rw [handed_concat, List.length_append]
  rfl

/-- A step neither forgets the request nor the run that it is for. -/
theorem Alerted.asked_step {s : Supervisor} {w : Worker σ} {after : List (Deed σ)}
    (h : Alerted s w after) (seen : Observation) (hphase : Phase w.agenda)
    (hlive : (w.step s seen).worker.isSettled = false) :
    (w.step s seen).shared.stopRequested (w.step s seen).worker.ticket = true := by
  rw [Supervisor.stopRequested, Worker.stopRequests_step, ← (Worker.sameRun_step s w seen).ticket]
  exact h.asked (Worker.live_of_step hphase hlive)

/-- In the loop a step comes nearer to the check, or the run leaves the loop as it was asked to. -/
theorem Alerted.step_undecided {s : Supervisor} {w : Worker σ} {after : List (Deed σ)}
    (h : Alerted s w after) (seen : Observation) (ha : Attending tuning s w)
    (hundecided : Undecided w.agenda) :
    Alerted (w.step s seen).shared (w.step s seen).worker (after ++ [.worked s w seen]) := by
  obtain ⟨n, hn, hbound⟩ := h.nearer hundecided
  have hnext := Worker.next_step s seen ha.phase hundecided.ne_nil
  -- there are three ways: nearer to the check, stopped by it, or collapsed on the way
  obtain ⟨hhead, hpos, hways⟩ := hnext.nearer rfl hn (h.asked hundecided.not_all_isLast)
  have hcount : (after ++ [Deed.worked s w seen]).countP Deed.inLoop =
      after.countP Deed.inLoop + 1 := by
    rw [List.countP_append, List.countP_singleton, if_pos ((Worker.inLoop_iff ha.phase).mpr hundecided)]
  have hhanded := Chronicle.length_handed_worked after s w seen
  constructor
  case asked => exact h.asked_step seen ha.phase
  case round =>
    exact Chronicle.forall_mem_concat.mpr ⟨h.round, Chronicle.listens_worked hhead⟩
  case stopped =>
    refine Chronicle.forall_mem_concat.mpr ⟨h.stopped, fun outcome hdecision => ?_⟩
    have hsome := (Deed.decision?_worked_iff.mp hdecision).2
    rcases hways with ⟨m, hm, -⟩ | hstop | ⟨-, text, rest, hagenda, hopen⟩
    · -- still on the way, so nothing is decided
      have hafter := hnext.course.phase.undecided_of_stepsToStop hm
      cases hafter.outcome?_eq.symm.trans hsome
    · rw [Worker.verdict?, hstop] at hsome
      cases hsome
      exact .inl rfl
    · -- a collapse needs a wait that does not fit into the clock
      refine .inr fun hrep => ?_
      have hsome := hrep text (by rw [hagenda]; rfl)
      rw [hopen] at hsome
      cases hsome
  case soon =>
    rw [hcount, hhanded]
    omega
  case nearer =>
    intro hafter
    -- one step was made, and at most the lines that it took are to be told in addition
    rcases hways with ⟨m, hm, hless⟩ | hstop | ⟨hgiven, -⟩
    · refine ⟨m, hm, ?_⟩
      rw [hcount, hhanded]
      omega
    · -- outside the loop nothing is left to bound
      rw [hstop] at hafter
      cases hafter.outcome?_eq
    · rw [hgiven] at hafter
      cases hafter.outcome?_eq

/-- Outside the loop a step decides on nothing. -/
theorem Alerted.step_decided {s : Supervisor} {w : Worker σ} {after : List (Deed σ)}
    (h : Alerted s w after) (seen : Observation) (ha : Attending tuning s w)
    (hdecided : ¬Undecided w.agenda) :
    Alerted (w.step s seen).shared (w.step s seen).worker (after ++ [.worked s w seen]) := by
  -- the bound was reached in the loop, and such a step does not count
  have hcount : (after ++ [Deed.worked s w seen]).countP Deed.inLoop = after.countP Deed.inLoop := by
    rw [List.countP_append, List.countP_singleton,
      if_neg (mt (Worker.inLoop_iff ha.phase).mp hdecided), Nat.add_zero]
  constructor
  case asked => exact h.asked_step seen ha.phase
  case round =>
    refine Chronicle.forall_mem_concat.mpr ⟨h.round, Chronicle.listens_worked fun hhead => ?_⟩
    exact hdecided (Worker.undecided_of_head ha.phase hhead rfl)
  case stopped =>
    refine Chronicle.forall_mem_concat.mpr ⟨h.stopped, fun outcome hdecision => ?_⟩
    exact absurd (Worker.undecided_of_decision ha.phase hdecision) hdecided
  case soon =>
    rw [hcount, Chronicle.length_handed_worked]
    exact Nat.le_trans h.soon (by omega)
  case nearer =>
    exact fun hafter => absurd (Worker.undecided_of_step ha.phase hafter) hdecided

theorem Alerted.step {s : Supervisor} {w : Worker σ} {after : List (Deed σ)} (h : Alerted s w after)
    (seen : Observation) (ha : Attending tuning s w) :
    Alerted (w.step s seen).shared (w.step s seen).worker (after ++ [.worked s w seen]) := by
  by_cases hundecided : Undecided w.agenda
  · exact h.step_undecided seen ha hundecided
  · exact h.step_decided seen ha hundecided

/-- A run that was asked to stop before the round that begins now. -/
theorem Worker.alerted_of_alerts {s : Supervisor} {w : Worker σ} {seen : Observation}
    (h : (Deed.worked s w seen).alerts = true) :
    Alerted (w.step s seen).shared (w.step s seen).worker [] := by
  simp only [Deed.alerts, Bool.and_eq_true, beq_iff_eq] at h
  obtain ⟨hhead, hasked⟩ := h
  refine ⟨fun _ => ?_, fun later hlater => absurd hlater List.not_mem_nil,
    fun later hlater => absurd hlater List.not_mem_nil, Nat.zero_le _, fun _ => ⟨4, ?_, ?_⟩⟩
  · -- the request stays
    rw [Supervisor.stopRequested, stopRequests_step, ← (sameRun_step s w seen).ticket]
    exact hasked
  · -- the agenda of a new round has four tasks up to the check
    obtain ⟨rest, hagenda⟩ := List.head?_eq_some_iff.mp hhead
    rw [step_cons hagenda]
    rfl
  · exact Nat.le_refl _

/-- An answer in between changes nothing of what the run is asked to do. -/
theorem Alerted.answered {s : Supervisor} {w : Worker σ} {after : List (Deed σ)}
    (h : Alerted s w after) (answer : Answer) (replies : PipeReplies) :
    Alerted (s.answer answer replies).2.2 w (after ++ [.answered s.relay answer replies]) := by
  have hcount : (after ++ [Deed.answered s.relay answer replies]).countP Deed.inLoop =
      after.countP Deed.inLoop := by
    rw [List.countP_append]
    rfl
  have hhanded : Chronicle.handed (after ++ [Deed.answered s.relay answer replies]) =
      Chronicle.handed after := by
    rw [Chronicle.handed_concat]
    exact List.append_nil _
  refine ⟨h.asked, Chronicle.forall_mem_concat.mpr ⟨h.round, rfl⟩,
    Chronicle.forall_mem_concat.mpr ⟨h.stopped, nofun⟩, ?_, fun hundecided => ?_⟩
  · -- an answer is no step, and hands nothing out
    rw [hcount, hhanded]
    exact h.soon
  · rw [hcount, hhanded]
    exact h.nearer hundecided

/-- **A request to stop** that came before a round stops the run in that round.  Requests are never
taken back, so the check in the round still finds it. -/
theorem lasting_alerted (tuning : Tuning) :
    Lasting (σ := σ) tuning fun s w log => ∀ before e after, log = before ++ e :: after →
      e.alerts = true → Alerted s w after where
  begins s w _ _ before e after hlog := absurd hlog (by simp)
  works s w log seen ha h := Chronicle.forall_cut_concat.mpr
    ⟨fun before e after hlog halerts => (h before e after hlog halerts).step seen ha,
      Worker.alerted_of_alerts⟩
  arrives s w log arrival h before e after hlog halerts := by
    obtain ⟨hasked, hround, hstopped, hsoon, hnearer⟩ := h before e after hlog halerts
    exact ⟨hasked, hround, hstopped, hsoon, hnearer⟩
  answers s w log answer replies _ h := Chronicle.forall_cut_concat.mpr
    ⟨fun before e after hlog halerts => (h before e after hlog halerts).answered answer replies,
      nofun⟩
  asks s w log ticket h before e after hlog halerts := by
    obtain ⟨hasked, hround, hstopped, hsoon, hnearer⟩ := h before e after hlog halerts
    refine ⟨fun hlive => ?_, hround, hstopped, hsoon, hnearer⟩
    exact List.contains_iff_mem.mpr
      (List.mem_cons_of_mem ticket (List.contains_iff_mem.mp (hasked hlive)))
  leaves s s' w log hsettled h before e after hlog halerts := by
    obtain ⟨hasked, hround, hstopped, hsoon, hnearer⟩ := h before e after hlog halerts
    exact ⟨fun hlive => absurd (hsettled.symm.trans hlive) nofun, hround, hstopped, hsoon, hnearer⟩

end Overseer
