import Mathlib.Data.List.DropRight
import Overseer.Proofs.Supervisor.OneRun
import Overseer.Proofs.Supervisor.Process
import Overseer.Proofs.Supervisor.Stopping
import Overseer.Proofs.Supervisor.Waits

/-!
# The Outcome of a Run

A run goes round its loop until one of five checks ends it.  The checks are made in a fixed order,
each against what the worker sees at that moment, so an outcome says what was found by the check
that led to it, and that the checks before it found nothing.

- `Grounds`: what an outcome says
- `Worker.grounds_of_decision`: a decision has its grounds
- `lasting_decisions`: a run decides once, and stores what it decided on
- `Chronicle.judged_after`: the outcome of every run, in every interleaving
-/

namespace Overseer

open Agenda
open Worker (collapsed pipeHeldText)

variable {σ : Type} [Sink σ] {tuning : Tuning}

/-! ## Section 1: Rounds and checks

A round is the part of a log behind the last listening.  The checks in it were made in their order,
so the task that comes next says which of them lie behind. -/

namespace Deed

/-- A check that finds nothing which ends the run. -/
inductive Passes : Task → Deed σ → Prop where
  | stop (s : Supervisor) (w : Worker σ) (seen : Observation) :
      w.agenda.head? = some .checkStop → s.stopRequested w.ticket = false →
      Passes .checkStop (.worked s w seen)
  | prompt (s : Supervisor) (w : Worker σ) (seen : Observation) :
      w.agenda.head? = some .checkPrompt → (s.relay.takeExpired seen.now).1 = none →
      Passes .checkPrompt (.worked s w seen)
  | time (s : Supervisor) (w : Worker σ) (seen : Observation) :
      w.agenda.head? = some .checkTime → seen.now < w.startedAt + w.command.timeout →
      Passes .checkTime (.worked s w seen)

end Deed

namespace Chronicle

/-- The deeds of the round that is going on. -/
def round (log : List (Deed σ)) : List (Deed σ) := log.rtakeWhile fun e => !listens e

omit [Sink σ] in
theorem round_concat (log : List (Deed σ)) (e : Deed σ) :
    round (log ++ [e]) = if listens e then [] else round log ++ [e] := by
  rw [round, List.rtakeWhile_concat]
  cases listens e <;> rfl

/-- The checks that were made in this round found nothing. -/
def Passed (log : List (Deed σ)) (checks : List Task) : Prop :=
  ∀ check ∈ checks, ∃ e ∈ round log, e.Passes check

end Chronicle

/-- The checks that a round has made when it comes to the next task. -/
def Agenda.passed : List Task → List Task
  | .checkPrompt :: _ => [.checkStop]
  | .checkTime :: _ => [.checkStop, .checkPrompt]
  | .checkChild :: _ | .checkEnd :: _ => [.checkStop, .checkPrompt, .checkTime]
  | _ => []

theorem Agenda.passed_telling (lines : List String) : passed (telling lines) = [] := by
  cases lines <;> rfl

theorem Agenda.passed_tellingLate (lines : List String) (deadline : Nat) (outcome : Outcome) :
    passed (tellingLate lines deadline outcome) = [] := by
  cases lines <;> rfl

omit [Sink σ] in
/-- A check that a round has made was made before, or it is made now and finds nothing. -/
theorem Agenda.Next.passed {s : Supervisor} {w : Worker σ} {seen : Observation}
    {before after : List Task} (h : Next s w seen before after) (hbefore : w.agenda = before)
    {check : Task} (hcheck : check ∈ Agenda.passed after) :
    before.head? ≠ some .listen ∧
      (check ∈ Agenda.passed before ∨ (Deed.worked s w seen).Passes check) := by
  cases h with
  -- each of these three tasks is a check that found nothing and goes behind the others
  | notAsked hasked =>
    cases List.mem_singleton.mp hcheck
    exact ⟨nofun, .inr (.stop s w seen (by rw [hbefore]; rfl) hasked)⟩
  | notExpired hnone =>
    refine ⟨nofun, ?_⟩
    rcases List.mem_cons.mp hcheck with rfl | hcheck
    · exact .inl List.mem_cons_self
    · cases List.mem_singleton.mp hcheck
      exact .inr (.prompt s w seen (by rw [hbefore]; rfl) hnone)
  | inTime hearly =>
    refine ⟨nofun, ?_⟩
    have hall : check ∈ ([.checkStop, .checkPrompt] ++ [.checkTime] : List Task) := hcheck
    rcases List.mem_append.mp hall with hmade | hnow
    · exact .inl hmade
    · cases List.mem_singleton.mp hnow
      exact .inr (.time s w seen (by rw [hbefore]; rfl) hearly)
  | polled => exact ⟨nofun, .inl hcheck⟩
  -- where a round begins anew, no check lies behind
  | take | narrate | repeated | leaveOpen | tellAnswer =>
    rw [passed_telling] at hcheck
    exact absurd hcheck List.not_mem_nil
  | drain | takeLate | takeLater | narrateLate =>
    rw [passed_tellingLate] at hcheck
    exact absurd hcheck List.not_mem_nil
  | _ => exact absurd hcheck List.not_mem_nil

/-- **The checks of a round** that lie behind found nothing.  A check that finds something replaces
the agenda, and then no check is left to come. -/
theorem lasting_passed (tuning : Tuning) :
    Lasting (σ := σ) tuning fun _ w log => Chronicle.Passed log (passed w.agenda) :=
  .ofLog
    { begins := fun w hfresh check hcheck => by
        rw [hfresh.agenda] at hcheck
        exact absurd hcheck List.not_mem_nil
      works := fun s w log seen ha h check hcheck => by
        -- a run that is over has no checks behind it
        have hne : w.agenda ≠ [] := fun hover => by
          rw [Worker.step_over s seen hover, hover] at hcheck
          exact absurd hcheck List.not_mem_nil
        obtain ⟨hlisten, hpassed⟩ := (Worker.next_step s seen ha.phase hne).passed rfl hcheck
        -- the step does not begin a round, so it is one more step of the round
        have hround : Chronicle.round (log ++ [.worked s w seen]) =
            Chronicle.round log ++ [.worked s w seen] := by
          rw [Chronicle.round_concat, if_neg]
          simpa [Chronicle.listens, Deed.task?] using hlisten
        rw [hround]
        -- the check was made before in this round, or in this step
        rcases hpassed with hpassed | hpassed
        · obtain ⟨e, he, hpasses⟩ := h check hpassed
          exact ⟨e, List.mem_append_left _ he, hpasses⟩
        · exact ⟨_, List.mem_append_right _ (List.mem_singleton.mpr rfl), hpassed⟩
      arrives := fun w log arrival h => h
      answers := fun relay w log answer replies _ h check hcheck => by
        obtain ⟨e, he, hpasses⟩ := h check hcheck
        refine ⟨e, ?_, hpasses⟩
        -- an answer is no step, and the round goes on
        rw [Chronicle.round_concat, if_neg (by simp [Chronicle.listens, Deed.task?])]
        exact List.mem_append_left _ he }

/-! ## Section 2: The exit of the process

The end of a process is noted once, with the moment at which it was seen.  A run that has sent no
signal yet knows that the process ended by itself. -/

/-- What a run knows of its process while it goes round its loop. -/
structure Exits (w : Worker σ) (log : List (Deed σ)) : Prop where
  /-- An exit that is noted was seen. -/
  noted : ∀ ending, w.exited = some ending → ∃ e ∈ log, e.exit? = some ending
  /-- Nothing was done to the process. -/
  unsignalled : Undecided w.agenda → ∀ e ∈ log, e.signal? = none

/-- **The end of the process is known from a step that saw it**, and no signal is sent as long as
nothing is decided. -/
theorem lasting_exits (tuning : Tuning) : Lasting (σ := σ) tuning fun _ w log => Exits w log :=
  .ofLog
    { begins := fun w hfresh => by
        obtain ⟨command, ticket, pid, now, fanout, arrivals, rfl⟩ := hfresh
        rw [Worker.foldl_arrive]
        exact ⟨fun ending h => absurd h nofun, fun _ e he => absurd he List.not_mem_nil⟩
      works := fun s w log seen ha h => by
        constructor
        · intro ending hexited
          rw [Worker.exited_step] at hexited
          -- the end was noted in this step, or it was known before
          rcases Option.or_eq_some_iff.mp hexited with hexit | ⟨-, hexited⟩
          · exact ⟨_, List.mem_append_right _ (List.mem_singleton.mpr rfl), hexit⟩
          · obtain ⟨e, he, hexit⟩ := h.noted ending hexited
            exact ⟨e, List.mem_append_left _ he, hexit⟩
        · intro hafter
          -- in the loop no signal was sent, and this step sends none
          have hbefore := Worker.undecided_of_step ha.phase hafter
          exact Chronicle.forall_mem_concat.mpr
            ⟨h.unsignalled hbefore, Worker.signal_step s seen hbefore⟩
      arrives := fun w log arrival h => ⟨h.noted, h.unsignalled⟩
      answers := fun relay w log answer replies _ h => by
        constructor
        · intro ending hexited
          obtain ⟨e, he, hexit⟩ := h.noted ending hexited
          exact ⟨e, List.mem_append_left _ he, hexit⟩
        · exact fun hundecided => Chronicle.forall_mem_concat.mpr ⟨h.unsignalled hundecided, rfl⟩ }

/-! ## Section 3: What an outcome says

The grounds are stated for a step, with the log in front of it.  Each case is one outcome, with what
the check has found and with the checks of the round that found nothing. -/

namespace Chronicle

/-- The wait was opened and has not got its answer. -/
def Unanswered (log : List (Deed σ)) (wait : PromptWait) : Prop :=
  ∃ before e after, log = before ++ e :: after ∧ e.opened? = some wait ∧
    ∀ later ∈ after, later.supply? = none

/-- Every wait that was opened has got an answer since. -/
def AllAnswered (log : List (Deed σ)) : Prop :=
  ∀ before e after, log = before ++ e :: after → e.opened?.isSome = true →
    ∃ later ∈ after, later.supply?.isSome = true

end Chronicle

/-- **What an outcome says** of the step that decides on it, and of the log before.  The checks that
come before the deciding one in its round have found nothing. -/
inductive Grounds (before : List (Deed σ)) (s : Supervisor) (w : Worker σ) (seen : Observation) :
    Outcome → Prop where
  /-- A caller had asked the run to stop. -/
  | stopped :
      w.agenda.head? = some .checkStop → s.stopRequested w.ticket = true →
      Grounds before s w seen .terminated
  /-- A wait got no answer in its time. -/
  | promptExpired (wait : PromptWait) :
      w.agenda.head? = some .checkPrompt → Chronicle.Passed before [.checkStop] →
      Chronicle.Unanswered before wait →
      wait.detectedAt + w.command.promptTimeout ≤ seen.now →
      Grounds before s w seen (.timedOut .prompt)
  /-- The time of the run had passed. -/
  | timeExceeded :
      w.agenda.head? = some .checkTime → Chronicle.Passed before [.checkStop, .checkPrompt] →
      w.startedAt + w.command.timeout ≤ seen.now →
      Grounds before s w seen (.timedOut .execution)
  /-- The process could not be polled. -/
  | childLost (reason : String) :
      w.agenda.head? = some .checkChild →
      Chronicle.Passed before [.checkStop, .checkPrompt, .checkTime] →
      seen.child = .unknown reason →
      Grounds before s w seen (.failed ("failed to poll child: " ++ reason))
  /-- The process had exited by itself, every prompt had got its answer, and the output was read to
  its end or left alone with a warning. -/
  | completed (code : Int) (noticed : Nat) :
      w.agenda.head? = some .checkEnd →
      Chronicle.Passed before [.checkStop, .checkPrompt, .checkTime] →
      (∃ e ∈ before, e.exit? = some (code, noticed)) → (∀ e ∈ before, e.signal? = none) →
      s.relay.outstanding = false → Chronicle.AllAnswered before →
      (w.reader.closed = true ∨ noticed + s.tuning.gracePeriod ≤ seen.now ∧
        w.published s seen = [.warning pipeHeldText]) →
      Grounds before s w seen (.completed code)
  /-- The clock could not show when a wait would expire. -/
  | collapsed (text : String) :
      w.agenda.head? = some (.openWait text) →
      s.relay.openWait? text seen.now w.command.promptTimeout = none →
      Grounds before s w seen collapsed

omit [Sink σ] in
/-- A wait that the relay of a run holds was opened by the run, for the time that its command gives
to prompts. -/
theorem Waiting.unanswered {s : Supervisor} {w : Worker σ} {log : List (Deed σ)}
    (h : Waiting s w log) (hsame : Chronicle.OneWorker w log) (hlive : w.isSettled = false)
    {wait : PromptWait} (hholds : s.relay.Holds wait) :
    Chronicle.Unanswered log wait ∧
      wait.expiresAt = wait.detectedAt + w.command.promptTimeout := by
  obtain ⟨before, e, after, hlog, hopened, hnone⟩ := h.held hlive wait hholds
  refine ⟨⟨before, e, after, hlog, hopened, hnone⟩, ?_⟩
  obtain ⟨s', w', seen', rfl, -, text, rfl⟩ := Deed.opened?_eq_some hopened
  have hmem : .worked s' w' seen' ∈ log := by
    rw [hlog]
    exact List.mem_append_right _ List.mem_cons_self
  rw [(hsame s' w' seen' hmem).command]

theorem Worker.grounds_of_decision {s : Supervisor} {w : Worker σ} {seen : Observation}
    {log : List (Deed σ)} {outcome : Outcome} (ha : Attending tuning s w)
    (hpassed : Chronicle.Passed log (passed w.agenda)) (hexits : Exits w log)
    (hwaiting : Waiting s w log) (hsame : Chronicle.OneWorker w log)
    (h : (Deed.worked s w seen).decision? = some outcome) : Grounds log s w seen outcome := by
  have hundecided := undecided_of_decision ha.phase h
  have hlive : w.isSettled = false := hundecided.not_all_isLast
  have hdecides := decides_of_decision ha.phase h
  generalize (step s w seen).worker.agenda = after at hdecides
  generalize hbefore : w.agenda = before at hdecides hpassed
  have hhead : ∀ task rest, before = task :: rest → w.agenda.head? = some task := by
    rintro task rest rfl
    rw [hbefore]
    rfl
  cases hdecides with
  | asked hasked => exact .stopped (hhead _ _ rfl) hasked
  | expired wait hexpired =>
    -- the wait that expires is the one that the relay holds, and the run opened it
    obtain ⟨hholds, hnow⟩ := Relay.takeExpired_some hexpired
    obtain ⟨hunanswered, hexpires⟩ := hwaiting.unanswered hsame hlive hholds
    exact .promptExpired wait (hhead _ _ rfl) hpassed hunanswered (hexpires ▸ hnow)
  | tooLate hlate => exact .timeExceeded (hhead _ _ rfl) hpassed hlate
  | lost reason hexited hchild => exact .childLost reason (hhead _ _ rfl) hpassed hchild
  | completed code noticed hexited hidle hread =>
    refine .completed code noticed (hhead _ _ rfl) hpassed (hexits.noted _ hexited)
      (hexits.unsignalled hundecided) hidle ?_ ?_
    · -- a wait without an answer would be held by the relay
      intro earlier e later hlog hopened
      obtain ⟨wait, hopened⟩ := Option.isSome_iff_exists.mp hopened
      exact (hwaiting.answered hundecided earlier e later hlog wait hopened).resolve_right
        (Relay.not_holds hidle)
    · cases hclosed : w.reader.closed with
      | true => exact .inl rfl
      | false =>
        have hgrace := hread.resolve_left (by rw [hclosed]; exact Bool.false_ne_true)
        refine .inr ⟨hgrace, ?_⟩
        rw [published_cons hbefore]
        simp only [narration, hexited, hidle, hclosed, hgrace, and_self, if_true]
  | unrepresentable text lines hopen => exact .collapsed text (hhead _ _ rfl) hopen

/-! ## Section 4: One decision

Deciding and settling are two steps with others in between, and the outcome is carried from the one
to the other on the agenda. -/

/-- The outcomes that a run decided on. -/
def Chronicle.decisions (log : List (Deed σ)) : List Outcome := log.filterMap Deed.decision?

theorem Chronicle.decisions_concat (log : List (Deed σ)) (e : Deed σ) :
    decisions (log ++ [e]) = decisions log ++ e.decision?.toList := by
  rw [decisions, List.filterMap_append, decisions]
  cases hdecision : e.decision? <;> simp [hdecision]

/-- A run decides once, and the outcome that it decides on is the one that is stored. -/
structure Decisions (w : Worker σ) (log : List (Deed σ)) : Prop where
  undecided : Undecided w.agenda → Chronicle.decisions log = []
  decided : ∀ outcome, w.verdict? = some outcome → Chronicle.decisions log = [outcome]
  unsettled : w.isSettled = false → Chronicle.stored log = []
  settled : w.isSettled = true → ∃ outcome,
    Chronicle.decisions log = [outcome] ∧ Chronicle.stored log = [outcome]

theorem Decisions.same {w : Worker σ} {log log' : List (Deed σ)} (h : Decisions w log)
    (hdecisions : Chronicle.decisions log' = Chronicle.decisions log)
    (hstored : Chronicle.stored log' = Chronicle.stored log) : Decisions w log' := by
  constructor
  · exact fun hundecided => hdecisions.trans (h.undecided hundecided)
  · exact fun outcome hverdict => hdecisions.trans (h.decided outcome hverdict)
  · exact fun hlive => hstored.trans (h.unsettled hlive)
  · intro hsettled
    rw [hdecisions, hstored]
    exact h.settled hsettled

/-- A worker that has freed the supervisor decides on nothing and settles nothing. -/
theorem Worker.nothing_of_settled (s : Supervisor) {w : Worker σ} (seen : Observation)
    (hphase : Phase w.agenda) (hsettled : w.isSettled = true) :
    (Deed.worked s w seen).decision? = none ∧ settling? w.agenda = none := by
  constructor
  · -- only the loop decides, and there the supervisor is held
    cases hdecision : (Deed.worked s w seen).decision? with
    | none => rfl
    | some outcome =>
      have hundecided := undecided_of_decision hphase hdecision
      exact absurd (hsettled.symm.trans hundecided.not_all_isLast) nofun
  · -- the step that frees the supervisor still holds it
    cases hsettling : settling? w.agenda with
    | none => rfl
    | some outcome =>
      obtain ⟨hlive, -⟩ := isSettled_of_settling s seen hphase hsettling
      exact absurd (hsettled.symm.trans hlive) nofun

theorem Decisions.step {s : Supervisor} {w : Worker σ} {log : List (Deed σ)} (h : Decisions w log)
    (seen : Observation) (ha : Attending tuning s w) (hne : w.agenda ≠ []) :
    Decisions (w.step s seen).worker (log ++ [.worked s w seen]) := by
  have hnext := Worker.next_step s seen ha.phase hne
  have hstored := Deed.stored?_worked ha seen
  constructor
  · intro hafter
    have hnone : (Deed.worked s w seen).decision? = none := by
      cases hdecision : (Deed.worked s w seen).decision? with
      | none => rfl
      | some outcome =>
        have hsome := (Deed.decision?_worked_iff.mp hdecision).2
        cases hafter.outcome?_eq.symm.trans hsome
    rw [Chronicle.decisions_concat, h.undecided (hnext.course.undecided hafter), hnone]
    rfl
  · intro outcome hafter
    rw [Chronicle.decisions_concat]
    cases hbefore : w.verdict? with
    | none =>
      -- the step decides
      have hsome : (Deed.worked s w seen).decision? = some outcome := by
        rw [Deed.decision?, if_pos hbefore, hafter]
      rw [h.undecided (ha.phase.undecided_of_outcome? hbefore hne), hsome]
      rfl
    | some other =>
      have hnone : (Deed.worked s w seen).decision? = none := by
        rw [Deed.decision?, if_neg (by rw [hbefore]; exact Option.some_ne_none _)]
      rcases hnext.course.outcome?_eq hbefore with hover | hkept
      · rw [Worker.verdict?, hover] at hafter
        cases hafter
      · rw [h.decided other hbefore, hnone]
        cases hkept.symm.trans hafter
        rfl
  · intro hlive
    rw [Chronicle.stored_of_live ha hlive]
    exact h.unsettled (Worker.live_of_step ha.phase hlive)
  · intro hafter
    rw [Chronicle.decisions_concat, Chronicle.stored_concat, hstored]
    cases hbefore : w.isSettled with
    | true =>
      obtain ⟨hnone, hsettling⟩ := Worker.nothing_of_settled s seen ha.phase hbefore
      rw [hnone, hsettling]
      simpa using h.settled hbefore
    | false =>
      obtain ⟨outcome, rest, hsettle⟩ := hnext.of_settled hbefore hafter
      have hsettling : settling? w.agenda = some outcome := by rw [hsettle]; rfl
      obtain ⟨-, -, hverdict⟩ := Worker.isSettled_of_settling s seen ha.phase hsettling
      have hnone : (Deed.worked s w seen).decision? = none := by
        rw [Deed.decision?, if_neg (by rw [hverdict]; exact Option.some_ne_none _)]
      rw [h.decided outcome hverdict, h.unsettled hbefore, hnone, hsettling]
      exact ⟨outcome, rfl, rfl⟩

/-- **A run decides once**, and stores what it decided on.  Behind a decision every task carries its
outcome. -/
theorem lasting_decisions (tuning : Tuning) :
    Lasting (σ := σ) tuning fun _ w log => Decisions w log :=
  .ofLog
    { begins := fun w hfresh =>
        -- at the beginning nothing is decided and nothing stored
        { undecided := fun _ => rfl
          decided := fun outcome h => by
            rw [Worker.verdict?, hfresh.agenda] at h
            cases h
          unsettled := fun _ => rfl
          settled := fun h => by
            rw [hfresh.isSettled] at h
            cases h }
      works := fun s w log seen ha h => by
        by_cases hover : w.agenda = []
        · -- a run that is over stays as it is
          have hsettled : w.isSettled = true := by rw [Worker.isSettled, hover]; rfl
          obtain ⟨hnone, hsettling⟩ :=
            Worker.nothing_of_settled s seen ha.phase hsettled
          rw [Worker.step_over s seen hover]
          refine h.same ?_ ?_
          · rw [Chronicle.decisions_concat, hnone]
            exact List.append_nil _
          · rw [Chronicle.stored_concat, Deed.stored?_worked ha, hsettling]
            exact List.append_nil _
        · exact h.step seen ha hover
      arrives := fun w log arrival h => ⟨h.undecided, h.decided, h.unsettled, h.settled⟩
      answers := fun relay w log answer replies _ h => by
        -- an answer decides and stores nothing
        refine h.same ?_ (Chronicle.stored_answered log relay answer replies)
        rw [Chronicle.decisions_concat]
        exact List.append_nil _ }

/-! ## Section 5: The outcome of every run

Everything about one run is collected in one structure, and then everything about all runs of a
chronicle. -/

/-- **A decision has its grounds**, and a check that sees a request decides. -/
theorem lasting_grounds (tuning : Tuning) :
    Lasting (σ := σ) tuning fun s w log =>
      (Chronicle.Passed log (passed w.agenda) ∧ Exits w log ∧ Waiting s w log ∧
        Chronicle.OneWorker w log) ∧
      ∀ before e after, log = before ++ e :: after → ∀ s w seen, e = .worked s w seen →
        (∀ outcome, (Deed.worked s w seen).decision? = some outcome →
          Grounds before s w seen outcome) ∧
        (w.agenda.head? = some .checkStop → s.stopRequested w.ticket = true →
          (Deed.worked s w seen).decision? = some .terminated) := by
  -- the grounds of a decision are known before the step that decides
  have hknown := (lasting_passed tuning).and ((lasting_exits (σ := σ) tuning).and
    ((lasting_waiting tuning).and (Chronicle.lasting_oneWorker tuning)))
  refine hknown.recorded fun s w log seen ha ⟨hpassed, hexits, hwaiting, hsame⟩ => ⟨?_, ?_⟩
  · exact fun outcome => Worker.grounds_of_decision ha hpassed hexits hwaiting hsame
  · exact Worker.decision?_of_asked seen ha.phase

/-- The outcome of a run: what it was decided on, at which check, and what became of it. -/
structure Verdict (w : Worker σ) (log : List (Deed σ)) : Prop where
  /-- A run decides once at most. -/
  once : (Chronicle.decisions log).length ≤ 1
  /-- A run that has freed the supervisor has decided, and stored what it decided on. -/
  stored : w.isSettled = true → ∃ outcome,
    Chronicle.decisions log = [outcome] ∧ Chronicle.stored log = [outcome]
  /-- A decision has its grounds. -/
  grounds : ∀ before e after, log = before ++ e :: after → ∀ s w seen, e = .worked s w seen →
    ∀ outcome, (Deed.worked s w seen).decision? = some outcome → Grounds before s w seen outcome
  /-- A check that sees that the run was asked to stop decides to stop it. -/
  stops : ∀ before e after, log = before ++ e :: after → ∀ s w seen, e = .worked s w seen →
    w.agenda.head? = some .checkStop → s.stopRequested w.ticket = true →
      (Deed.worked s w seen).decision? = some .terminated
  /-- When a round begins although the run was asked to stop, no other round begins, the run is
  stopped unless it collapses, and this takes few steps, counted by the lines that it tells. -/
  alerted : ∀ before e after, log = before ++ e :: after → e.alerts = true →
    (∀ later ∈ after, Chronicle.listens later = false) ∧
      (∀ later ∈ after, ∀ outcome, later.decision? = some outcome →
        outcome = .terminated ∨ ¬later.IsRepresentable) ∧
      after.countP Deed.inLoop ≤ 5 * (Chronicle.handed after).length + 4

/-- The outcomes of all runs, and how requests to stop reach them. -/
structure Chronicle.Judged (h : Chronicle σ) : Prop where
  runs : h.Every fun _ w log => Verdict w log
  /-- The worker of a run looks for requests under the ticket of the run. -/
  own : ∀ t w attached, h.crew.stages t = some (.working w attached) → w.ticket = t
  /-- A caller reaches the run that is reserved or active. -/
  reached : ∀ t, h.crew.Active t → (h.step .cancel).crew.shared.stopRequested t = true
  /-- A request is never forgotten. -/
  remembered : ∀ action t, h.crew.shared.stopRequested t = true →
    (h.step action).crew.shared.stopRequested t = true

/-- **The outcome of every run**, whatever its process does and whoever answers or interrupts.  A
run decides once, and its outcome says what its worker saw at the check that decided. -/
theorem Chronicle.judged_after (tuning : Tuning) (actions : List (Crew.Action σ)) :
    (after tuning actions).Judged := by
  have hgrounds := keeps_after (lasting_grounds (σ := σ) tuning) actions
  have htracks := hgrounds.tracks
  constructor
  case runs =>
    intro t w hstage
    have hdecisions := lasting_after (lasting_decisions tuning) actions t w hstage
    have halerted := lasting_after (lasting_alerted tuning) actions t w hstage
    have hphase := hgrounds.phase t w hstage
    constructor
    case once =>
      -- undecided, on the way to the end with an outcome, collapsed, or over
      rcases hphase with hundecided | ⟨outcome, hdecided⟩ | hgiven | hover
      · rw [hdecisions.undecided hundecided]
        exact Nat.zero_le 1
      · rw [hdecisions.decided outcome hdecided.outcome?_eq]
        exact Nat.le_refl 1
      · rw [hdecisions.decided collapsed hgiven.outcome?_eq]
        exact Nat.le_refl 1
      · obtain ⟨outcome, hdecision, -⟩ := hdecisions.settled (by rw [Worker.isSettled, hover]; rfl)
        rw [hdecision]
        exact Nat.le_refl 1
    case stored => exact hdecisions.settled
    case grounds =>
      intro before e after hlog s w' seen hdeed
      exact ((hgrounds.holds t w hstage).2 before e after hlog s w' seen hdeed).1
    case stops =>
      intro before e after hlog s w' seen hdeed
      exact ((hgrounds.holds t w hstage).2 before e after hlog s w' seen hdeed).2
    case alerted =>
      intro before e after hlog halerts
      have h := halerted before e after hlog halerts
      exact ⟨h.round, h.stopped, h.soon⟩
  case own =>
    intro t w attached hstage
    exact (htracks.workers t w attached hstage).1
  case reached =>
    -- a request is put down for the run that is active
    intro t hactive
    exact (Crew.stopRequested_cancel htracks t).mpr (.inr hactive)
  case remembered =>
    intro action t hasked
    -- a request that was put down stays, whatever comes next
    by_cases hcancel : action = .cancel
    · rw [hcancel]
      exact (Crew.stopRequested_cancel htracks t).mpr (.inl hasked)
    · show ((after tuning actions).crew.step action).shared.stopRequested t = true
      rw [Supervisor.stopRequested, Crew.stopRequests_step htracks hcancel]
      exact hasked

end Overseer
