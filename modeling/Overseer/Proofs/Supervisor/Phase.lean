import Overseer.Proofs.Supervisor.Agenda

/-!
# The Phases of a Run

The agenda of a worker says how far its run has come: it goes round its loop and has no outcome
yet, it has decided on an outcome and brings the run to its end, or it could not go on and gives
up.  Everything that is proved about the course of a run follows these phases.

- `Agenda.Undecided`, `Agenda.Decided`, `Agenda.GivenUp`: the phases
- `Agenda.Next`: the agenda that follows, and what it depends on
- `Agenda.Next.course`: round the loop, and then to the end with one outcome
- `Agenda.Next.decides`: the ways out of the loop
- `Worker.next_step`: a step leads to the agenda that follows
- `Worker.verdict?`: the outcome that a worker has decided on
-/

namespace Overseer

open Worker (checks finishing collapsed)

/-! ## Section 1: Agendas by phase

An agenda that comes up is one of a few shapes, with lines to tell in front.  The phases list them;
where a phase has several shapes they are told apart by their first task. -/

/-- The outcome that a task carries to the end of the run. -/
def Task.outcome? : Task → Option Outcome
  | .terminate o | .awaitEnd _ o | .reap o | .drain o | .drainUntil _ o | .drainPoll _ _ o
  | .settle o | .conclude o | .collapse o => some o
  | _ => none

/-- Tasks that a worker does on its way round the loop and nowhere else. -/
def Task.loops : Task → Bool
  | .start | .listen | .poll _ | .narrate _ | .openWait _ | .showPrompt _ | .autoAnswer | .checkStop
  | .checkPrompt | .checkTime | .checkChild | .checkEnd => true
  | _ => false

namespace Agenda

/-- Lines to tell, and then the checks of the round. -/
def telling (lines : List String) : List Task := lines.map .narrate ++ checks

/-- Lines to tell after the decision to stop, and then more output to take. -/
def tellingLate (lines : List String) (deadline : Nat) (outcome : Outcome) : List Task :=
  lines.map .narrateLate ++ [.drainUntil deadline outcome]

theorem telling_nil : telling [] = checks := rfl

theorem telling_cons (line : String) (lines : List String) :
    telling (line :: lines) = .narrate line :: telling lines := rfl

theorem tellingLate_nil (deadline : Nat) (outcome : Outcome) :
    tellingLate [] deadline outcome = [.drainUntil deadline outcome] := rfl

theorem tellingLate_cons (line : String) (lines : List String) (deadline : Nat) (outcome : Outcome) :
    tellingLate (line :: lines) deadline outcome =
      .narrateLate line :: tellingLate lines deadline outcome := rfl

/-- The agenda of a worker that goes round its loop.  It has lines and prompts to tell in front, and
then a part of the checks, or of a poll. -/
inductive Undecided : List Task → Prop where
  | starting : Undecided [.start, .listen]
  | listening : Undecided [.listen]
  | polling (deadline : Nat) : Undecided [.poll deadline]
  | pausing (deadline : Nat) : Undecided (.pause deadline :: checks)
  | telling (lines : List String) : Undecided (telling lines)
  | finding (text : String) (lines : List String) : Undecided (.openWait text :: Agenda.telling lines)
  | showing (text : String) (lines : List String) :
      Undecided (.showPrompt text :: .autoAnswer :: Agenda.telling lines)
  | answering (lines : List String) : Undecided (.autoAnswer :: Agenda.telling lines)
  | noting (lines : List String) : Undecided (.flush :: Agenda.telling lines)
  | checkingStop : Undecided [.checkStop, .checkPrompt, .checkTime, .checkChild, .checkEnd]
  | checkingPrompt : Undecided [.checkPrompt, .checkTime, .checkChild, .checkEnd]
  | checkingTime : Undecided [.checkTime, .checkChild, .checkEnd]
  | checkingChild : Undecided [.checkChild, .checkEnd]
  | checkingEnd : Undecided [.checkEnd]

/-- The agenda of a worker that brings its run to an outcome.  There is one case for each stretch of
the way from the decision to the last event. -/
inductive Decided (outcome : Outcome) : List Task → Prop where
  | terminating : Decided outcome [.terminate outcome]
  | awaiting (deadline : Nat) : Decided outcome [.awaitEnd deadline outcome]
  | resting (moment deadline : Nat) : Decided outcome [.pause moment, .awaitEnd deadline outcome]
  | reaping : Decided outcome [.reap outcome]
  | draining : Decided outcome [.drain outcome]
  | taking (deadline quantum : Nat) : Decided outcome [.drainPoll deadline quantum outcome]
  | tellingLate (lines : List String) (deadline : Nat) :
      Decided outcome (tellingLate lines deadline outcome)
  | finishing : Decided outcome (finishing outcome)
  | detaching : Decided outcome [.detach, .settle outcome, .conclude outcome]
  | settling : Decided outcome [.settle outcome, .conclude outcome]
  | concluding : Decided outcome [.conclude outcome]

/-- The agenda of a worker that could not go on.  It lets go of the relay, frees the supervisor, and
says nothing. -/
inductive GivenUp : List Task → Prop where
  | detaching : GivenUp [.detach, .settle collapsed, .collapse collapsed]
  | settling : GivenUp [.settle collapsed, .collapse collapsed]
  | collapsing : GivenUp [.collapse collapsed]

/-- The agenda of a worker at any time. -/
inductive Phase (agenda : List Task) : Prop where
  | undecided (h : Undecided agenda)
  | decided (outcome : Outcome) (h : Decided outcome agenda)
  | givenUp (h : GivenUp agenda)
  | ended (h : agenda = [])

/-! ## Section 2: What a phase says

What a phase says about the rest of the run: which outcome it leads to, whether it may still be
stopped, and what stands behind its first task. -/

/-- The outcome that an agenda leads to. -/
def outcome? (agenda : List Task) : Option Outcome := agenda.findSome? Task.outcome?

theorem outcome?_append_of_none {tasks rest : List Task}
    (htasks : ∀ task ∈ tasks, task.outcome? = none) : outcome? (tasks ++ rest) = outcome? rest := by
  have hnone : tasks.findSome? Task.outcome? = none := List.findSome?_eq_none_iff.mpr htasks
  rw [outcome?, List.findSome?_append, hnone, Option.none_or, outcome?]

theorem outcome?_telling (lines : List String) : outcome? (telling lines) = none := by
  have hlines : ∀ task ∈ lines.map Task.narrate, task.outcome? = none := by
    intro task htask
    obtain ⟨line, -, rfl⟩ := List.mem_map.mp htask
    rfl
  rw [telling, outcome?_append_of_none hlines]
  rfl

theorem outcome?_tellingLate (lines : List String) (deadline : Nat) (outcome : Outcome) :
    outcome? (tellingLate lines deadline outcome) = some outcome := by
  have hlines : ∀ task ∈ lines.map Task.narrateLate, task.outcome? = none := by
    intro task htask
    obtain ⟨line, -, rfl⟩ := List.mem_map.mp htask
    rfl
  rw [tellingLate, outcome?_append_of_none hlines]
  rfl

theorem Undecided.outcome?_eq {agenda : List Task} (h : Undecided agenda) :
    outcome? agenda = none := by
  cases h with
  | telling lines => exact outcome?_telling lines
  | finding text lines => exact outcome?_telling lines
  | showing text lines => exact outcome?_telling lines
  | answering lines => exact outcome?_telling lines
  | noting lines => exact outcome?_telling lines
  | _ => rfl

theorem Decided.outcome?_eq {agenda : List Task} {outcome : Outcome} (h : Decided outcome agenda) :
    outcome? agenda = some outcome := by
  cases h with
  | tellingLate lines deadline => exact outcome?_tellingLate lines deadline outcome
  | _ => rfl

theorem GivenUp.outcome?_eq {agenda : List Task} (h : GivenUp agenda) :
    outcome? agenda = some collapsed := by
  cases h <;> rfl

theorem Undecided.ne_nil {agenda : List Task} (h : Undecided agenda) : agenda ≠ [] := by
  cases h with
  | telling lines => cases lines <;> exact List.cons_ne_nil _ _
  | _ => exact List.cons_ne_nil _ _

/-- Going round the loop a worker has not freed the supervisor. -/
theorem Undecided.not_all_isLast {agenda : List Task} (h : Undecided agenda) :
    agenda.all Task.isLast = false := by
  cases h with
  | telling lines => cases lines <;> rfl
  | _ => rfl

/-- A worker that has freed the supervisor has at most the telling of the outcome before it. -/
theorem Phase.settled {agenda : List Task} (h : Phase agenda)
    (hall : agenda.all Task.isLast = true) : Settled agenda := by
  cases h with
  -- in the loop the supervisor is still held
  | undecided h =>
    rw [h.not_all_isLast] at hall
    exact absurd hall nofun
  | decided outcome h =>
    cases h with
    -- of the way to the end only its last task stands behind the freeing
    | concluding => exact .conclude outcome
    | tellingLate lines deadline => cases lines <;> exact absurd hall nofun
    | _ => exact absurd hall nofun
  | givenUp h =>
    cases h with
    | collapsing => exact .collapse collapsed
    | _ => exact absurd hall nofun
  | ended h =>
    rw [h]
    exact .done

/-- A worker that is about to do a task of the loop goes round its loop. -/
theorem Phase.undecided_of_loops {task : Task} {rest : List Task} (h : Phase (task :: rest))
    (htask : task.loops = true) : Undecided (task :: rest) := by
  generalize hagenda : task :: rest = agenda at h
  -- no other phase begins with a task of the loop
  cases h with
  | undecided h => exact h
  | decided outcome h =>
    cases h with
    | tellingLate lines deadline => cases lines <;> cases hagenda <;> cases htask
    | _ =>
      cases hagenda
      cases htask
  | givenUp h => cases h <;> cases hagenda <;> cases htask
  | ended h => cases hagenda.trans h

/-- What stands behind a task that begins, settles or concludes a run. -/
theorem Phase.behind {task : Task} {rest : List Task} (h : Phase (task :: rest)) :
    (task = .start → rest = [.listen]) ∧
      (∀ outcome, task = .settle outcome →
        rest = [.conclude outcome] ∨ outcome = collapsed ∧ rest = [.collapse outcome]) ∧
      ∀ outcome, task = .conclude outcome → rest = [] := by
  -- each clause is about one task in front, and every other phase has another one there
  generalize hagenda : task :: rest = agenda at h
  cases h with
  | undecided h =>
    cases h with
    | telling lines =>
      cases lines <;> cases hagenda <;> exact ⟨nofun, nofun, nofun⟩
    | starting =>
      cases hagenda
      exact ⟨fun _ => rfl, nofun, nofun⟩
    | _ =>
      cases hagenda
      exact ⟨nofun, nofun, nofun⟩
  | decided outcome h =>
    cases h with
    | tellingLate lines deadline => cases lines <;> cases hagenda <;> exact ⟨nofun, nofun, nofun⟩
    | settling =>
      cases hagenda
      exact ⟨nofun, fun other hother => .inl (by cases hother; rfl), nofun⟩
    | concluding =>
      cases hagenda
      exact ⟨nofun, nofun, fun _ _ => rfl⟩
    | _ =>
      cases hagenda
      exact ⟨nofun, nofun, nofun⟩
  | givenUp h =>
    cases h with
    | settling =>
      cases hagenda
      exact ⟨nofun, fun other hother => .inr (by cases hother; exact ⟨rfl, rfl⟩), nofun⟩
    | _ =>
      cases hagenda
      exact ⟨nofun, nofun, nofun⟩
  | ended h => cases hagenda.trans h

/-- An agenda that leads nowhere is empty or goes round the loop. -/
theorem Phase.undecided_of_outcome? {agenda : List Task} (h : Phase agenda)
    (hnone : outcome? agenda = none) (hne : agenda ≠ []) : Undecided agenda := by
  cases h with
  | undecided h => exact h
  | decided outcome h => exact absurd (hnone.symm.trans h.outcome?_eq) nofun
  | givenUp h => exact absurd (hnone.symm.trans h.outcome?_eq) nofun
  | ended h => exact absurd h hne

/-- The outcome that the next task settles. -/
def settling? : List Task → Option Outcome
  | .settle outcome :: _ => some outcome
  | _ => none

theorem settling?_eq_some {agenda : List Task} {outcome : Outcome}
    (h : settling? agenda = some outcome) : ∃ rest, agenda = .settle outcome :: rest := by
  simp only [settling?] at h
  split at h
  · next rest =>
    cases h
    exact ⟨rest, rfl⟩
  · cases h

/-! ## Section 3: What a step can do

This relation is the inversion of a step, and the later modules go through its cases instead of the
tasks.  A case names the agenda before and after, and all that the worker must have seen to go that
way. -/

/-- The lines that a poll of the reader finds to tell: the complete ones, or else a fragment that is
a prompt. -/
def found (tuning : Tuning) (reader : Reader.OutputReader) : List String :=
  match reader.poll.1 with
  | .lines lines => lines
  | .idle =>
    if reader.poll.2.fragment?.any tuning.patterns.detects then
      reader.poll.2.takeFragment.1.toList
    else []
  | _ => []

/-- The agenda that follows, with what the worker sees when it takes that way.  Every lemma about
one step is read off these cases. -/
inductive Next {σ : Type} (s : Supervisor) (w : Worker σ) (seen : Observation) :
    List Task → List Task → Prop where
  | start : Next s w seen [.start, .listen] [.listen]
  | listen (moment : Nat) : Next s w seen [.listen] [.poll moment]
  | take (deadline : Nat) : Next s w seen [.poll deadline] (telling (found s.tuning w.reader))
  | takeNothing (deadline moment : Nat) :
      found s.tuning w.reader = [] → Next s w seen [.poll deadline] (.pause moment :: checks)
  | pause (deadline : Nat) : Next s w seen (.pause deadline :: checks) checks
  -- lines and prompts
  | narrate (line : String) (lines : List String) :
      s.tuning.patterns.detect line = none →
      Next s w seen (telling (line :: lines)) (telling lines)
  | detect (line : String) (lines : List String) (prompt : Prompt.DetectedPrompt) :
      s.tuning.patterns.detect line = some prompt →
      Next s w seen (telling (line :: lines)) (.openWait prompt.line :: telling lines)
  | repeated (text : String) (lines : List String) (relay : Relay) :
      s.relay.openWait? text seen.now w.command.promptTimeout = some (false, relay) →
      Next s w seen (.openWait text :: telling lines) (telling lines)
  | opened (text : String) (lines : List String) (relay : Relay) :
      s.relay.openWait? text seen.now w.command.promptTimeout = some (true, relay) →
      Next s w seen (.openWait text :: telling lines)
        (.showPrompt text :: .autoAnswer :: telling lines)
  | unrepresentable (text : String) (lines : List String) :
      s.relay.openWait? text seen.now w.command.promptTimeout = none →
      Next s w seen (.openWait text :: telling lines)
        [.detach, .settle collapsed, .collapse collapsed]
  | showPrompt (text : String) (lines : List String) :
      Next s w seen (.showPrompt text :: .autoAnswer :: telling lines)
        (.autoAnswer :: telling lines)
  | leaveOpen (lines : List String) :
      w.command.autoAnswer = none → Next s w seen (.autoAnswer :: telling lines) (telling lines)
  | answer (lines : List String) (a : Answer) :
      w.command.autoAnswer = some a →
      Next s w seen (.autoAnswer :: telling lines) (.flush :: telling lines)
  | tellAnswer (lines : List String) :
      Next s w seen (.flush :: telling lines) (telling lines)
  -- the checks
  | flush : Next s w seen (telling []) [.checkStop, .checkPrompt, .checkTime, .checkChild, .checkEnd]
  | notAsked :
      s.stopRequested w.ticket = false →
      Next s w seen [.checkStop, .checkPrompt, .checkTime, .checkChild, .checkEnd]
        [.checkPrompt, .checkTime, .checkChild, .checkEnd]
  | asked :
      s.stopRequested w.ticket = true →
      Next s w seen [.checkStop, .checkPrompt, .checkTime, .checkChild, .checkEnd]
        [.terminate .terminated]
  | notExpired :
      (s.relay.takeExpired seen.now).1 = none →
      Next s w seen [.checkPrompt, .checkTime, .checkChild, .checkEnd]
        [.checkTime, .checkChild, .checkEnd]
  | expired (wait : PromptWait) :
      (s.relay.takeExpired seen.now).1 = some wait →
      Next s w seen [.checkPrompt, .checkTime, .checkChild, .checkEnd]
        [.terminate (.timedOut .prompt)]
  | inTime :
      seen.now < w.startedAt + w.command.timeout →
      Next s w seen [.checkTime, .checkChild, .checkEnd] [.checkChild, .checkEnd]
  | tooLate :
      w.startedAt + w.command.timeout ≤ seen.now →
      Next s w seen [.checkTime, .checkChild, .checkEnd] [.terminate (.timedOut .execution)]
  | polled :
      (∀ reason, w.exited = none → seen.child ≠ .unknown reason) →
      Next s w seen [.checkChild, .checkEnd] [.checkEnd]
  | lost (reason : String) :
      w.exited = none → seen.child = .unknown reason →
      Next s w seen [.checkChild, .checkEnd] [.terminate (.failed ("failed to poll child: " ++ reason))]
  | goOn :
      (∀ code noticed, w.exited = some (code, noticed) → s.relay.outstanding = true ∨
        w.reader.closed = false ∧ seen.now < noticed + s.tuning.gracePeriod) →
      Next s w seen [.checkEnd] [.listen]
  | completed (code : Int) (noticed : Nat) :
      w.exited = some (code, noticed) → s.relay.outstanding = false →
      w.reader.closed = true ∨ noticed + s.tuning.gracePeriod ≤ seen.now →
      Next s w seen [.checkEnd] (finishing (.completed code))
  -- stopping the process
  | terminate (moment : Nat) (outcome : Outcome) :
      seen.child = .running → Next s w seen [.terminate outcome] [.awaitEnd moment outcome]
  | leaveEnded (outcome : Outcome) :
      seen.child ≠ .running → Next s w seen [.terminate outcome] [.drain outcome]
  | await (moment deadline : Nat) (outcome : Outcome) :
      seen.now < deadline → seen.child = .running →
      Next s w seen [.awaitEnd deadline outcome] [.pause moment, .awaitEnd deadline outcome]
  | awaited (deadline : Nat) (outcome : Outcome) :
      seen.now < deadline → seen.child ≠ .running →
      Next s w seen [.awaitEnd deadline outcome] [.drain outcome]
  | kill (deadline : Nat) (outcome : Outcome) :
      deadline ≤ seen.now → (∀ reason, seen.child ≠ .unknown reason) →
      Next s w seen [.awaitEnd deadline outcome] [.reap outcome]
  | letLive (deadline : Nat) (outcome : Outcome) (reason : String) :
      deadline ≤ seen.now → seen.child = .unknown reason →
      Next s w seen [.awaitEnd deadline outcome] [.drain outcome]
  | rest (moment deadline : Nat) (outcome : Outcome) :
      Next s w seen [.pause moment, .awaitEnd deadline outcome] [.awaitEnd deadline outcome]
  | reap (outcome : Outcome) : Next s w seen [.reap outcome] [.drain outcome]
  -- what is left of the output
  | drain (deadline : Nat) (outcome : Outcome) :
      Next s w seen [.drain outcome] (tellingLate [] deadline outcome)
  | drainOn (deadline quantum : Nat) (outcome : Outcome) :
      seen.now < deadline →
      Next s w seen (tellingLate [] deadline outcome) [.drainPoll deadline quantum outcome]
  | drained (deadline : Nat) (outcome : Outcome) :
      deadline ≤ seen.now → Next s w seen (tellingLate [] deadline outcome) (finishing outcome)
  | takeLate (lines : List String) (deadline quantum : Nat) (outcome : Outcome) :
      w.reader.poll.1 = .lines lines →
      Next s w seen [.drainPoll deadline quantum outcome] (tellingLate lines deadline outcome)
  | takeLater (deadline quantum : Nat) (outcome : Outcome) :
      w.reader.poll.1 = .pending →
      Next s w seen [.drainPoll deadline quantum outcome] (tellingLate [] deadline outcome)
  | takeLast (deadline quantum : Nat) (outcome : Outcome) :
      w.reader.poll.1 = .idle ∨ w.reader.poll.1 = .closed →
      Next s w seen [.drainPoll deadline quantum outcome] (finishing outcome)
  | narrateLate (line : String) (lines : List String) (deadline : Nat) (outcome : Outcome) :
      Next s w seen (tellingLate (line :: lines) deadline outcome)
        (tellingLate lines deadline outcome)
  -- the end
  | flushLast (outcome : Outcome) :
      Next s w seen (finishing outcome) [.detach, .settle outcome, .conclude outcome]
  | detach (outcome : Outcome) :
      Next s w seen [.detach, .settle outcome, .conclude outcome]
        [.settle outcome, .conclude outcome]
  | settle (outcome : Outcome) :
      Next s w seen [.settle outcome, .conclude outcome] [.conclude outcome]
  | conclude (outcome : Outcome) : Next s w seen [.conclude outcome] []
  | detachGivenUp :
      Next s w seen [.detach, .settle collapsed, .collapse collapsed]
        [.settle collapsed, .collapse collapsed]
  | settleGivenUp :
      Next s w seen [.settle collapsed, .collapse collapsed] [.collapse collapsed]
  | collapse : Next s w seen [.collapse collapsed] []

/-- How a run goes from one phase to the next.  It never comes back to the loop. -/
inductive Course (before after : List Task) : Prop where
  | goesRound (h : Undecided before) (h' : Undecided after)
  | decides (outcome : Outcome) (h : Undecided before) (h' : Decided outcome after)
  | givesUp (h : Undecided before) (h' : GivenUp after)
  | goesOn (outcome : Outcome) (h : Decided outcome before) (h' : Decided outcome after)
  | concludes (outcome : Outcome) (h : before = [.conclude outcome]) (h' : after = [])
  | goesDown (h : GivenUp before) (h' : GivenUp after)
  | collapses (h : before = [.collapse collapsed]) (h' : after = [])

/-- **The course of a run**: round the loop, and then to the end with one outcome.  There is a case
for each way that a step can take. -/
theorem Next.course {σ : Type} {s : Supervisor} {w : Worker σ} {seen : Observation}
    {before after : List Task} (h : Next s w seen before after) : Course before after := by
  cases h with
  -- starting, and the loop: listen, poll, tell
  | start => exact .goesRound .starting .listening
  | listen moment => exact .goesRound .listening (.polling moment)
  | take deadline => exact .goesRound (.polling deadline) (.telling _)
  | takeNothing deadline moment => exact .goesRound (.polling deadline) (.pausing moment)
  | pause deadline => exact .goesRound (.pausing deadline) (.telling [])
  | narrate line lines => exact .goesRound (.telling _) (.telling lines)
  -- a line with a prompt in it
  | detect line lines prompt => exact .goesRound (.telling _) (.finding _ lines)
  | repeated text lines => exact .goesRound (.finding text lines) (.telling lines)
  | opened text lines => exact .goesRound (.finding text lines) (.showing text lines)
  | unrepresentable text lines => exact .givesUp (.finding text lines) .detaching
  | showPrompt text lines => exact .goesRound (.showing text lines) (.answering lines)
  | leaveOpen lines => exact .goesRound (.answering lines) (.telling lines)
  | answer lines => exact .goesRound (.answering lines) (.noting lines)
  | tellAnswer lines => exact .goesRound (.noting lines) (.telling lines)
  -- the checks, each of which goes on with the round or decides
  | flush => exact .goesRound (.telling []) .checkingStop
  | notAsked => exact .goesRound .checkingStop .checkingPrompt
  | asked => exact .decides _ .checkingStop .terminating
  | notExpired => exact .goesRound .checkingPrompt .checkingTime
  | expired => exact .decides _ .checkingPrompt .terminating
  | inTime => exact .goesRound .checkingTime .checkingChild
  | tooLate => exact .decides _ .checkingTime .terminating
  | polled => exact .goesRound .checkingChild .checkingEnd
  | lost => exact .decides _ .checkingChild .terminating
  | goOn => exact .goesRound .checkingEnd .listening
  | completed => exact .decides _ .checkingEnd .finishing
  -- the way to the end: the process, and then the output that is left
  | terminate moment outcome => exact .goesOn outcome .terminating (.awaiting moment)
  | leaveEnded outcome => exact .goesOn outcome .terminating .draining
  | await moment deadline outcome =>
    exact .goesOn outcome (.awaiting deadline) (.resting moment deadline)
  | awaited deadline outcome => exact .goesOn outcome (.awaiting deadline) .draining
  | kill deadline outcome => exact .goesOn outcome (.awaiting deadline) .reaping
  | letLive deadline outcome => exact .goesOn outcome (.awaiting deadline) .draining
  | rest moment deadline outcome =>
    exact .goesOn outcome (.resting moment deadline) (.awaiting deadline)
  | reap outcome => exact .goesOn outcome .reaping .draining
  | drain deadline outcome => exact .goesOn outcome .draining (.tellingLate [] deadline)
  | drainOn deadline quantum outcome =>
    exact .goesOn outcome (.tellingLate [] deadline) (.taking deadline quantum)
  | drained deadline outcome => exact .goesOn outcome (.tellingLate [] deadline) .finishing
  | takeLate lines deadline quantum outcome =>
    exact .goesOn outcome (.taking deadline quantum) (.tellingLate lines deadline)
  | takeLater deadline quantum outcome =>
    exact .goesOn outcome (.taking deadline quantum) (.tellingLate [] deadline)
  | takeLast deadline quantum outcome => exact .goesOn outcome (.taking deadline quantum) .finishing
  | narrateLate line lines deadline outcome =>
    exact .goesOn outcome (.tellingLate _ deadline) (.tellingLate lines deadline)
  -- telling what is left to tell, and freeing the supervisor
  | flushLast outcome => exact .goesOn outcome .finishing .detaching
  | detach outcome => exact .goesOn outcome .detaching .settling
  | settle outcome => exact .goesOn outcome .settling .concluding
  | conclude outcome => exact .concludes outcome rfl rfl
  -- the way of a run that has collapsed
  | detachGivenUp => exact .goesDown .detaching .settling
  | settleGivenUp => exact .goesDown .settling .collapsing
  | collapse => exact .collapses rfl rfl

/-- What follows a phase is a phase. -/
theorem Course.phase {before after : List Task} (h : Course before after) : Phase after := by
  cases h with
  | goesRound _ h => exact .undecided h
  | decides outcome _ h | goesOn outcome _ h => exact .decided outcome h
  | givesUp _ h | goesDown _ h => exact .givenUp h
  | concludes _ _ h | collapses _ h => exact .ended h

/-- A run that leaves its loop never comes back. -/
theorem Course.undecided {before after : List Task} (h : Course before after)
    (hafter : Undecided after) : Undecided before := by
  cases h with
  | goesRound h _ => exact h
  | decides outcome h _ | givesUp h _ => exact h
  | goesOn outcome _ h | goesDown _ h =>
    have hnone := hafter.outcome?_eq
    rw [h.outcome?_eq] at hnone
    exact absurd hnone nofun
  | concludes _ _ h | collapses _ h => exact absurd h hafter.ne_nil

/-- A run is over when its outcome was told, or when it gave up. -/
theorem Course.ends {before : List Task} (h : Course before []) :
    (∃ outcome, before = [.conclude outcome]) ∨ before = [.collapse collapsed] := by
  cases h with
  | goesRound _ h => exact absurd rfl h.ne_nil
  | decides outcome _ h | goesOn outcome _ h => exact absurd h.outcome?_eq nofun
  | givesUp _ h | goesDown _ h => exact absurd h.outcome?_eq nofun
  | concludes outcome h _ => exact .inl ⟨outcome, h⟩
  | collapses h _ => exact .inr h

/-- An outcome that was decided on stays until the run is over. -/
theorem Course.outcome?_eq {before after : List Task} {outcome : Outcome} (h : Course before after)
    (hbefore : outcome? before = some outcome) : after = [] ∨ outcome? after = some outcome := by
  cases h with
  | goesRound h _ | decides _ h _ | givesUp h _ =>
    rw [h.outcome?_eq] at hbefore
    exact absurd hbefore nofun
  | goesOn other h h' =>
    rw [h.outcome?_eq] at hbefore
    exact .inr (h'.outcome?_eq.trans hbefore)
  | goesDown h h' =>
    rw [h.outcome?_eq] at hbefore
    exact .inr (h'.outcome?_eq.trans hbefore)
  | concludes _ _ h | collapses _ h => exact .inl h

/-- The ways out of the loop, each with the outcome that it leads to. -/
inductive Decides {σ : Type} (s : Supervisor) (w : Worker σ) (seen : Observation) :
    List Task → List Task → Outcome → Prop where
  | asked :
      s.stopRequested w.ticket = true →
      Decides s w seen [.checkStop, .checkPrompt, .checkTime, .checkChild, .checkEnd]
        [.terminate .terminated] .terminated
  | expired (wait : PromptWait) :
      (s.relay.takeExpired seen.now).1 = some wait →
      Decides s w seen [.checkPrompt, .checkTime, .checkChild, .checkEnd]
        [.terminate (.timedOut .prompt)] (.timedOut .prompt)
  | tooLate :
      w.startedAt + w.command.timeout ≤ seen.now →
      Decides s w seen [.checkTime, .checkChild, .checkEnd] [.terminate (.timedOut .execution)]
        (.timedOut .execution)
  | lost (reason : String) :
      w.exited = none → seen.child = .unknown reason →
      Decides s w seen [.checkChild, .checkEnd]
        [.terminate (.failed ("failed to poll child: " ++ reason))]
        (.failed ("failed to poll child: " ++ reason))
  | completed (code : Int) (noticed : Nat) :
      w.exited = some (code, noticed) → s.relay.outstanding = false →
      w.reader.closed = true ∨ noticed + s.tuning.gracePeriod ≤ seen.now →
      Decides s w seen [.checkEnd] (finishing (.completed code)) (.completed code)
  | unrepresentable (text : String) (lines : List String) :
      s.relay.openWait? text seen.now w.command.promptTimeout = none →
      Decides s w seen (.openWait text :: telling lines)
        [.detach, .settle collapsed, .collapse collapsed] collapsed

/-- A step that leads to an outcome where there was none leaves the loop. -/
theorem Next.decides {σ : Type} {s : Supervisor} {w : Worker σ} {seen : Observation}
    {before after : List Task} {outcome : Outcome} (h : Next s w seen before after)
    (hbefore : outcome? before = none) (hafter : outcome? after = some outcome) :
    Decides s w seen before after outcome := by
  cases h with
  | asked hasked =>
    cases hafter
    exact .asked hasked
  | expired wait hexpired =>
    cases hafter
    exact .expired wait hexpired
  | tooLate hlate =>
    cases hafter
    exact .tooLate hlate
  | lost reason hexited hchild =>
    cases hafter
    exact .lost reason hexited hchild
  | completed code noticed hexited hidle hend =>
    cases hafter
    exact .completed code noticed hexited hidle hend
  | unrepresentable text lines hnone =>
    cases hafter
    exact .unrepresentable text lines hnone
  -- everything else leaves the loop before or stays in it
  | take | narrate | repeated | leaveOpen | tellAnswer | detect | opened | showPrompt | answer =>
    cases (outcome?_telling _).symm.trans hafter
  | drainOn | drained | narrateLate => cases (outcome?_tellingLate _ _ _).symm.trans hbefore
  | _ => first | (cases hbefore; done) | cases hafter

/-- A run gives up because the clock cannot show when a wait would expire. -/
theorem Next.of_givenUp {σ : Type} {s : Supervisor} {w : Worker σ} {seen : Observation}
    {before after : List Task} (h : Next s w seen before after) (hafter : GivenUp after) :
    GivenUp before ∨ ∃ text lines, before = .openWait text :: telling lines ∧
      s.relay.openWait? text seen.now w.command.promptTimeout = none := by
  have houtcome := hafter.outcome?_eq
  cases h with
  | unrepresentable text lines hnone => exact .inr ⟨text, lines, rfl, hnone⟩
  | detachGivenUp => exact .inl .detaching
  | settleGivenUp => exact .inl .settling
  | take | narrate | repeated | leaveOpen | tellAnswer | detect | opened | showPrompt | answer =>
    exact absurd ((outcome?_telling _).symm.trans houtcome) nofun
  | takeLate lines | narrateLate line lines => cases lines <;> cases hafter
  | _ => cases hafter

/-- The outcome is told when it was settled. -/
theorem Next.of_concluding {σ : Type} {s : Supervisor} {w : Worker σ} {seen : Observation}
    {before : List Task} {outcome : Outcome} (h : Next s w seen before [.conclude outcome]) :
    before = [.settle outcome, .conclude outcome] := by
  generalize hafter : [Task.conclude outcome] = after at h
  cases h with
  | settle other =>
    cases hafter
    rfl
  | take | narrate | repeated | leaveOpen | tellAnswer =>
    have hnone := (congrArg Agenda.outcome? hafter).trans (outcome?_telling _)
    exact absurd hnone nofun
  | takeLate lines | narrateLate line lines => cases lines <;> cases hafter
  | _ => cases hafter

/-- The supervisor is freed by the task that settles the outcome. -/
theorem Next.of_settled {σ : Type} {s : Supervisor} {w : Worker σ} {seen : Observation}
    {before after : List Task} (h : Next s w seen before after)
    (hbefore : before.all Task.isLast = false) (hafter : after.all Task.isLast = true) :
    ∃ outcome rest, before = .settle outcome :: rest := by
  cases h with
  | settle outcome => exact ⟨outcome, _, rfl⟩
  | settleGivenUp => exact ⟨collapsed, _, rfl⟩
  | conclude | collapse => cases hbefore
  | take | narrate | repeated | leaveOpen | tellAnswer =>
    rw [(Undecided.telling _).not_all_isLast] at hafter
    cases hafter
  | takeLate lines | narrateLate line lines => cases lines <;> cases hafter
  | _ => cases hafter

/-- Nothing leads back to the start. -/
theorem Next.not_starting {σ : Type} {s : Supervisor} {w : Worker σ} {seen : Observation}
    {before after : List Task} (h : Next s w seen before after) : after ≠ [.start, .listen] := by
  intro hafter
  cases h with
  | take => cases hlines : found s.tuning w.reader <;> rw [hlines] at hafter <;> cases hafter
  | narrate line lines | repeated text lines | leaveOpen lines | tellAnswer lines | takeLate lines
    | narrateLate line lines => cases lines <;> cases hafter
  | _ => cases hafter

end Agenda

/-! ## Section 4: Steps of a worker

The relation is shown to cover every step, phase by phase.  Here, and only here, the tasks of a
worker are opened for what they put on the agenda. -/

namespace Worker

open Agenda

variable {σ : Type} [Sink σ] {s : Supervisor} {w : Worker σ} {seen : Observation}

/-- The outcome that a worker has decided on. -/
def verdict? (w : Worker σ) : Option Outcome := Agenda.outcome? w.agenda

theorem step_cons {task : Task} {rest : List Task} (h : w.agenda = task :: rest) :
    step s w seen = perform s { w with agenda := rest } seen task := by
  rw [step, h]

omit [Sink σ] in
theorem published_cons {task : Task} {rest : List Task} (h : w.agenda = task :: rest) :
    published s w seen = narration s { w with agenda := rest } seen task := by
  rw [published, h]

/-- A run that is over stays as it is. -/
theorem step_over (s : Supervisor) (seen : Observation) (h : w.agenda = []) :
    step s w seen = ⟨s, w, [], none⟩ := by
  rw [step, h]

/-- **What a step does to what is shared**: it settles the outcome, or it touches nothing but the
relay. -/
theorem shared_step (s : Supervisor) (w : Worker σ) (seen : Observation) :
    (∃ outcome, settling? w.agenda = some outcome ∧ (step s w seen).shared = s.finish outcome) ∨
      settling? w.agenda = none ∧ ∃ relay, (step s w seen).shared = { s with relay } := by
  cases hagenda : w.agenda with
  | nil =>
    rw [step_over s seen hagenda]
    exact .inr ⟨rfl, s.relay, rfl⟩
  | cons task rest =>
    rw [step_cons hagenda]
    cases task with
    | settle outcome => exact .inl ⟨outcome, rfl, rfl⟩
    | _ => exact .inr ⟨rfl, shared_perform s _ seen _ nofun⟩

/-- A poll puts the lines that it found on the agenda, or a pause because there are none. -/
theorem next_poll {deadline : Nat} (h : w.agenda = [.poll deadline]) :
    Next s w seen [.poll deadline] (step s w seen).worker.agenda := by
  rw [step_cons h]
  have hfound : (perform s { w with agenda := [] } seen (.poll deadline)).worker.agenda =
      telling (found s.tuning w.reader) ∨
      found s.tuning w.reader = [] ∧
        ∃ moment, (perform s { w with agenda := [] } seen (.poll deadline)).worker.agenda =
          .pause moment :: checks := by
    simp only [perform, pollReader, only, found]
    -- an idle reader is asked for its fragment, which is told if it is a prompt
    cases w.reader.poll.1 with
    | lines lines => exact .inl rfl
    | pending => exact .inl rfl
    | closed => exact .inr ⟨rfl, _, rfl⟩
    | idle =>
      refine .inl ?_
      by_cases hprompt : w.reader.poll.2.fragment?.any s.tuning.patterns.detects = true
      · simp only [hprompt, if_true]
        rfl
      · simp only [hprompt, if_false, Bool.false_eq_true]
        rfl
  rcases hfound with hfound | ⟨hnone, moment, hfound⟩
  · rw [hfound]
    exact .take deadline
  · rw [hfound]
    exact .takeNothing deadline moment hnone

/-- The check of the end goes on listening, or completes the run. -/
theorem next_checkEnd (h : w.agenda = [.checkEnd]) :
    Next s w seen [.checkEnd] (step s w seen).worker.agenda := by
  rw [step_cons h]
  simp only [perform, decideEnd]
  cases hexited : w.exited with
  | none => exact .goOn (by simp [hexited])
  | some ending =>
    -- a prompt that waits, open output and the grace period keep the run from its end
    obtain ⟨code, noticed⟩ := ending
    cases houtstanding : s.relay.outstanding with
    | true => exact .goOn fun _ _ _ => .inl houtstanding
    | false =>
      cases hclosed : w.reader.closed with
      | true => exact .completed code noticed hexited houtstanding (.inl hclosed)
      | false =>
        by_cases hgrace : noticed + s.tuning.gracePeriod ≤ seen.now
        · simp only [Bool.false_eq_true, if_false, hgrace, if_true]
          exact .completed code noticed hexited houtstanding (.inr hgrace)
        · simp only [Bool.false_eq_true, if_false, hgrace]
          refine .goOn fun code' noticed' hexited' => .inr ⟨hclosed, ?_⟩
          cases hexited.symm.trans hexited'
          exact Nat.lt_of_not_le hgrace

/-- **A round of the loop** leads to the agenda that follows. -/
theorem next_undecided (s : Supervisor) (seen : Observation) (h : Undecided w.agenda) :
    Next s w seen w.agenda (step s w seen).worker.agenda := by
  generalize hagenda : w.agenda = agenda at h
  -- each shape begins with one task, and each way through that task is one constructor
  cases h with
  | starting =>
    rw [step_cons hagenda]
    exact .start
  | listening =>
    rw [step_cons hagenda]
    exact .listen _
  | polling deadline =>
    exact next_poll hagenda
  | pausing deadline =>
    rw [step_cons hagenda]
    exact .pause deadline
  | telling lines =>
    cases lines with
    | nil =>
      rw [step_cons hagenda]
      simp only [perform, foldl_tellNotice, tellAll]
      exact .flush
    | cons line lines =>
      rw [step_cons hagenda]
      simp only [perform, first]
      cases hdetect : s.tuning.patterns.detect line with
      | none => exact .narrate line lines hdetect
      | some prompt => exact .detect line lines prompt hdetect
  | finding text lines =>
    rw [step_cons hagenda]
    simp only [perform]
    split
    · next hopen => exact .unrepresentable text lines hopen
    · next opened relay hopen =>
      cases opened with
      | true => exact .opened text lines relay hopen
      | false => exact .repeated text lines relay hopen
  | showing text lines =>
    rw [step_cons hagenda]
    exact .showPrompt text lines
  | answering lines =>
    rw [step_cons hagenda]
    simp only [perform]
    split
    · next hauto => exact .leaveOpen lines hauto
    · next a hauto => exact .answer lines a hauto
  | noting lines =>
    rw [step_cons hagenda]
    simp only [perform, foldl_tellNotice, tellAll]
    exact .tellAnswer lines
  | checkingStop =>
    rw [step_cons hagenda]
    simp only [perform]
    split
    · next hasked => exact .asked hasked
    · next hasked => exact .notAsked (Bool.eq_false_iff.mpr hasked)
  | checkingPrompt =>
    rw [step_cons hagenda]
    simp only [perform]
    split
    · next hnone => exact .notExpired (congrArg Prod.fst hnone)
    · next wait relay hsome => exact .expired wait (congrArg Prod.fst hsome)
  | checkingTime =>
    rw [step_cons hagenda]
    simp only [perform]
    split
    · next hlate => exact .tooLate hlate
    · next hlate => exact .inTime (Nat.lt_of_not_le hlate)
  | checkingChild =>
    rw [step_cons hagenda]
    simp only [perform]
    split
    · next hexited =>
      refine .polled fun reason hnone => ?_
      rw [hnone] at hexited
      cases hexited
    · next hexited =>
      have hnone : w.exited = none := by simpa using hexited
      split
      · next hchild => exact .polled fun reason _ => by simp [hchild]
      · next code hchild => exact .polled fun reason _ => by simp [hchild]
      · next reason hchild => exact .lost reason hnone hchild
  | checkingEnd =>
    exact next_checkEnd hagenda

/-- **The way to the end** leads to the agenda that follows. -/
theorem next_decided {outcome : Outcome} (s : Supervisor) (seen : Observation)
    (h : Decided outcome w.agenda) : Next s w seen w.agenda (step s w seen).worker.agenda := by
  generalize hagenda : w.agenda = agenda at h
  cases h with
  | terminating =>
    rw [step_cons hagenda]
    simp only [perform]
    split
    · next hchild => exact .terminate _ outcome hchild
    · next hchild => exact .leaveEnded outcome hchild
  | awaiting deadline =>
    rw [step_cons hagenda]
    simp only [perform]
    -- within the patience of the worker it looks after the process, and then it kills it if it can
    split
    · next hnow =>
      split
      · next hchild => exact .await _ deadline outcome hnow hchild
      · next hchild => exact .awaited deadline outcome hnow hchild
    · next hnow =>
      split
      · next hchild => exact .letLive deadline outcome _ (Nat.le_of_not_lt hnow) hchild
      · next hchild => exact .kill deadline outcome (Nat.le_of_not_lt hnow) hchild
  | resting moment deadline =>
    rw [step_cons hagenda]
    exact .rest moment deadline outcome
  | reaping =>
    rw [step_cons hagenda]
    exact .reap outcome
  | draining =>
    rw [step_cons hagenda]
    exact .drain _ outcome
  | taking deadline quantum =>
    rw [step_cons hagenda]
    simp only [perform]
    -- lines, a quantum without any, or the end of the output, seen or given up
    split
    · next lines hpoll => exact .takeLate lines deadline quantum outcome hpoll
    · next hpoll => exact .takeLater deadline quantum outcome hpoll
    · next hpoll => exact .takeLast deadline quantum outcome (.inl hpoll)
    · next hpoll => exact .takeLast deadline quantum outcome (.inr hpoll)
  | tellingLate lines deadline =>
    -- late lines are told first, and then comes the next look at the clock
    cases lines with
    | nil =>
      rw [step_cons hagenda]
      simp only [perform]
      split
      · next hnow => exact .drainOn deadline _ outcome hnow
      · next hnow => exact .drained deadline outcome (Nat.le_of_not_lt hnow)
    | cons line lines =>
      rw [step_cons hagenda]
      exact .narrateLate line lines deadline outcome
  | finishing =>
    rw [step_cons hagenda]
    simp only [perform, foldl_tellNotice, tellAll]
    exact .flushLast outcome
  | detaching =>
    rw [step_cons hagenda]
    exact .detach outcome
  | settling =>
    rw [step_cons hagenda]
    exact .settle outcome
  | concluding =>
    rw [step_cons hagenda]
    exact .conclude outcome

/-- A worker that could not go on leads its run to the end. -/
theorem next_givenUp (s : Supervisor) (seen : Observation) (h : GivenUp w.agenda) :
    Next s w seen w.agenda (step s w seen).worker.agenda := by
  generalize hagenda : w.agenda = agenda at h
  cases h with
  | detaching =>
    rw [step_cons hagenda]
    exact .detachGivenUp
  | settling =>
    rw [step_cons hagenda]
    exact .settleGivenUp
  | collapsing =>
    rw [step_cons hagenda]
    exact .collapse

/-- **Every step** of a run that is not over leads to the agenda that follows.  Whoever needs the
agenda of the next step looks at the cases of that relation, and never at the tasks themselves. -/
theorem next_step (s : Supervisor) (seen : Observation) (h : Phase w.agenda)
    (hne : w.agenda ≠ []) : Next s w seen w.agenda (step s w seen).worker.agenda := by
  cases h with
  | undecided h => exact next_undecided s seen h
  | decided outcome h => exact next_decided s seen h
  | givenUp h => exact next_givenUp s seen h
  | ended h => exact absurd h hne

/-- A worker that has freed the supervisor never takes it back. -/
theorem live_of_step (h : Phase w.agenda) (hlive : (step s w seen).worker.isSettled = false) :
    w.isSettled = false := by
  cases hsettled : w.isSettled with
  | false => rfl
  | true =>
    have hafter := (settled_step s seen (h.settled hsettled)).2.all_isLast
    exact absurd (hafter.symm.trans hlive) nofun

/-- A worker that goes round its loop after a step went round it before. -/
theorem undecided_of_step (h : Phase w.agenda) (hafter : Undecided (step s w seen).worker.agenda) :
    Undecided w.agenda := by
  by_cases hover : w.agenda = []
  · rw [step_over s seen hover] at hafter
    exact hafter
  · exact (next_step s seen h hover).course.undecided hafter

theorem phase_step (s : Supervisor) (seen : Observation) (h : Phase w.agenda) :
    Phase (step s w seen).worker.agenda := by
  by_cases hne : w.agenda = []
  · rw [step_over s seen hne]
    exact h
  · exact (next_step s seen h hne).course.phase

end Worker

end Overseer
