import Overseer.Proofs.Relay.Supply
import Overseer.Proofs.Supervisor.Chronicle

/-!
# Reading a Log

What a run did is read off its log: the events that it published, the lines that its reader handed
out, the answers that were supplied, the outcome that it decided on.  Each of these is a function
of one deed, and of a log deed by deed.

- `Chronicle.told`, `Chronicle.handed`: events and lines
- `Worker.relay_perform`: what a task does to the relay
- `Deed.decision?`: the step that decides on an outcome
- `Chronicle.lasting_oneWorker`: a run keeps its command, ticket, process and start
-/

namespace Overseer

open Agenda

variable {σ : Type} [Sink σ]

/-! ## Section 1: Deeds

A deed has the state before it and what was seen, so everything that it did can be computed from it.
Nothing has to be remembered beside the log. -/

namespace Worker

/-- The lines that the reader hands out in the next step. -/
def handed (tuning : Tuning) (w : Worker σ) : List String :=
  match w.agenda with
  | .poll _ :: _ => found tuning w.reader
  | .drainPoll .. :: _ =>
    match w.reader.poll.1 with
    | .lines lines => lines
    | _ => []
  | _ => []

/-- What the next step supplies to the relay, if it is the answer given beforehand. -/
def supply? (s : Supervisor) (w : Worker σ) (seen : Observation) : Option Relay.Supplied :=
  match w.agenda with
  | .autoAnswer :: _ => w.command.autoAnswer.map fun a => s.relay.supply a seen.replies
  | _ => none

end Worker

namespace Deed

/-- The events that the run publishes. -/
def told : Deed σ → List Event
  | .worked s w seen => Worker.published s w seen
  | .answered .. => []

/-- The lines that the reader of the run hands out. -/
def handed : Deed σ → List String
  | .worked s w _ => w.handed s.tuning
  | .answered .. => []

/-- What is supplied to the relay. -/
def supply? : Deed σ → Option Relay.Supplied
  | .worked s w seen => w.supply? s seen
  | .answered relay a replies => some (relay.supply a replies)

/-- The relay as the deed finds it. -/
def relay : Deed σ → Relay
  | .worked s _ _ => s.relay
  | .answered relay _ _ => relay

/-- The sinks as the worker finds them. -/
def fanout? : Deed σ → Option (Fanout σ)
  | .worked _ w _ => some w.fanout
  | .answered .. => none

/-- The task that the worker does. -/
def task? : Deed σ → Option Task
  | .worked _ w _ => w.agenda.head?
  | .answered .. => none

/-- Whether the clock can show when the wait expires that the worker wants to open. -/
def IsRepresentable : Deed σ → Prop
  | .worked s w seen => ∀ text, w.agenda.head? = some (.openWait text) →
    (s.relay.openWait? text seen.now w.command.promptTimeout).isSome = true
  | .answered .. => True

/-- The outcome that the worker decides on. -/
def decision? : Deed σ → Option Outcome
  | .worked s w seen => if w.verdict? = none then (w.step s seen).worker.verdict? else none
  | .answered .. => none

/-- The outcome that is stored when the run frees the supervisor. -/
def stored? : Deed σ → Option Outcome
  | .worked s w seen =>
    match s.activity, (w.step s seen).shared.activity with
    | .running .., .finished outcome => some outcome
    | _, _ => none
  | .answered .. => none

/-- A step decides on an outcome when it leaves the loop. -/
theorem decision?_worked_iff {s : Supervisor} {w : Worker σ} {seen : Observation}
    {outcome : Outcome} :
    (Deed.worked s w seen).decision? = some outcome ↔
      w.verdict? = none ∧ (w.step s seen).worker.verdict? = some outcome := by
  rw [decision?, Option.ite_none_right_eq_some]

end Deed

/-! ## Section 2: Logs

The readings of a log are lists, one deed after the other, so that a lemma about one deed gives the
lemma about a log with that deed at its end. -/

namespace Chronicle

/-- The events that a run published. -/
def told (log : List (Deed σ)) : List Event := log.flatMap Deed.told

/-- The lines that the reader of a run handed out. -/
def handed (log : List (Deed σ)) : List String := log.flatMap Deed.handed

/-- The outcomes that were stored when a run freed the supervisor. -/
def stored (log : List (Deed σ)) : List Outcome := log.filterMap Deed.stored?

/-- The clock could show every moment at which a wait of the run would expire. -/
def Representable (log : List (Deed σ)) : Prop := ∀ e ∈ log, e.IsRepresentable

omit [Sink σ] in
@[simp] theorem told_concat (log : List (Deed σ)) (e : Deed σ) :
    told (log ++ [e]) = told log ++ e.told := by
  rw [told, List.flatMap_append, List.flatMap_singleton, told]

omit [Sink σ] in
/-- Who answers tells nothing. -/
theorem told_answered (log : List (Deed σ)) (relay : Relay) (answer : Answer)
    (replies : PipeReplies) : told (log ++ [.answered relay answer replies]) = told log := by
  rw [told_concat]
  exact List.append_nil _

omit [Sink σ] in
@[simp] theorem handed_concat (log : List (Deed σ)) (e : Deed σ) :
    handed (log ++ [e]) = handed log ++ e.handed := by
  rw [handed, List.flatMap_append, List.flatMap_singleton, handed]

@[simp] theorem stored_concat (log : List (Deed σ)) (e : Deed σ) :
    stored (log ++ [e]) = stored log ++ e.stored?.toList := by
  rw [stored, List.filterMap_append, stored]
  cases hstored : e.stored? <;> simp [hstored]

theorem stored_answered (log : List (Deed σ)) (relay : Relay) (answer : Answer)
    (replies : PipeReplies) : stored (log ++ [.answered relay answer replies]) = stored log := by
  rw [stored_concat]
  exact List.append_nil _

theorem forall_mem_concat {α : Type} {log : List α} {e : α} {P : α → Prop} :
    (∀ e' ∈ log ++ [e], P e') ↔ (∀ e' ∈ log, P e') ∧ P e := by
  simp only [List.mem_append, List.mem_singleton, or_imp, forall_and, forall_eq]

/-- What holds wherever a list is cut holds of the list with one more element if it holds of the
cuts before, with that element behind, and of the cut at the element itself. -/
theorem forall_cut_concat {α : Type} {log : List α} {last : α} {P : List α → α → List α → Prop} :
    (∀ before e after, log ++ [last] = before ++ e :: after → P before e after) ↔
      (∀ before e after, log = before ++ e :: after → P before e (after ++ [last])) ∧
        P log last [] := by
  constructor
  · intro h
    refine ⟨fun before e after hlog => h before e (after ++ [last]) ?_, h log last [] rfl⟩
    rw [hlog, List.append_assoc, List.cons_append]
  · rintro ⟨hbefore, hlast⟩ before e after hlog
    -- the longer list is cut at its last element, or before it
    rcases List.eq_nil_or_concat after with rfl | ⟨after', last', rfl⟩
    · obtain ⟨rfl, hcut⟩ := List.append_inj' hlog rfl
      cases hcut
      exact hlast
    · rw [List.concat_eq_append] at hlog ⊢
      rw [← List.cons_append, ← List.append_assoc] at hlog
      obtain ⟨hlog', hcut⟩ := List.append_inj' hlog rfl
      cases hcut
      exact hbefore before e after' hlog'

end Chronicle

/-- What an invariant says of each step when it is taken, it says of every step of a log. -/
theorem Lasting.recorded {tuning : Tuning} {I : Supervisor → Worker σ → List (Deed σ) → Prop}
    {P : List (Deed σ) → Supervisor → Worker σ → Observation → Prop} (hI : Lasting tuning I)
    (hP : ∀ s w log seen, Attending tuning s w → I s w log → P log s w seen) :
    Lasting tuning fun s w log => I s w log ∧ ∀ before e after, log = before ++ e :: after →
      ∀ s' w' seen, e = .worked s' w' seen → P before s' w' seen where
  begins s w hs hw := ⟨hI.begins s w hs hw, fun before e after hlog => absurd hlog (by simp)⟩
  works s w log seen ha h := by
    refine ⟨hI.works s w log seen ha h.1, Chronicle.forall_cut_concat.mpr ⟨h.2, ?_⟩⟩
    -- the new step is judged by the log that stood before it
    intro s' w' seen' hdeed
    cases hdeed
    exact hP s w log seen ha h.1
  arrives s w log arrival h := ⟨hI.arrives s w log arrival h.1, h.2⟩
  answers s w log answer replies hlive h :=
    ⟨hI.answers s w log answer replies hlive h.1,
      -- an answer is not a step, so it adds nothing to judge
      Chronicle.forall_cut_concat.mpr ⟨h.2, fun s' w' seen hdeed => absurd hdeed nofun⟩⟩
  asks s w log ticket h := ⟨hI.asks s w log ticket h.1, h.2⟩
  leaves s s' w log hsettled h := ⟨hI.leaves s s' w log hsettled h.1, h.2⟩

/-- A property of the worker and the log lasts beside one that its steps rest on. -/
theorem Lasting.beside {tuning : Tuning} {I : Supervisor → Worker σ → List (Deed σ) → Prop}
    {J : Worker σ → List (Deed σ) → Prop} (hI : Lasting tuning I)
    (hbegins : ∀ w, w.Fresh tuning → J w [])
    (hworks : ∀ s w log seen, Attending tuning s w → I s w log → J w log →
      J (w.step s seen).worker (log ++ [.worked s w seen]))
    (harrives : ∀ w log arrival, J w log → J (w.arrive arrival) log)
    (hanswers : ∀ relay w log answer replies, J w log →
      J w (log ++ [.answered relay answer replies])) :
    Lasting tuning fun s w log => I s w log ∧ J w log where
  begins s w hs hfresh := ⟨hI.begins s w hs hfresh, hbegins w hfresh⟩
  -- the steps of the second property may use the first one, not the other way round
  works s w log seen ha h := ⟨hI.works s w log seen ha h.1, hworks s w log seen ha h.1 h.2⟩
  arrives s w log arrival h := ⟨hI.arrives s w log arrival h.1, harrives w log arrival h.2⟩
  answers s w log answer replies hlive h :=
    ⟨hI.answers s w log answer replies hlive h.1, hanswers s.relay w log answer replies h.2⟩
  asks s w log ticket h := ⟨hI.asks s w log ticket h.1, h.2⟩
  leaves s s' w log hsettled h := ⟨hI.leaves s s' w log hsettled h.1, h.2⟩

/-! ## Section 3: What becomes of the relay

The relay is what workers and callers have in common.  The five tasks that touch it are told apart
once, here; everything that is said later about waits, notices and answers goes back to this. -/

/-- Where no wait has expired the relay stays as it is. -/
theorem Relay.takeExpired_of_none {r : Relay} {now : Nat} (h : (r.takeExpired now).1 = none) :
    (r.takeExpired now).2 = r := by
  simp only [takeExpired] at h ⊢
  split
  · rfl
  · next w hwait =>
    rw [hwait] at h
    split
    · next hexpired =>
      simp only [hexpired, if_true] at h
      exact absurd h nofun
    · rfl

theorem Relay.outstanding_detach {r : Relay} : r.detach.outstanding = false := by
  cases hidle : r.outstanding with
  | false =>
    rw [detach, hidle, if_neg Bool.false_ne_true]
    exact hidle
  | true =>
    rw [detach, hidle, if_pos rfl]
    rfl

namespace Worker

/-- The relay after a task that was taken off the agenda. -/
def relayAfter (s : Supervisor) (w : Worker σ) (seen : Observation) : Task → Relay
  | .openWait text =>
    match s.relay.openWait? text seen.now w.command.promptTimeout with
    | some (_, relay) => relay
    | none => s.relay
  | .autoAnswer =>
    match w.command.autoAnswer with
    | some a => (s.relay.supply a seen.replies).relay
    | none => s.relay
  | .flush => s.relay.takeNotices.2
  | .checkPrompt => (s.relay.takeExpired seen.now).2
  | .detach => s.relay.detach
  | _ => s.relay

/-- **What a task does to the relay**: five tasks touch it, each in one way.  Invariants of the
relay need a case for each of these and one for all others. -/
theorem relay_perform (s : Supervisor) (w : Worker σ) (seen : Observation) (task : Task) :
    (perform s w seen task).shared.relay = relayAfter s w seen task := by
  cases task with
  -- a wait that does not fit into the clock leaves the relay as it was
  | openWait text =>
    simp only [perform, relayAfter]
    cases s.relay.openWait? text seen.now w.command.promptTimeout <;> rfl
  | autoAnswer =>
    simp only [perform, relayAfter]
    cases w.command.autoAnswer <;> rfl
  | checkPrompt =>
    simp only [perform, relayAfter]
    split
    · next hnone =>
      -- no wait has expired, so taking it off changes nothing
      rw [Relay.takeExpired_of_none (congrArg Prod.fst hnone)]
    · next hsome => rw [hsome]
  -- from here on the task looks at other things than the relay
  | checkChild =>
    simp only [perform, relayAfter]
    split
    · rfl
    · split <;> rfl
  | terminate outcome =>
    simp only [perform, relayAfter]
    split <;> rfl
  | awaitEnd deadline outcome =>
    simp only [perform, relayAfter]
    split <;> split <;> rfl
  | drainUntil deadline outcome =>
    simp only [perform, relayAfter]
    split <;> rfl
  | drainPoll deadline quantum outcome =>
    simp only [perform, relayAfter]
    split <;> rfl
  | _ => rfl

theorem relay_step {s : Supervisor} {w : Worker σ} {task : Task} {rest : List Task}
    (seen : Observation) (hagenda : w.agenda = task :: rest) :
    (step s w seen).shared.relay = relayAfter s { w with agenda := rest } seen task := by
  rw [step_cons hagenda, relay_perform]

/-! ## Section 4: What a task may tell

A relation with one case for each thing that may be told is easier to use than the function that
lists it, since a case comes with what the worker saw when it told that. -/

/-- The events that a task may tell. -/
inductive Tells (s : Supervisor) (w : Worker σ) (seen : Observation) : Task → Event → Prop where
  | started : Tells s w seen .start (.started w.pid w.command.display)
  | line (line : String) : Tells s w seen (.narrate line) (.output line)
  | lateLine (line : String) : Tells s w seen (.narrateLate line) (.output line)
  | prompt (text : String) : Tells s w seen (.showPrompt text) (.promptDetected text)
  | notice (notice : Notice) : notice ∈ s.relay.notices → Tells s w seen .flush notice.event
  | expired (wait : PromptWait) :
      Tells s w seen .checkPrompt
        (.error (promptExpiredText wait.text w.command.promptTimeout))
  | tooLate : Tells s w seen .checkTime (.error (timeExceededText w.command.timeout))
  | lost (reason : String) : Tells s w seen .checkChild (.error ("failed to poll child: " ++ reason))
  | held : Tells s w seen .checkEnd (.warning pipeHeldText)
  | finished (outcome : Outcome) : Tells s w seen (.conclude outcome) (.finished outcome)

omit [Sink σ] in
/-- What a task may tell, with its grounds: the cases of `narration` as a relation, so that later
proofs need not open it again. -/
theorem tells_of_mem {s : Supervisor} {w : Worker σ} {seen : Observation} {task : Task} {e : Event}
    (h : e ∈ narration s w seen task) : Tells s w seen task e := by
  cases task with
  -- the lines and prompts are told whatever the step sees
  | start =>
    cases List.mem_singleton.mp h
    exact .started
  | narrate line =>
    cases List.mem_singleton.mp h
    exact .line line
  | narrateLate line =>
    cases List.mem_singleton.mp h
    exact .lateLine line
  | showPrompt text =>
    cases List.mem_singleton.mp h
    exact .prompt text
  | flush =>
    obtain ⟨notice, hnotice, rfl⟩ := List.mem_map.mp h
    exact .notice notice hnotice
  -- the checks tell something only when they find something
  | checkPrompt =>
    simp only [narration] at h
    split at h
    · next wait _ =>
      cases List.mem_singleton.mp h
      exact .expired wait
    · exact absurd h List.not_mem_nil
  | checkTime =>
    simp only [narration] at h
    split at h
    · cases List.mem_singleton.mp h
      exact .tooLate
    · exact absurd h List.not_mem_nil
  | checkChild =>
    simp only [narration] at h
    split at h
    · next reason _ _ =>
      cases List.mem_singleton.mp h
      exact .lost reason
    · exact absurd h List.not_mem_nil
  | checkEnd =>
    simp only [narration] at h
    split at h
    · split at h
      · cases List.mem_singleton.mp h
        exact .held
      · exact absurd h List.not_mem_nil
    · exact absurd h List.not_mem_nil
  | conclude outcome =>
    cases List.mem_singleton.mp h
    exact .finished outcome
  | _ => exact absurd h List.not_mem_nil

end Worker

/-- The task that settles the outcome frees the supervisor. -/
theorem Worker.isSettled_of_settling (s : Supervisor) {w : Worker σ} (seen : Observation)
    {outcome : Outcome} (hphase : Phase w.agenda) (h : settling? w.agenda = some outcome) :
    w.isSettled = false ∧ (step s w seen).worker.isSettled = true ∧ w.verdict? = some outcome := by
  obtain ⟨rest, hagenda⟩ := settling?_eq_some h
  rw [hagenda] at hphase
  refine ⟨by rw [isSettled, hagenda]; rfl, ?_, by rw [verdict?, hagenda]; rfl⟩
  rw [step_cons hagenda]
  rcases hphase.behind.2.1 outcome rfl with rfl | ⟨-, rfl⟩ <;> rfl

/-- The outcome is stored by the task that settles it. -/
theorem Deed.stored?_worked {tuning : Tuning} {s : Supervisor} {w : Worker σ}
    (ha : Attending tuning s w) (seen : Observation) :
    (Deed.worked s w seen).stored? = settling? w.agenda := by
  rcases Worker.shared_step s w seen with ⟨outcome, hsettling, hshared⟩ | ⟨hnone, relay, hshared⟩
  · have hlive := (Worker.isSettled_of_settling s seen ha.phase hsettling).1
    rw [stored?, ha.shown hlive, hshared, hsettling]
    rfl
  · rw [stored?, hshared, hnone]
    cases s.activity <;> rfl

/-- A step after which the run has not freed the supervisor stores nothing. -/
theorem Chronicle.stored_of_live {tuning : Tuning} {s : Supervisor} {w : Worker σ}
    {seen : Observation} {log : List (Deed σ)} (ha : Attending tuning s w)
    (hlive : (w.step s seen).worker.isSettled = false) :
    stored (log ++ [.worked s w seen]) = stored log := by
  rw [stored_concat, Deed.stored?_worked ha]
  cases hsettling : settling? w.agenda with
  | none => exact List.append_nil _
  | some outcome =>
    have hsettled := (Worker.isSettled_of_settling s seen ha.phase hsettling).2.1
    exact absurd (hsettled.symm.trans hlive) nofun

/-- A step that decides on an outcome is a step of the loop. -/
theorem Worker.undecided_of_decision {s : Supervisor} {w : Worker σ} {seen : Observation}
    {outcome : Outcome} (hphase : Phase w.agenda)
    (h : (Deed.worked s w seen).decision? = some outcome) : Undecided w.agenda := by
  obtain ⟨hnone, hsome⟩ := Deed.decision?_worked_iff.mp h
  refine hphase.undecided_of_outcome? hnone fun hover => ?_
  rw [step_over s seen hover, hnone] at hsome
  exact absurd hsome nofun

/-- A step that decides on an outcome takes one of the ways out of the loop. -/
theorem Worker.decides_of_decision {s : Supervisor} {w : Worker σ} {seen : Observation}
    {outcome : Outcome} (hphase : Phase w.agenda)
    (h : (Deed.worked s w seen).decision? = some outcome) :
    Decides s w seen w.agenda (step s w seen).worker.agenda outcome := by
  have hundecided := undecided_of_decision hphase h
  obtain ⟨hnone, hsome⟩ := Deed.decision?_worked_iff.mp h
  exact (next_step s seen hphase hundecided.ne_nil).decides hnone hsome

namespace Worker

/-! ## Section 5: The identity of a run

Steps change a worker in many places, but never in those that say which run it belongs to.  With
this the start and the limits of a run can be read off any of its deeds. -/

/-- Two states of the worker of one run. -/
structure SameRun (w w' : Worker σ) : Prop where
  command : w'.command = w.command
  ticket : w'.ticket = w.ticket
  pid : w'.pid = w.pid
  startedAt : w'.startedAt = w.startedAt

theorem sameRun_step (s : Supervisor) (w : Worker σ) (seen : Observation) :
    SameRun (step s w seen).worker w := by
  obtain ⟨reader, tail, exited, agenda, report, hworker⟩ := worker_step s w seen
  rw [hworker]
  exact ⟨rfl, rfl, rfl, rfl⟩

omit [Sink σ] in
theorem SameRun.trans {w w' w'' : Worker σ} (h : SameRun w w') (h' : SameRun w' w'') :
    SameRun w w'' :=
  ⟨h'.command.trans h.command, h'.ticket.trans h.ticket, h'.pid.trans h.pid,
    h'.startedAt.trans h.startedAt⟩

end Worker

namespace Chronicle

/-- All deeds of a log are about the worker of the run. -/
def OneWorker (w : Worker σ) (log : List (Deed σ)) : Prop :=
  ∀ s w' seen, .worked s w' seen ∈ log → w.SameRun w'

/-- A run keeps its command, its ticket, its process and its start. -/
theorem lasting_oneWorker (tuning : Tuning) :
    Lasting (σ := σ) tuning fun _ w log => OneWorker w log where
  begins s w _ _ s' w' seen h := absurd h List.not_mem_nil
  works s w log seen _ h := by
    have hstep := Worker.sameRun_step s w seen
    intro s' w' seen' hmem
    -- the steps before speak of the same run, and so does the new one
    rcases List.mem_append.mp hmem with hmem | hmem
    · exact hstep.trans (h s' w' seen' hmem)
    · cases List.mem_singleton.mp hmem
      exact hstep
  arrives s w log arrival h s' w' seen hmem := by
    obtain ⟨hcommand, hticket, hpid, hstart⟩ := h s' w' seen hmem
    exact ⟨hcommand, hticket, hpid, hstart⟩
  answers s w log a replies _ h s' w' seen hmem := by
    rcases List.mem_append.mp hmem with hmem | hmem
    · exact h s' w' seen hmem
    · -- an answer is no step of a worker
      cases List.mem_singleton.mp hmem
  asks s w log ticket h := h
  leaves s s' w log _ h := h

end Chronicle

end Overseer
