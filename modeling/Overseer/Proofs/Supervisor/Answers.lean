import Mathlib.Data.List.DropRight
import Overseer.Proofs.Supervisor.Process
import Overseer.Proofs.Supervisor.Story

/-!
# Acknowledged Answers

A caller learns that its answer was written before the run tells so: the relay notes it, and the
worker tells what was noted when it flushes.  After the last flush of a run nobody tells what is
still noted, and the next run forgets it.

- `Chronicle.acknowledged`, `Chronicle.unheard`: answers that callers know of, and those that came
  behind the last flush
- `lasting_heard`: a run has told what was acknowledged before its last flush
- `Chronicle.attended_after`: a prompt waits only while a run is there to tell of it
- `Chronicle.answered_after`: when a run tells every acknowledged answer
- `Chronicle.not_allTold_lateRun`: a run that does not
-/

namespace Overseer

open Agenda

variable {σ : Type} [Sink σ] {tuning : Tuning}

/-! ## Section 1: Answers that are noted and told

The same answer is met three times: when its caller learns that it was written, when the relay notes
it, and when the run tells it.  These are three lists, and the lemmas compare them step by step. -/

/-- The answer that an event tells. -/
def Event.sent? : Event → Option Answer
  | .answerSent answer => some answer
  | _ => none

/-- The answers that events tell. -/
def Event.answers (events : List Event) : List Answer := events.filterMap Event.sent?

theorem Event.answers_append (events later : List Event) :
    answers (events ++ later) = answers events ++ answers later := List.filterMap_append

/-- The answer that a notice is about, if it was sent. -/
def Notice.sent? : Notice → Option Answer
  | .sent answer => some answer
  | .failed .. => none

theorem Event.answers_notices (notices : List Notice) :
    answers (notices.map Notice.event) = notices.filterMap Notice.sent? := by
  rw [answers, List.filterMap_map]
  refine congrArg (fun f => notices.filterMap f) (funext fun notice => ?_)
  cases notice <;> rfl

/-- The answer that a caller learns was written. -/
def Relay.Supplied.acknowledged? (supplied : Relay.Supplied) : Option Answer :=
  match supplied.result with
  | .ok answer => some answer
  | .error _ => none

namespace Relay

/-- The answers that are noted and not told yet. -/
def untold (r : Relay) : List Answer := r.notices.filterMap Notice.sent?

/-- A supply that is acknowledged is noted. -/
theorem untold_supply (r : Relay) (answer : Answer) (replies : PipeReplies) :
    (r.supply answer replies).relay.untold =
      r.untold ++ (r.supply answer replies).acknowledged?.toList := by
  -- nobody waits, or the wait was resolved before: nothing is noted, and nothing is acknowledged
  cases hwait : r.wait with
  | none =>
    rw [supply_noPrompt hwait]
    exact (List.append_nil _).symm
  | some wait =>
    cases hresolved : wait.isResolved with
    | true =>
      rw [supply_alreadyAnswered hwait hresolved]
      exact (List.append_nil _).symm
    | false =>
      simp only [supply, hwait, hresolved, Bool.false_eq_true, if_false]
      -- written or not, what became of the answer is noted; it is acknowledged if it was written
      cases (r.writeAnswer answer replies).failure with
      | none => simp [untold, Supplied.acknowledged?, Notice.sent?]
      | some reason => simp [untold, Supplied.acknowledged?, Notice.sent?]

/-- Only a prompt that waits has its answer acknowledged. -/
theorem outstanding_of_ok {r : Relay} {answer known : Answer} {replies : PipeReplies}
    (h : (r.supply answer replies).result = .ok known) : r.outstanding = true := by
  cases hwait : r.wait with
  | none =>
    rw [supply_noPrompt hwait] at h
    exact absurd h nofun
  | some wait =>
    cases hresolved : wait.isResolved with
    | true =>
      rw [supply_alreadyAnswered hwait hresolved] at h
      exact absurd h nofun
    | false => exact outstanding_iff.mpr ⟨wait, hwait, hresolved⟩

theorem untold_takeExpired (r : Relay) (now : Nat) : (r.takeExpired now).2.untold = r.untold := by
  simp only [takeExpired]
  split
  · rfl
  · split <;> rfl

theorem untold_openWait? {r after : Relay} {text : String} {now timeout : Nat} {opened : Bool}
    (h : r.openWait? text now timeout = some (opened, after)) : after.untold = r.untold := by
  simp only [openWait?] at h
  split at h
  · cases h
    rfl
  · split at h
    · cases h
      rfl
    · cases h

end Relay

namespace Deed

/-- The answer that a caller, or the worker, learns was written. -/
def acknowledged? (e : Deed σ) : Option Answer := e.supply?.bind Relay.Supplied.acknowledged?

/-- Whether the worker tells what was noted. -/
def flushes (e : Deed σ) : Bool := e.task? == some .flush

end Deed

namespace Worker

variable {w : Worker σ}

/-- A step that does not flush tells of no answer, and notes what it acknowledges. -/
theorem untold_step (s : Supervisor) (seen : Observation) (hflush : w.agenda.head? ≠ some .flush) :
    Event.answers (published s w seen) = [] ∧
      (step s w seen).shared.relay.untold =
        s.relay.untold ++ (Deed.worked s w seen).acknowledged?.toList := by
  cases hagenda : w.agenda with
  | nil =>
    rw [step_over s seen hagenda]
    simp [published, hagenda, Event.answers, Deed.acknowledged?, Deed.supply?, supply?]
  | cons task rest =>
    rw [hagenda] at hflush
    constructor
    · -- of what a task may tell, only a notice is about an answer that was sent
      refine List.filterMap_eq_nil_iff.mpr fun e he => ?_
      rw [published_cons hagenda] at he
      cases tells_of_mem he with
      | notice notice _ => exact absurd rfl hflush
      | _ => rfl
    · -- of the tasks that touch the relay, only the answer given beforehand notes something
      rw [relay_step seen hagenda, Deed.acknowledged?, Deed.supply?, supply?, hagenda]
      cases task with
      | flush => exact absurd rfl hflush
      | openWait text =>
        simp only [relayAfter]
        split
        · next opened relay hopen =>
          rw [Relay.untold_openWait? hopen]
          exact (List.append_nil _).symm
        · exact (List.append_nil _).symm
      | autoAnswer =>
        simp only [relayAfter]
        cases w.command.autoAnswer with
        | none => exact (List.append_nil _).symm
        | some a => exact Relay.untold_supply s.relay a seen.replies
      | checkPrompt =>
        simp only [relayAfter]
        rw [Relay.untold_takeExpired]
        exact (List.append_nil _).symm
      | _ => exact (List.append_nil _).symm

end Worker

/-! ## Section 2: What a run has told

Behind a flush nothing is noted; between two flushes answers come in.  So what was acknowledged is
what was told and what is noted, in that order. -/

namespace Chronicle

/-- The answers to a run that were acknowledged. -/
def acknowledged (log : List (Deed σ)) : List Answer := log.filterMap Deed.acknowledged?

/-- The answers that were acknowledged behind the last flush. -/
def unheard (log : List (Deed σ)) : List Answer :=
  acknowledged (log.rtakeWhile fun e => !e.flushes)

omit [Sink σ] in
theorem acknowledged_concat (log : List (Deed σ)) (e : Deed σ) :
    acknowledged (log ++ [e]) = acknowledged log ++ e.acknowledged?.toList := by
  rw [acknowledged, List.filterMap_append, acknowledged]
  cases hacknowledged : e.acknowledged? <;> simp [hacknowledged]

omit [Sink σ] in
theorem unheard_concat (log : List (Deed σ)) (e : Deed σ) :
    unheard (log ++ [e]) = if e.flushes then [] else unheard log ++ e.acknowledged?.toList := by
  rw [unheard, List.rtakeWhile_concat]
  cases hflushes : e.flushes with
  | true => rfl
  | false =>
    simp only [Bool.not_false, if_true, Bool.false_eq_true, if_false]
    exact acknowledged_concat _ e

end Chronicle

/-- The answers that a run has heard of are told, and the others are noted. -/
structure Heard (s : Supervisor) (w : Worker σ) (log : List (Deed σ)) : Prop where
  account : Chronicle.acknowledged log =
    Event.answers (Chronicle.told log) ++ Chronicle.unheard log
  /-- As long as the relay serves the run, it holds what the run has not heard of. -/
  noted : w.isSettled = false → s.relay.untold = Chronicle.unheard log

/-- A flush tells everything that is noted. -/
theorem Heard.flush {s : Supervisor} {w : Worker σ} {log : List (Deed σ)} {rest : List Task}
    (h : Heard s w log) (seen : Observation) (hagenda : w.agenda = .flush :: rest) :
    Heard (w.step s seen).shared (w.step s seen).worker (log ++ [.worked s w seen]) := by
  have hlive : w.isSettled = false := by rw [Worker.isSettled, hagenda]; rfl
  have hflushes : (Deed.worked s w seen).flushes = true := by
    rw [Deed.flushes, Deed.task?, hagenda]
    rfl
  -- the notices of the relay are the answers that nobody has heard of yet
  have htold : Event.answers (Deed.told (.worked s w seen)) = Chronicle.unheard log := by
    rw [Deed.told, Worker.published_cons hagenda, ← h.noted hlive]
    exact Event.answers_notices s.relay.notices
  have hnone : (Deed.worked s w seen).acknowledged? = none := by
    simp only [Deed.acknowledged?, Deed.supply?, Worker.supply?, hagenda]
    rfl
  constructor
  · rw [Chronicle.acknowledged_concat, Chronicle.told_concat, Event.answers_append, htold,
      Chronicle.unheard_concat, if_pos hflushes, hnone, h.account]
    rfl
  · -- behind the flush every answer was heard of
    intro _
    rw [Chronicle.unheard_concat, if_pos hflushes, Worker.relay_step seen hagenda]
    rfl

/-- One step of a worker keeps the account of answers: what was acknowledged is what was told,
followed by what is noted. -/
theorem Heard.step {s : Supervisor} {w : Worker σ} {log : List (Deed σ)} (h : Heard s w log)
    (seen : Observation) (hphase : Phase w.agenda) :
    Heard (w.step s seen).shared (w.step s seen).worker (log ++ [.worked s w seen]) := by
  by_cases hflush : w.agenda.head? = some .flush
  · obtain ⟨rest, hagenda⟩ := List.head?_eq_some_iff.mp hflush
    exact h.flush seen hagenda
  · -- any other step tells of no answer, and what it acknowledges is not heard of yet
    have hflushes : (Deed.worked s w seen).flushes = false := by
      simpa [Deed.flushes, Deed.task?] using hflush
    obtain ⟨hanswers, huntold⟩ := Worker.untold_step s seen hflush
    constructor
    · rw [Chronicle.acknowledged_concat, Chronicle.told_concat, Event.answers_append,
        Chronicle.unheard_concat, hflushes, h.account, Deed.told, hanswers]
      simp
    · intro hlive
      rw [huntold, h.noted (Worker.live_of_step hphase hlive), Chronicle.unheard_concat, hflushes]
      rfl

/-- **A run has told what was acknowledged** before its last flush, in order and each once.  Answers
come in at one end of the notices and are told from the other. -/
theorem lasting_heard (tuning : Tuning) : Lasting (σ := σ) tuning Heard where
  begins s w _ hfresh := ⟨rfl, fun _ => rfl⟩
  works s w log seen ha h := h.step seen ha.phase
  arrives s w log arrival h := ⟨h.account, h.noted⟩
  answers s w log answer replies hlive h := by
    -- the caller learns of it at once, and the run tells it at its next flush
    constructor
    · rw [Chronicle.acknowledged_concat, Chronicle.told_answered, Chronicle.unheard_concat,
        h.account, List.append_assoc]
      rfl
    · intro _
      rw [Chronicle.unheard_concat, ← h.noted hlive]
      exact Relay.untold_supply s.relay answer replies
  asks s w log ticket h := ⟨h.account, h.noted⟩
  -- a settled worker flushes no more
  leaves s s' w log hsettled h :=
    ⟨h.account, fun hlive => absurd (hsettled.symm.trans hlive) nofun⟩

/-! ## Section 3: Whose answers they are

A caller answers the relay and does not name a run.  Whose answer it is follows from the wait: only
a run that is attached and not over has one. -/

namespace Agenda

omit [Sink σ] in
/-- Before the outcome is settled the relay is detached. -/
theorem Next.of_settling {s : Supervisor} {w : Worker σ} {seen : Observation}
    {before after : List Task} {outcome : Outcome} (h : Next s w seen before after)
    (hafter : settling? after = some outcome) : before.head? = some .detach := by
  cases h with
  | detach | detachGivenUp => rfl
  | take => cases hlines : found s.tuning w.reader <;> rw [hlines] at hafter <;> cases hafter
  | narrate line lines | repeated text lines | leaveOpen lines | tellAnswer lines | takeLate lines
    | narrateLate line lines => cases lines <;> cases hafter
  | _ => cases hafter

end Agenda

/-- A run that is about to settle its outcome leaves no prompt that waits. -/
def Silenced (s : Supervisor) (w : Worker σ) (_ : List (Deed σ)) : Prop :=
  (settling? w.agenda).isSome = true → s.relay.outstanding = false

/-- **A run that is about to settle its outcome has no prompt that waits.** The task before lets go
of the relay, and forgets a prompt without an answer. -/
theorem lasting_silenced (tuning : Tuning) : Lasting (σ := σ) tuning Silenced where
  begins s w _ _ _ := rfl
  works s w log seen ha _ := by
    intro hsettling
    obtain ⟨outcome, houtcome⟩ := Option.isSome_iff_exists.mp hsettling
    by_cases hover : w.agenda = []
    · -- a run that is over has nothing to settle
      rw [Worker.step_over s seen hover, hover] at houtcome
      cases houtcome
    · -- the step before the settling detached the relay, which resolves the wait
      have hdetach := (Worker.next_step s seen ha.phase hover).of_settling houtcome
      obtain ⟨rest, hagenda⟩ := List.head?_eq_some_iff.mp hdetach
      rw [Worker.relay_step seen hagenda]
      exact Relay.outstanding_detach
  arrives s w log arrival h := h
  answers s w log answer replies _ _ _ := Relay.supply_settles
  asks s w log ticket h := h
  leaves s s' w log hsettled _ := by
    intro hsettling
    -- a settled worker has no settling in front of it
    obtain ⟨outcome, houtcome⟩ := Option.isSome_iff_exists.mp hsettling
    obtain ⟨rest, hagenda⟩ := settling?_eq_some houtcome
    rw [Worker.isSettled, hagenda] at hsettled
    cases hsettled

/-- While a prompt waits the run does not free the supervisor. -/
theorem Worker.live_of_waits {s : Supervisor} {w : Worker σ} {seen : Observation}
    {log : List (Deed σ)} (hphase : Phase w.agenda) (hsilenced : Silenced s w log)
    (hlive : w.isSettled = false) (hwaits : (step s w seen).shared.relay.outstanding = true) :
    (step s w seen).worker.isSettled = false := by
  cases hafter : (step s w seen).worker.isSettled with
  | false => rfl
  | true =>
    -- the step that frees the supervisor is the one that settles the outcome
    have hne : w.agenda ≠ [] := fun hover => by
      rw [isSettled, hover] at hlive
      cases hlive
    obtain ⟨outcome, rest, hagenda⟩ := (next_step s seen hphase hne).of_settled hlive hafter
    have hsilent := hsilenced (by rw [hagenda]; rfl)
    rw [relay_step seen hagenda] at hwaits
    cases hsilent.symm.trans hwaits

theorem Supervisor.relay_cancel (s : Supervisor) : s.cancel.2.relay = s.relay := by
  simp only [cancel]
  split
  · rfl
  · split <;> rfl

namespace Crew

variable {c : Crew σ} {action : Action σ} {t : Nat} {w : Worker σ}

/-- Only a worker makes a prompt wait. -/
theorem outstanding_step (haction : ∀ t seen, action ≠ .work t seen)
    (h : (c.step action).shared.relay.outstanding = true) : c.shared.relay.outstanding = true := by
  cases action with
  | reserve command fanout =>
    simp only [step] at h
    split at h
    · exact h
    · next hreserve =>
      -- a reservation that holds changes the ticket only
      obtain ⟨hidle, hstarting⟩ := Supervisor.free_of_reserve_ok hreserve
      rw [Supervisor.reserve_of_free hidle hstarting] at hreserve
      cases hreserve
      exact h
  | announce | release | arrive =>
    simp only [step] at h
    split at h <;> exact h
  | attach ticket =>
    simp only [step] at h
    split at h
    · -- a relay that is attached begins with no wait
      cases h
    · exact h
  | work t seen => exact absurd rfl (haction t seen)
  | cancel =>
    rw [← Supervisor.relay_cancel]
    exact h
  | answer a replies =>
    -- no wait is open behind an answer
    have hsettled : (c.shared.answer a replies).2.2.relay.outstanding = false :=
      Relay.supply_settles
    cases hsettled.symm.trans h

/-- Others neither detach a run nor bring it to its end. -/
theorem attached_step (htracks : c.Tracks) (hstage : c.stages t = some (.working w true))
    (haction : ∀ seen, action ≠ .work t seen) :
    ∃ w', (c.step action).stages t = some (.working w' true) ∧ w'.isSettled = w.isSettled := by
  have hfate := fate_step htracks action t
  generalize hafter : (c.step action).stages t = after at hfate
  cases hfate with
  | stays => exact ⟨w, hstage, rfl⟩
  -- the other fates belong to earlier stages
  | reserved _ _ hbefore | announced _ _ _ _ hbefore | failed _ _ hbefore | attached _ hbefore =>
    exact absurd (hstage.symm.trans hbefore) nofun
  -- only the run itself steps
  | worked _ seen _ hwork => exact absurd hwork (haction seen)
  | arrived w' attached arrival hbefore _ =>
    -- what arrives for it changes its reader, not its agenda
    cases hstage.symm.trans hbefore
    exact ⟨w.arrive arrival, rfl, rfl⟩

end Crew

namespace Chronicle

/-- A prompt waits only while a run is there to tell what becomes of it. -/
def Attended (h : Chronicle σ) : Prop :=
  h.crew.shared.relay.outstanding = true →
    ∃ t w, h.crew.stages t = some (.working w true) ∧ w.isSettled = false

section Attended

variable {h : Chronicle σ} {action : Crew.Action σ}

/-- A prompt that waited before is left alone by no action of another run. -/
theorem Attended.others (hattended : h.Attended) (htracks : h.crew.Tracks)
    (hwaits : h.crew.shared.relay.outstanding = true)
    (haction : ∀ t w seen, h.crew.stages t = some (.working w true) → w.isSettled = false →
      action ≠ .work t seen) : (h.step action).Attended := by
  intro _
  obtain ⟨t, w, hstage, hlive⟩ := hattended hwaits
  obtain ⟨w', hstage', hsame⟩ :=
    Crew.attached_step htracks hstage fun seen => haction t w seen hstage hlive
  exact ⟨t, w', hstage', hsame.trans hlive⟩

/-- **One action** leaves no prompt alone. -/
theorem attended_step (hkeeps : h.Keeps tuning Silenced) (hattended : h.Attended)
    (action : Crew.Action σ) : (h.step action).Attended := by
  intro hwaits
  by_cases haction : ∃ t seen, action = .work t seen
  · -- the worker may open a wait or free the supervisor, but not both
    obtain ⟨t, seen, rfl⟩ := haction
    by_cases hattached : ∃ w, h.crew.stages t = some (.working w true)
    · obtain ⟨w, hstage⟩ := hattached
      have hstep := Crew.step_work hstage seen
      have hphase := hkeeps.phase t w hstage
      have hwaits' : (w.step h.crew.shared seen).shared.relay.outstanding = true := by
        rw [step, hstep] at hwaits
        exact hwaits
      cases hlive : w.isSettled with
      | false =>
        refine ⟨t, (w.step h.crew.shared seen).worker, ?_,
          Worker.live_of_waits hphase (hkeeps.holds t w hstage) hlive hwaits'⟩
        rw [step, hstep, Crew.stages_put, if_pos rfl]
      | true =>
        -- a settled worker leaves the relay alone, and the prompt waits for another one
        rw [(Worker.settled_step h.crew.shared seen (hphase.settled hlive)).1] at hwaits'
        refine hattended.others hkeeps.tracks hwaits' (fun u w' seen' hstage' hlive' hsame => ?_) hwaits
        cases hsame
        cases hstage.symm.trans hstage'
        cases hlive.symm.trans hlive'
    · -- nobody is there to do the step
      have hsame : h.crew.step (.work t seen) = h.crew := by
        simp only [Crew.step]
        split
        · next w hstage => exact absurd ⟨w, hstage⟩ hattached
        · rfl
      have hwaits' : h.crew.shared.relay.outstanding = true := by
        rw [← hsame]
        exact hwaits
      refine hattended.others hkeeps.tracks hwaits' (fun u w seen' hstage _ hother => ?_) hwaits
      cases hother
      exact hattached ⟨w, hstage⟩
  · -- the action of somebody else opens no wait
    have hnone : ∀ t seen, action ≠ .work t seen := fun t seen h => haction ⟨t, seen, h⟩
    exact hattended.others hkeeps.tracks (Crew.outstanding_step hnone hwaits)
      (fun t w seen _ _ => hnone t seen) hwaits

theorem attended_foldl (hkeeps : h.Keeps tuning Silenced) (hattended : h.Attended)
    (actions : List (Crew.Action σ)) : (actions.foldl step h).Attended := by
  induction actions generalizing h with
  | nil => exact hattended
  | cons action actions ih =>
    exact ih (keeps_step (lasting_silenced tuning) hkeeps action) (attended_step hkeeps hattended action)

end Attended

/-- **No prompt is left alone** in any interleaving.  Whoever finds a prompt that waits finds a run
that has not freed the supervisor. -/
theorem attended_after (tuning : Tuning) (actions : List (Crew.Action σ)) :
    (after tuning actions).Attended :=
  attended_foldl keeps_new (fun hwaits => absurd hwaits nofun) actions

/-! ## Section 4: Which answers are told

The condition is exact.  What comes in behind the last flush and before the input is detached is the
only thing that may be lost. -/

/-- What becomes of the answers that callers know of. -/
structure Answered (h : Chronicle σ) : Prop where
  /-- An answer that a caller learns was written is written down for one run. -/
  belongs : ∀ answer replies known, (h.crew.shared.answer answer replies).1 = .ok known →
    ∃ t, ∀ u, h.crew.deeds u (.answer answer replies) =
      if u = t then [.answered h.crew.shared.relay answer replies] else []
  /-- At any time a run has told the answers acknowledged before its last flush, in order and each
  once, and no other. -/
  account : h.Every fun _ _ log => acknowledged log = Event.answers (told log) ++ unheard log
  /-- A run that is over told its outcome last, and before it every acknowledged answer, in order
  and each once, exactly if none came behind its last flush. -/
  concluded : h.Every fun _ w log => w.isDone = true → Representable log → ∃ earlier outcome,
    told log = earlier ++ [.finished outcome] ∧ (∀ e ∈ earlier, e.isFinished = false) ∧
      (Event.answers earlier = acknowledged log ↔ unheard log = [])

omit [Sink σ] in
/-- An answer that is acknowledged is written down for the run that serves the relay. -/
theorem Keeps.deeds_acknowledged {h : Chronicle σ}
    {I : Supervisor → Worker σ → List (Deed σ) → Prop} (hkeeps : h.Keeps tuning I)
    (hattended : h.Attended) {answer known : Answer} {replies : PipeReplies}
    (hok : (h.crew.shared.answer answer replies).1 = .ok known) :
    ∃ t, ∀ u, h.crew.deeds u (.answer answer replies) =
      if u = t then [.answered h.crew.shared.relay answer replies] else [] := by
  obtain ⟨t, w, hstage, hlive⟩ := hattended (Relay.outstanding_of_ok hok)
  have hruns : h.crew.Runs t w := ⟨true, hstage, hlive⟩
  refine ⟨t, fun u => ?_⟩
  by_cases hu : u = t
  · -- this is the run that waits, so its log gets the answer
    subst hu
    rw [if_pos rfl, deeds_answer hstage hlive]
  · rw [if_neg hu]
    -- any other run is settled by now
    refine deeds_eq_nil nofun fun w' a replies' hstage' _ => ?_
    exact Crew.settled_of_active hkeeps.tracks hruns.active hu hstage'

/-- **What becomes of acknowledged answers**, in every interleaving: a run tells them all exactly if
none comes behind its last flush.  An answer that comes there is taken, and still nobody hears of
it. -/
theorem answered_after (tuning : Tuning) (actions : List (Crew.Action σ)) :
    (after tuning actions).Answered := by
  have hkeeps := keeps_after (lasting_heard (σ := σ) tuning) actions
  refine
    { belongs := fun answer replies known hok =>
        hkeeps.deeds_acknowledged (attended_after tuning actions) hok
      account := fun t w hstage => (hkeeps.holds t w hstage).account
      concluded := fun t w hstage hdone hrep => ?_ }
  have hending := lasting_after (lasting_ending tuning) actions t w hstage
  obtain ⟨earlier, outcome, htold, hearlier, -⟩ := hending.ended (Worker.isDone_iff.mp hdone) hrep
  refine ⟨earlier, outcome, htold, hearlier, ?_⟩
  -- the outcome is no answer
  have haccount := (hkeeps.holds t w hstage).account
  rw [htold, Event.answers_append, show Event.answers [.finished outcome] = [] from rfl,
    List.append_nil] at haccount
  rw [haccount]
  exact List.self_eq_append_right

/-! ## Section 5: An answer that nobody tells

There is such a gap in every run that ends, since the two are separate sections.  The run below has
a caller in it. -/

/-- Every run that tells its outcome has told the answers that were acknowledged. -/
def AllTold (h : Chronicle σ) : Prop :=
  h.Every fun _ _ log => ∀ earlier outcome, told log = earlier ++ [.finished outcome] →
    Event.answers earlier = acknowledged log

/-- What a worker sees whose process has ended; the pipe took every byte. -/
def gone : Observation := ⟨0, .exited 0, ⟨[], none⟩⟩

/-- A process asks, its run is cancelled, and a caller answers when the run has told its last notice
and not detached the relay yet. -/
def lateRun : List (Crew.Action Observer) :=
  [.reserve (.new "sh" ["ask.sh"]) (.ofSinks []), .announce 0 7 0, .attach 0,
      .arrive 0 (.bytes "Backup? [y/n]\n".toUTF8.toList)] ++
    List.replicate 8 (.work 0 gone) ++ [.cancel] ++ List.replicate 6 (.work 0 gone) ++
    [.answer .yes gone.replies] ++ List.replicate 3 (.work 0 gone)

/-- **An answer that is dropped**: its caller learned that it was sent, and the run never tells. -/
theorem not_allTold_lateRun : ¬(after .standard lateRun).AllTold := by
  have hleft : (after .standard lateRun).hasLeft 0 = true := by decide +kernel
  have htold : told ((after .standard lateRun).log 0) =
      [.started 7 "sh ask.sh", .output "Backup? [y/n]", .promptDetected "Backup? [y/n]"] ++
        [.finished .terminated] := by decide +kernel
  have hknown : acknowledged ((after .standard lateRun).log 0) = [.yes] := by decide +kernel
  obtain ⟨w, hstage, -⟩ := settled_of_hasLeft hleft
  intro hall
  have hnone := hall 0 w hstage _ _ htold
  rw [hknown] at hnone
  exact absurd hnone nofun

end Chronicle

end Overseer
