import Overseer.Proofs.Supervisor.Occupancy
import Overseer.Proofs.Supervisor.Phase

/-!
# Chronicles of Runs

A chronicle follows a crew and writes down, for each run, what bears on it from the moment at which
its input is attached: the steps of its worker, and the answers of callers until the supervisor is
free again.  What a run told, opened, decided or stored is read off its log.

An invariant of single runs has to be shown once for each kind of thing that can happen to a run;
that it then holds in every interleaving of all runs and callers is shown here.

- `Chronicle.after`, `Chronicle.crew_after`: the chronicle of an interleaving follows its crew
- `Chronicle.Lasting`: an invariant of single runs
- `Chronicle.lasting_after`: it holds in every interleaving
-/

namespace Overseer

open Agenda

variable {σ : Type} [Sink σ]

/-! ## Section 1: Logs

A log belongs to one run and holds what bears on it, in the order in which it happened.  An answer
is in it only while its run is attached, because only then can it be about that run. -/

/-- Something that bears on a run: a step of its worker with all that it saw, or an answer that was
supplied while it was attached. -/
inductive Deed (σ : Type) where
  /-- The worker of the run does its next task. -/
  | worked (shared : Supervisor) (worker : Worker σ) (seen : Observation)
  /-- A caller supplies an answer. -/
  | answered (relay : Relay) (answer : Answer) (replies : PipeReplies)

/-- A crew with the logs of its runs, by ticket and oldest deed first.  Nothing reads a log but the
statements about it. -/
structure Chronicle (σ : Type) where
  crew : Crew σ
  log : Nat → List (Deed σ)

/-- What an action adds to the log of a run.  Answers count until the run frees the supervisor. -/
def Crew.deeds (c : Crew σ) (ticket : Nat) (action : Crew.Action σ) : List (Deed σ) :=
  match c.stages ticket, action with
  | some (.working worker true), .work t seen =>
    if t = ticket then [.worked c.shared worker seen] else []
  | some (.working worker true), .answer a replies =>
    if worker.isSettled then [] else [.answered c.shared.relay a replies]
  | _, _ => []

namespace Chronicle

/-- The chronicle before any run. -/
def new (tuning : Tuning) : Chronicle σ := ⟨.new tuning, fun _ => []⟩

/-- The chronicle after an action. -/
def step (h : Chronicle σ) (action : Crew.Action σ) : Chronicle σ :=
  ⟨h.crew.step action, fun t => h.log t ++ h.crew.deeds t action⟩

/-- The chronicle of an interleaving. -/
def after (tuning : Tuning) (actions : List (Crew.Action σ)) : Chronicle σ :=
  actions.foldl step (new tuning)

/-- A chronicle follows its crew. -/
theorem crew_after (tuning : Tuning) (actions : List (Crew.Action σ)) :
    (after tuning actions).crew = Crew.after tuning actions := by
  have hfold : ∀ h : Chronicle σ, (actions.foldl step h).crew = actions.foldl Crew.step h.crew := by
    induction actions with
    | nil =>
      intro h
      rfl
    | cons action actions ih =>
      intro h
      exact ih (h.step action)
  exact hfold (new tuning)

end Chronicle

/-! ## Section 2: Workers that have not begun

Output may arrive before a worker takes its first step.  A worker that has not begun is one that was
made for its run, with such output in its reader. -/

namespace Worker

/-- The worker has done nothing yet; output may have arrived. -/
def Fresh (tuning : Tuning) (w : Worker σ) : Prop :=
  ∃ (command : Command) (ticket pid now : Nat) (fanout : Fanout σ) (arrivals : List Reader.Arrival),
    w = arrivals.foldl arrive (Worker.new tuning command ticket pid now fanout)

omit [Sink σ] in
/-- Output that arrives changes the reader alone. -/
theorem foldl_arrive (arrivals : List Reader.Arrival) (w : Worker σ) :
    arrivals.foldl arrive w = { w with reader := arrivals.foldl Reader.OutputReader.arrive w.reader } := by
  induction arrivals generalizing w with
  | nil => rfl
  | cons arrival arrivals ih =>
    rw [List.foldl_cons, ih]
    rfl

omit [Sink σ] in
theorem Fresh.arrive {tuning : Tuning} {w : Worker σ} (h : w.Fresh tuning)
    (arrival : Reader.Arrival) : (w.arrive arrival).Fresh tuning := by
  obtain ⟨command, ticket, pid, now, fanout, arrivals, rfl⟩ := h
  refine ⟨command, ticket, pid, now, fanout, arrivals ++ [arrival], ?_⟩
  rw [List.foldl_append]
  rfl

omit [Sink σ] in
theorem Fresh.agenda {tuning : Tuning} {w : Worker σ} (h : w.Fresh tuning) :
    w.agenda = [.start, .listen] := by
  obtain ⟨command, ticket, pid, now, fanout, arrivals, rfl⟩ := h
  rw [foldl_arrive]
  rfl

omit [Sink σ] in
theorem Fresh.isSettled {tuning : Tuning} {w : Worker σ} (h : w.Fresh tuning) :
    w.isSettled = false := by
  rw [Worker.isSettled, h.agenda]
  rfl

end Worker

/-! ## Section 3: What an action does to one run

An action is about one run at most.  For any other run it is seen through the shared part only, and
what can become of that while a run is not over is the second half of this section. -/

namespace Worker

/-- A step leaves the tuning alone. -/
theorem tuning_step (s : Supervisor) (w : Worker σ) (seen : Observation) :
    (step s w seen).shared.tuning = s.tuning := by
  rcases shared_step s w seen with ⟨outcome, -, hshared⟩ | ⟨-, relay, hshared⟩
  · rw [hshared]
    rfl
  · rw [hshared]

end Worker

namespace Crew

variable {c : Crew σ} {t : Nat}

/-- The stage of a run after an action. -/
inductive Fate (c : Crew σ) (action : Action σ) (t : Nat) : Option (Stage σ) → Prop where
  | stays : Fate c action t (c.stages t)
  | reserved (command : Command) (fanout : Fanout σ) :
      c.stages t = none → Fate c action t (some (.making command fanout))
  | announced (command : Command) (fanout : Fanout σ) (pid now : Nat) :
      c.stages t = some (.making command fanout) →
      Fate c action t (some (.working (.new c.shared.tuning command t pid now fanout) false))
  | failed (command : Command) (fanout : Fanout σ) :
      c.stages t = some (.making command fanout) → Fate c action t (some .failed)
  | attached (w : Worker σ) :
      c.stages t = some (.working w false) → action = .attach t →
      Fate c action t (some (.working w true))
  | worked (w : Worker σ) (seen : Observation) :
      c.stages t = some (.working w true) → action = .work t seen →
      Fate c action t (some (.working (w.step c.shared seen).worker true))
  | arrived (w : Worker σ) (attached : Bool) (arrival : Reader.Arrival) :
      c.stages t = some (.working w attached) → action = .arrive t arrival →
      Fate c action t (some (.working (w.arrive arrival) attached))

theorem step_work {w : Worker σ} (hstage : c.stages t = some (.working w true)) (seen : Observation) :
    c.step (.work t seen) =
      (c.withShared (w.step c.shared seen).shared).put t
        (.working (w.step c.shared seen).worker true) := by
  simp only [step, hstage]

theorem fate_step (htracks : c.Tracks) (action : Action σ) (t : Nat) :
    Fate c action t ((c.step action).stages t) := by
  -- an action puts one run at a new stage and leaves the others where they are
  have hput : ∀ (shared : Supervisor) (u : Nat) (stage : Stage σ),
      (t = u → Fate c action t (some stage)) →
        Fate c action t (((c.withShared shared).put u stage).stages t) := by
    intro shared u stage hfate
    rw [stages_put]
    split
    · next ht => exact hfate ht
    · exact .stays
  cases action with
  | reserve command fanout =>
    simp only [step]
    split
    · exact .stays
    · next ticket shared hreserve =>
      refine hput _ _ _ fun ht => .reserved command fanout (htracks.unborn t ?_)
      obtain ⟨hidle, hstarting⟩ := Supervisor.free_of_reserve_ok hreserve
      rw [Supervisor.reserve_of_free hidle hstarting] at hreserve
      cases hreserve
      exact Nat.le_of_eq ht.symm
  | announce ticket pid now =>
    simp only [step]
    split
    · next command fanout hstage =>
      refine hput _ _ _ ?_
      rintro rfl
      exact .announced command fanout pid now hstage
    · exact .stays
  | release ticket =>
    simp only [step]
    split
    · next command fanout hstage =>
      refine hput _ _ _ ?_
      rintro rfl
      exact .failed command fanout hstage
    · exact .stays
  | attach ticket =>
    simp only [step]
    split
    · next w hstage =>
      refine hput _ _ _ ?_
      rintro rfl
      exact .attached w hstage rfl
    · exact .stays
  | work ticket seen =>
    simp only [step]
    split
    · next w hstage =>
      refine hput _ _ _ ?_
      rintro rfl
      exact .worked w seen hstage rfl
    · exact .stays
  | arrive ticket arrival =>
    simp only [step]
    split
    · next w attached hstage =>
      refine hput c.shared _ _ ?_
      rintro rfl
      exact .arrived w attached arrival hstage rfl
    · exact .stays
  | cancel => exact .stays
  | answer a replies => exact .stays

theorem tuning_cancel (s : Supervisor) : s.cancel.2.tuning = s.tuning := by
  simp only [Supervisor.cancel]
  split
  · rfl
  · split <;> rfl

/-- No action touches the tuning. -/
theorem tuning_step (c : Crew σ) (action : Action σ) :
    (c.step action).shared.tuning = c.shared.tuning := by
  cases action with
  | reserve command fanout =>
    simp only [step]
    -- a reservation that fails changes nothing
    split
    · rfl
    · next hreserve =>
      -- a reservation that holds gives a ticket away and keeps the rest
      obtain ⟨hidle, hstarting⟩ := Supervisor.free_of_reserve_ok hreserve
      rw [Supervisor.reserve_of_free hidle hstarting] at hreserve
      cases hreserve
      rfl
  | work ticket seen =>
    simp only [step]
    split
    · next w hstage => exact Worker.tuning_step c.shared w seen
    · rfl
  | cancel => exact tuning_cancel c.shared
  -- an answer goes to the relay, and the tuning is no part of it
  | answer a replies => rfl
  | announce ticket _ _ | release ticket | attach ticket | arrive ticket _ =>
    simp only [step]
    split <;> rfl

omit [Sink σ] in
/-- While one run occupies the supervisor every other run has freed it. -/
theorem settled_of_active (htracks : c.Tracks) {u : Nat} {w : Worker σ} {attached : Bool}
    (hactive : c.Active u) (hne : t ≠ u) (hstage : c.stages t = some (.working w attached)) :
    w.isSettled = true := by
  cases hsettled : w.isSettled with
  | true => rfl
  | false =>
    have ht : c.Active t := Runs.active ⟨attached, hstage, hsettled⟩
    exact absurd (htracks.eq_of_active ht hactive) hne

/-- **What others do to a run that is not over**: they ask it to stop, they answer, or they leave
what it shares alone. -/
theorem shared_step (htracks : c.Tracks)
    (hfresh : ∀ u w, c.stages u = some (.working w false) → w.isSettled = false)
    {w : Worker σ} (hstage : c.stages t = some (.working w true)) (hlive : w.isSettled = false)
    {action : Action σ} (hwork : ∀ seen, action ≠ .work t seen) :
    (c.step action).shared = c.shared ∨
      (∃ ticket, (c.step action).shared = c.shared.requestStop ticket) ∨
      ∃ a replies, action = .answer a replies := by
  have hruns : c.Runs t w := ⟨true, hstage, hlive⟩
  -- no other run is there to change anything
  have halone : ∀ u, c.Active u → u = t := fun u hu => htracks.eq_of_active hu hruns.active
  cases action with
  | reserve command fanout =>
    refine .inl ?_
    rw [step, Supervisor.reserve_of_running (htracks.runs t w hruns).2]
  | announce ticket pid now | release ticket =>
    refine .inl ?_
    simp only [step]
    split
    · next command fanout hmaking =>
      have ht := halone ticket (Reserved.active ⟨command, fanout, hmaking⟩)
      rw [ht, hstage] at hmaking
      cases hmaking
    · rfl
  | attach ticket =>
    refine .inl ?_
    simp only [step]
    split
    · next w' hstage' =>
      have ht := halone ticket (Runs.active ⟨false, hstage', hfresh ticket w' hstage'⟩)
      rw [ht, hstage] at hstage'
      cases hstage'
    · rfl
  | work ticket seen =>
    refine .inl ?_
    simp only [step]
    split
    · next w' hstage' =>
      have hne : ticket ≠ t := by
        rintro rfl
        exact hwork seen rfl
      have hsettled := settled_of_active htracks hruns.active hne hstage'
      rcases (htracks.workers ticket w' true hstage').2 with hshape | hshape
      · cases hshape.not_all_isLast.symm.trans hsettled
      · exact (Worker.settled_step c.shared seen hshape).1
    · rfl
  | arrive ticket arrival =>
    refine .inl ?_
    simp only [step]
    split <;> rfl
  | cancel =>
    refine .inr (.inl ⟨t, ?_⟩)
    rw [step, cancel_of_active htracks hruns.active]
    rfl
  | answer a replies => exact .inr (.inr ⟨a, replies, rfl⟩)

end Crew

/-! ## Section 4: Invariants of single runs

An invariant of single runs speaks of the shared part, the worker and the log.  It has to hold of a
worker that begins, to be kept by each of its steps, and to be kept by whatever others may do; the
theorem does the rest. -/

/-- What is known about a worker while its input is attached. -/
structure Attending (tuning : Tuning) (s : Supervisor) (w : Worker σ) : Prop where
  /-- The agenda has one of the known shapes. -/
  phase : Phase w.agenda
  tuned : s.tuning = tuning
  /-- Until the worker frees the supervisor, its process is the one that is shown. -/
  shown : w.isSettled = false → s.activity = .running w.pid w.command.display

/-- A property of the shared part, the worker and the log of a run that lasts whatever happens.  One
case is one kind of thing that can happen to the run; what happens to other runs needs none. -/
structure Lasting (tuning : Tuning) (I : Supervisor → Worker σ → List (Deed σ) → Prop) :
    Prop where
  /-- It holds when the input is attached. -/
  begins : ∀ (s : Supervisor) (w : Worker σ), s.tuning = tuning → w.Fresh tuning → I s.attach w []
  /-- The worker does its next task. -/
  works : ∀ s w log seen, Attending tuning s w → I s w log →
    I (w.step s seen).shared (w.step s seen).worker (log ++ [.worked s w seen])
  /-- Output arrives. -/
  arrives : ∀ s w log arrival, I s w log → I s (w.arrive arrival) log
  /-- A caller supplies an answer. -/
  answers : ∀ s w log answer replies, w.isSettled = false → I s w log →
    I (s.answer answer replies).2.2 w (log ++ [.answered s.relay answer replies])
  /-- A caller asks the run to stop. -/
  asks : ∀ s w log ticket, I s w log → I (s.requestStop ticket) w log
  /-- The run has freed the supervisor, which goes on without it. -/
  leaves : ∀ s s' w log, w.isSettled = true → I s w log → I s' w log

/-- A property of the worker and the log alone that lasts.  Nobody but the worker and those who
answer can touch it. -/
structure Logged (tuning : Tuning) (I : Worker σ → List (Deed σ) → Prop) : Prop where
  begins : ∀ w, w.Fresh tuning → I w []
  works : ∀ s w log seen, Attending tuning s w → I w log →
    I (w.step s seen).worker (log ++ [.worked s w seen])
  arrives : ∀ w log arrival, I w log → I (w.arrive arrival) log
  answers : ∀ relay w log answer replies, w.isSettled = false → I w log →
    I w (log ++ [.answered relay answer replies])

theorem Lasting.ofLog {tuning : Tuning} {I : Worker σ → List (Deed σ) → Prop}
    (h : Logged tuning I) : Lasting tuning fun _ w log => I w log where
  begins _ w _ hfresh := h.begins w hfresh
  works := h.works
  arrives _ := h.arrives
  answers s := h.answers s.relay
  asks _ _ _ _ hI := hI
  leaves _ _ _ _ _ hI := hI

/-- Two properties that last last together. -/
theorem Lasting.and {tuning : Tuning} {I J : Supervisor → Worker σ → List (Deed σ) → Prop}
    (hI : Lasting tuning I) (hJ : Lasting tuning J) :
    Lasting tuning fun s w log => I s w log ∧ J s w log where
  begins s w hs hw := ⟨hI.begins s w hs hw, hJ.begins s w hs hw⟩
  works s w log seen ha h := ⟨hI.works s w log seen ha h.1, hJ.works s w log seen ha h.2⟩
  arrives s w log a h := ⟨hI.arrives s w log a h.1, hJ.arrives s w log a h.2⟩
  answers s w log a r hlive h := ⟨hI.answers s w log a r hlive h.1, hJ.answers s w log a r hlive h.2⟩
  asks s w log t h := ⟨hI.asks s w log t h.1, hJ.asks s w log t h.2⟩
  leaves s s' w log hw h := ⟨hI.leaves s s' w log hw h.1, hJ.leaves s s' w log hw h.2⟩

namespace Chronicle

/-- An invariant holds for every run of a chronicle, next to what is known about any run.  This is
what one action preserves. -/
structure Keeps (tuning : Tuning) (I : Supervisor → Worker σ → List (Deed σ) → Prop)
    (h : Chronicle σ) : Prop where
  tracks : h.crew.Tracks
  tuned : h.crew.shared.tuning = tuning
  /-- A worker has done nothing before its input is attached. -/
  fresh : ∀ t w, h.crew.stages t = some (.working w false) → w.Fresh tuning
  /-- Nothing is written down before that. -/
  silent : ∀ t, (∀ w, h.crew.stages t ≠ some (.working w true)) → h.log t = []
  phase : ∀ t w, h.crew.stages t = some (.working w true) → Phase w.agenda
  holds : ∀ t w, h.crew.stages t = some (.working w true) → I h.crew.shared w (h.log t)

omit [Sink σ] in
theorem keeps_new {tuning : Tuning} {I : Supervisor → Worker σ → List (Deed σ) → Prop} :
    (new tuning : Chronicle σ).Keeps tuning I where
  tracks := Crew.tracks_new tuning
  tuned := rfl
  fresh _ _ hstage := absurd hstage nofun
  silent _ _ := rfl
  phase _ _ hstage := absurd hstage nofun
  holds _ _ hstage := absurd hstage nofun

section Step

variable {tuning : Tuning} {I : Supervisor → Worker σ → List (Deed σ) → Prop} {h : Chronicle σ}
  {t : Nat} {w : Worker σ} {action : Crew.Action σ}

omit [Sink σ] in
theorem Keeps.attending (hkeeps : h.Keeps tuning I)
    (hstage : h.crew.stages t = some (.working w true)) : Attending tuning h.crew.shared w where
  phase := hkeeps.phase t w hstage
  tuned := hkeeps.tuned
  shown hsettled := (hkeeps.tracks.runs t w ⟨true, hstage, hsettled⟩).2

omit [Sink σ] in
theorem deeds_work (hstage : h.crew.stages t = some (.working w true)) (seen : Observation) :
    h.crew.deeds t (.work t seen) = [.worked h.crew.shared w seen] := by
  simp only [Crew.deeds, hstage, if_true]

omit [Sink σ] in
theorem deeds_answer (hstage : h.crew.stages t = some (.working w true))
    (hlive : w.isSettled = false) (a : Answer) (replies : PipeReplies) :
    h.crew.deeds t (.answer a replies) = [.answered h.crew.shared.relay a replies] := by
  simp only [Crew.deeds, hstage, hlive, Bool.false_eq_true, if_false]

omit [Sink σ] in
/-- Nothing else adds to the log of a run. -/
theorem deeds_eq_nil (hwork : ∀ seen, action ≠ .work t seen)
    (hanswer : ∀ w a replies, h.crew.stages t = some (.working w true) →
      action = .answer a replies → w.isSettled = true) :
    h.crew.deeds t action = [] := by
  simp only [Crew.deeds]
  split
  · next seen _ => exact if_neg fun ht => hwork seen (by rw [ht])
  · next w a replies hstage => exact if_pos (hanswer w a replies hstage rfl)
  · rfl

/-- A run that stays as it is keeps the invariant, whoever acts. -/
theorem Keeps.stays (hI : Lasting tuning I) (hkeeps : h.Keeps tuning I)
    (hstage : h.crew.stages t = some (.working w true)) (hwork : ∀ seen, action ≠ .work t seen) :
    I (h.step action).crew.shared w ((h.step action).log t) := by
  have hholds := hkeeps.holds t w hstage
  simp only [step]
  -- a settled worker takes no part any more, so what others do leaves it alone
  cases hsettled : w.isSettled with
  | true =>
    have hnone : h.crew.deeds t action = [] := by
      refine deeds_eq_nil hwork fun w' a replies hstage' _ => ?_
      cases hstage.symm.trans hstage'
      exact hsettled
    rw [hnone, List.append_nil]
    exact hI.leaves _ _ w _ hsettled hholds
  -- an answer is a deed of this run; of any other action it only sees what is shared
  | false =>
    have hfresh : ∀ u w, h.crew.stages u = some (.working w false) → w.isSettled = false :=
      fun u w hstage => (hkeeps.fresh u w hstage).isSettled
    by_cases hanswer : ∃ a replies, action = .answer a replies
    · -- the answer goes to this run, the only one whose input is attached
      obtain ⟨a, replies, rfl⟩ := hanswer
      rw [deeds_answer hstage hsettled]
      exact hI.answers _ w _ a replies hsettled hholds
    · have hnone : h.crew.deeds t action = [] :=
        deeds_eq_nil hwork fun w' a replies _ haction => absurd ⟨a, replies, haction⟩ hanswer
      rw [hnone, List.append_nil]
      rcases Crew.shared_step hkeeps.tracks hfresh hstage hsettled hwork with
        hshared | ⟨ticket, hshared⟩ | hanswered
      · rw [hshared]
        exact hholds
      · rw [hshared]
        exact hI.asks _ w _ ticket hholds
      · exact absurd hanswered hanswer

/-- A run whose input is attached had it attached before, has it attached now, or does a step, or
its output arrives. -/
theorem Keeps.holds_step (hI : Lasting tuning I) (hkeeps : h.Keeps tuning I)
    (hstage : (h.crew.step action).stages t = some (.working w true)) :
    Phase w.agenda ∧ I (h.step action).crew.shared w ((h.step action).log t) := by
  have hfate := Crew.fate_step hkeeps.tracks action t
  rw [hstage] at hfate
  generalize hstage' : some (Stage.working w true) = stage at hfate
  cases hfate with
  | stays =>
    by_cases hwork : ∃ seen, action = .work t seen
    · -- a step of the run puts the worker after the step in its place
      obtain ⟨seen, rfl⟩ := hwork
      have hstep := Crew.step_work hstage'.symm seen
      have hsame : w = (w.step h.crew.shared seen).worker := by
        rw [hstep, Crew.stages_put, if_pos rfl] at hstage
        injection hstage with hstage
        injection hstage with hsame
        exact hsame.symm
      refine ⟨hkeeps.phase t w hstage'.symm, ?_⟩
      have hworks := hI.works _ w _ seen (hkeeps.attending hstage'.symm) (hkeeps.holds t w hstage'.symm)
      rw [← hsame] at hworks
      simp only [step, deeds_work hstage'.symm, hstep]
      exact hworks
    · refine ⟨hkeeps.phase t w hstage'.symm, hkeeps.stays hI hstage'.symm ?_⟩
      rintro seen rfl
      exact hwork ⟨seen, rfl⟩
  -- a run at an earlier stage has no worker yet
  | reserved => cases hstage'
  | announced => cases hstage'
  | failed => cases hstage'
  | attached w' hbefore haction =>
    -- the run is attached now, and its chronicle begins
    cases hstage'
    subst haction
    have hfresh := hkeeps.fresh t w hbefore
    have hnone : h.log t = [] := hkeeps.silent t fun w' hw' => by
      rw [hbefore] at hw'
      cases hw'
    have hdeeds : h.crew.deeds t (.attach t) = [] := by simp only [Crew.deeds, hbefore]
    have hshared : (h.crew.step (.attach t)).shared = h.crew.shared.attach := by
      simp only [Crew.step, hbefore]
      rfl
    refine ⟨.undecided ?_, ?_⟩
    · rw [hfresh.agenda]
      exact .starting
    · simp only [step, hnone, hdeeds, hshared, List.append_nil]
      exact hI.begins _ w hkeeps.tuned hfresh
  | worked w' seen hbefore haction =>
    cases hstage'
    subst haction
    have hattending := hkeeps.attending hbefore
    refine ⟨Worker.phase_step _ seen hattending.phase, ?_⟩
    simp only [step, deeds_work hbefore, Crew.step_work hbefore seen]
    exact hI.works _ w' _ seen hattending (hkeeps.holds t w' hbefore)
  | arrived w' attached arrival hbefore haction =>
    cases hstage'
    -- its output arrives, which only its reader sees
    subst haction
    have hdeeds : h.crew.deeds t (.arrive t arrival) = [] := by simp only [Crew.deeds, hbefore]
    have hshared : (h.crew.step (.arrive t arrival)).shared = h.crew.shared := by
      simp only [Crew.step, hbefore]
      rfl
    refine ⟨hkeeps.phase t w' hbefore, ?_⟩
    simp only [step, hdeeds, hshared, List.append_nil]
    exact hI.arrives _ w' _ arrival (hkeeps.holds t w' hbefore)

/-- **One action** keeps an invariant of single runs.  An action is about one run, and what it does
to the shared part is one of the things that the invariant lasts under. -/
theorem keeps_step (hI : Lasting tuning I) (hkeeps : h.Keeps tuning I)
    (action : Crew.Action σ) : (h.step action).Keeps tuning I where
  tracks := Crew.tracks_step hkeeps.tracks action
  tuned := (Crew.tuning_step h.crew action).trans hkeeps.tuned
  fresh t w hstage := by
    have hfate := Crew.fate_step hkeeps.tracks action t
    rw [show (h.crew.step action).stages t = _ from hstage] at hfate
    generalize hstage' : some (Stage.working w false) = stage at hfate
    cases hfate with
    | stays => exact hkeeps.fresh t w hstage'.symm
    | announced command fanout pid now hbefore =>
      cases hstage'
      rw [hkeeps.tuned]
      exact ⟨command, t, pid, now, fanout, [], rfl⟩
    | arrived w' attached arrival hbefore haction =>
      cases hstage'
      exact (hkeeps.fresh t w' hbefore).arrive arrival
    | reserved | failed | attached | worked => cases hstage'
  silent t ht := by
    -- a run whose input is not attached now had it not attached before
    have hbefore : ∀ w, h.crew.stages t ≠ some (.working w true) := by
      intro w hw
      have hfate := Crew.fate_step hkeeps.tracks action t
      generalize hstage' : (h.crew.step action).stages t = stage at hfate
      cases hfate with
      | stays => exact ht w (hstage'.trans hw)
      | reserved command fanout hbefore => cases hw.symm.trans hbefore
      | announced command fanout pid now hbefore => cases hw.symm.trans hbefore
      | failed command fanout hbefore => cases hw.symm.trans hbefore
      | attached w' hbefore _ => cases hw.symm.trans hbefore
      | worked w' seen hbefore _ => exact ht _ hstage'
      | arrived w' attached arrival hbefore _ =>
        cases hw.symm.trans hbefore
        exact ht _ hstage'
    have hdeeds : h.crew.deeds t action = [] := by
      simp only [Crew.deeds]
      split
      · next hw => exact absurd hw (hbefore _)
      · next hw => exact absurd hw (hbefore _)
      · rfl
    simp only [step, hkeeps.silent t hbefore, hdeeds, List.append_nil]
  phase t w hstage := (hkeeps.holds_step hI hstage).1
  holds t w hstage := (hkeeps.holds_step hI hstage).2

theorem keeps_foldl (hI : Lasting tuning I) (hkeeps : h.Keeps tuning I)
    (actions : List (Crew.Action σ)) : (actions.foldl step h).Keeps tuning I := by
  induction actions generalizing h with
  | nil => exact hkeeps
  | cons action actions ih => exact ih (keeps_step hI hkeeps action)

end Step

/-- An invariant of single runs lasts in every interleaving, and what is known about any run does
too. -/
theorem keeps_after {tuning : Tuning} {I : Supervisor → Worker σ → List (Deed σ) → Prop}
    (hI : Lasting tuning I) (actions : List (Crew.Action σ)) :
    (after tuning actions).Keeps tuning I :=
  keeps_foldl hI keeps_new actions

/-- A property of every run whose input was attached: of the shared part, the worker and the log. -/
def Every (h : Chronicle σ) (P : Supervisor → Worker σ → List (Deed σ) → Prop) : Prop :=
  ∀ t w, h.crew.stages t = some (.working w true) → P h.crew.shared w (h.log t)

/-- **An invariant of single runs holds** for every run in every interleaving.  This is the only
induction over actions that theorems about single runs need. -/
theorem lasting_after {tuning : Tuning} {I : Supervisor → Worker σ → List (Deed σ) → Prop}
    (hI : Lasting tuning I) (actions : List (Crew.Action σ)) : (after tuning actions).Every I :=
  (keeps_after hI actions).holds

end Chronicle

end Overseer
