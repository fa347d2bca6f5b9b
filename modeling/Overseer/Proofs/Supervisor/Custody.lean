import Overseer.Proofs.Supervisor.Answers

/-!
# What the Relay Holds

The relay and what a supervisor shows of itself are guarded by two locks.  A start shows the process
first and attaches its input second; a run that ends detaches the input first and frees the
supervisor second, also when its worker breaks down.  So whatever falls between two of these
sections, the relay holds something of a run only while the supervisor shows that run.

- `Crew.Turn`: a critical section, or a worker that breaks down
- `Crew.custody_turn`: one turn keeps what the relay holds in the hands of a run
- `Crew.inCustody_afterTurns`: what follows for callers, in every interleaving
-/

namespace Overseer

open Agenda

variable {σ : Type} [Sink σ]

/-! ## Section 1: Relays that hold nothing

A relay holds something of a run when an input is attached or a prompt waits.  With neither, an
answer has nowhere to go, and its caller is told so. -/

namespace Relay

variable {r : Relay} {answer : Answer} {replies : PipeReplies}

/-- The relay holds something of a run: the input of its process, or a prompt without an answer. -/
def Engaged (r : Relay) : Prop := r.attached = true ∨ r.outstanding = true

theorem not_engaged_detach : ¬r.detach.Engaged := by
  rintro (hattached | hwaits)
  · cases hattached
  · exact absurd (outstanding_detach.symm.trans hwaits) nofun

theorem Engaged.of_supply (h : (r.supply answer replies).relay.Engaged) : r.Engaged := by
  rcases h with hattached | hwaits
  · rw [supply_attached] at hattached
    exact .inl hattached
  · rw [supply_settles] at hwaits
    exact absurd hwaits nofun

/-- An answer that finds nothing is written nowhere, and its caller is told so. -/
theorem supply_of_not_engaged (h : ¬r.Engaged) (answer : Answer) (replies : PipeReplies) :
    (r.supply answer replies).relay = r ∧ (r.supply answer replies).arrived = [] ∧
      ((r.supply answer replies).result = .error .noPrompt ∨
        (r.supply answer replies).result = .error .alreadyAnswered) := by
  have hidle : r.outstanding = false := by
    rw [Bool.eq_false_iff]
    exact fun hwaits => h (.inr hwaits)
  -- no prompt, or one that was answered already: in both cases nothing is written
  cases hwait : r.wait with
  | none =>
    rw [supply_noPrompt hwait]
    exact ⟨rfl, rfl, .inl rfl⟩
  | some w =>
    have hanswered : w.isResolved = true := by simpa [outstanding, hwait] using hidle
    rw [supply_alreadyAnswered hwait hanswered]
    exact ⟨rfl, rfl, .inr rfl⟩

end Relay

/-! ## Section 2: Workers that break down

A worker may break down at any moment and in the middle of its run.  What is left of it detaches its
input and frees the supervisor, and does nothing else; it is a worker with only that on its agenda.
-/

/-- The worker that is left of one that broke down inside of its run: all that it had before it is
lost, and the relay is to be detached and the supervisor to be freed. -/
def Worker.brokenDown (w : Worker σ) : Worker σ :=
  w.only [.detach, .settle collapsed, .collapse collapsed]

namespace Crew

/-- A worker breaks down that has not freed the supervisor. -/
def breakDown (c : Crew σ) (ticket : Nat) : Crew σ :=
  match c.stages ticket with
  | some (.working worker true) =>
    if worker.isSettled then c else c.put ticket (.working worker.brokenDown true)
  | _ => c

/-- What can happen next. -/
inductive Turn (σ : Type) where
  | act (action : Action σ)
  | breakDown (ticket : Nat)

/-- The crew after a turn. -/
def turn (c : Crew σ) : Turn σ → Crew σ
  | .act action => c.step action
  | .breakDown ticket => c.breakDown ticket

/-- The crew that an interleaving leads to in which workers may break down at any time. -/
def afterTurns (tuning : Tuning) (turns : List (Turn σ)) : Crew σ := turns.foldl turn (new tuning)

omit [Sink σ] in
/-- A worker breaks down only if there is one that has not freed the supervisor. -/
theorem breakDown_cases (c : Crew σ) (ticket : Nat) :
    c.breakDown ticket = c ∨
      ∃ w, c.stages ticket = some (.working w true) ∧ w.isSettled = false ∧
        c.breakDown ticket = c.put ticket (.working w.brokenDown true) := by
  unfold breakDown
  split
  · next w hstage =>
    split
    · exact .inl rfl
    · next hlive => exact .inr ⟨w, hstage, Bool.eq_false_iff.mpr hlive, rfl⟩
  · exact .inl rfl

omit [Sink σ] in
/-- Breaking down touches nothing that is shared. -/
theorem shared_breakDown (c : Crew σ) (ticket : Nat) : (c.breakDown ticket).shared = c.shared := by
  rcases breakDown_cases c ticket with h | ⟨w, -, -, h⟩
  · rw [h]
  · rw [h]
    rfl

end Crew

namespace Chronicle

omit [Sink σ] in
/-- A worker that breaks down leaves every invariant of runs true that holds of workers that gave
up. -/
theorem Keeps.breakDown {tuning : Tuning} {I : Supervisor → Worker σ → List (Deed σ) → Prop}
    {h : Chronicle σ} (hkeeps : h.Keeps tuning I) (ticket : Nat)
    (hbroken : ∀ s (w : Worker σ) log, I s w.brokenDown log) :
    (⟨h.crew.breakDown ticket, h.log⟩ : Chronicle σ).Keeps tuning I := by
  rcases h.crew.breakDown_cases ticket with hsame | ⟨w, hstage, hlive, hput⟩
  · rw [hsame]
    exact hkeeps
  · rw [hput]
    constructor
    case tracks =>
      exact hkeeps.tracks.goOn hstage rfl rfl rfl (.inl (.plain rfl (.abort _))) hlive.symm
    case tuned => exact hkeeps.tuned
    case fresh =>
      intro t w' hstage'
      rcases Crew.stages_put_cases hstage' with ⟨-, hnew⟩ | ⟨-, hold⟩
      · cases hnew
      · exact hkeeps.fresh t w' hold
    case silent =>
      intro t hnone
      apply hkeeps.silent t
      intro w' hstage'
      -- a run that has begun is still there, as it was or broken down
      by_cases ht : t = ticket
      · apply hnone
        rw [Crew.stages_put, if_pos ht]
      · apply hnone w'
        rw [Crew.stages_put, if_neg ht]
        exact hstage'
    case phase =>
      intro t w' hstage'
      rcases Crew.stages_put_cases hstage' with ⟨-, hnew⟩ | ⟨-, hold⟩
      · cases hnew
        exact .givenUp .detaching
      · exact hkeeps.phase t w' hold
    case holds =>
      intro t w' hstage'
      rcases Crew.stages_put_cases hstage' with ⟨-, hnew⟩ | ⟨-, hold⟩
      · cases hnew
        exact hbroken _ _ _
      · exact hkeeps.holds t w' hold

end Chronicle

/-! ## Section 3: Who holds the relay

The worker that is served has not freed the supervisor.  It lets go of the relay one section
earlier, so between the two the relay holds nothing. -/

/-- A run that is about to free the supervisor has left nothing with the relay. -/
def Released (s : Supervisor) (w : Worker σ) (_ : List (Deed σ)) : Prop :=
  (settling? w.agenda).isSome = true → ¬s.relay.Engaged

/-- **A run that is about to settle its outcome has let go of the relay.** Every way to that task
leads over the one that lets go. -/
theorem lasting_released (tuning : Tuning) : Lasting (σ := σ) tuning Released where
  begins s w _ hfresh := by
    intro hsettling
    rw [hfresh.agenda] at hsettling
    cases hsettling
  works s w log seen ha _ := by
    intro hsettling
    obtain ⟨outcome, houtcome⟩ := Option.isSome_iff_exists.mp hsettling
    by_cases hover : w.agenda = []
    · rw [Worker.step_over s seen hover, hover] at houtcome
      cases houtcome
    · -- the step before the settling is the one that detaches the relay
      have hdetach := (Worker.next_step s seen ha.phase hover).of_settling houtcome
      obtain ⟨rest, hagenda⟩ := List.head?_eq_some_iff.mp hdetach
      rw [Worker.relay_step seen hagenda]
      exact Relay.not_engaged_detach
  arrives s w log arrival h := h
  answers s w log answer replies _ h := by
    intro hsettling hengaged
    exact h hsettling hengaged.of_supply
  asks s w log ticket h := h
  leaves s s' w log hsettled _ := by
    intro hsettling
    obtain ⟨outcome, houtcome⟩ := Option.isSome_iff_exists.mp hsettling
    obtain ⟨rest, hagenda⟩ := settling?_eq_some houtcome
    rw [Worker.isSettled, hagenda] at hsettled
    cases hsettled

namespace Crew

variable {c : Crew σ}

/-- A run that has its input attached and has not freed the supervisor. -/
def Served (c : Crew σ) : Prop :=
  ∃ t w, c.stages t = some (.working w true) ∧ w.isSettled = false

/-- Only a worker, or the start of one, makes the relay hold something. -/
theorem engaged_step {action : Action σ} (hwork : ∀ t seen, action ≠ .work t seen)
    (hattach : ∀ t, action ≠ .attach t) (h : (c.step action).shared.relay.Engaged) :
    c.shared.relay.Engaged := by
  cases action with
  | reserve command fanout =>
    simp only [step] at h
    split at h
    · -- a reservation that fails changes nothing
      exact h
    · next hreserve =>
      -- one that holds gives the ticket away and leaves the relay alone
      obtain ⟨hidle, hstarting⟩ := Supervisor.free_of_reserve_ok hreserve
      rw [Supervisor.reserve_of_free hidle hstarting] at hreserve
      cases hreserve
      exact h
  | announce | release | arrive =>
    simp only [step] at h
    split at h <;> exact h
  | attach t => exact absurd rfl (hattach t)
  | work t seen => exact absurd rfl (hwork t seen)
  -- a request to stop is put down beside the relay
  | cancel =>
    rw [← Supervisor.relay_cancel]
    exact h
  | answer a replies => exact h.of_supply

/-- Whoever is served is served still after something that is not its own step. -/
theorem served_others (htracks : c.Tracks) {action : Action σ} {t : Nat} {w : Worker σ}
    (hstage : c.stages t = some (.working w true)) (hlive : w.isSettled = false)
    (haction : ∀ seen, action ≠ .work t seen) : (c.step action).Served := by
  obtain ⟨w', hstage', hsame⟩ := attached_step htracks hstage haction
  exact ⟨t, w', hstage', hsame.trans hlive⟩

/-- What is known about a crew and its relay: its runs fit the supervisor, and whatever the relay
holds belongs to a run. -/
structure Custody (tuning : Tuning) (c : Crew σ) : Prop where
  runs : ∃ log, (⟨c, log⟩ : Chronicle σ).Keeps tuning Released
  held : c.shared.relay.Engaged → c.Served

variable {tuning : Tuning}

/-- A step of a worker leaves what the relay holds with a run. -/
theorem Custody.work (hcustody : c.Custody tuning) (ticket : Nat) (seen : Observation)
    (hengaged : (c.step (.work ticket seen)).shared.relay.Engaged) :
    (c.step (.work ticket seen)).Served := by
  obtain ⟨log, hkeeps⟩ := hcustody.runs
  by_cases hthere : ∃ w, c.stages ticket = some (.working w true)
  · obtain ⟨w, hstage⟩ := hthere
    have hphase := hkeeps.phase ticket w hstage
    rw [step_work hstage] at hengaged ⊢
    cases hlive : w.isSettled with
    | true =>
      -- a run that is over touches nothing, so somebody else is served
      have hshared := (Worker.settled_step c.shared seen (hphase.settled hlive)).1
      have hbefore : c.shared.relay.Engaged := by
        rw [hshared] at hengaged
        exact hengaged
      obtain ⟨t, w', hstage', hlive'⟩ := hcustody.held hbefore
      have hne : t ≠ ticket := by
        rintro rfl
        cases hstage.symm.trans hstage'
        exact absurd (hlive.symm.trans hlive') nofun
      refine ⟨t, w', ?_, hlive'⟩
      rw [stages_put, if_neg hne]
      exact hstage'
    | false =>
      refine ⟨ticket, (w.step c.shared seen).worker, ?_, ?_⟩
      · rw [stages_put, if_pos rfl]
      · -- the step that frees the supervisor comes when the relay was detached
        rw [Bool.eq_false_iff]
        intro hsettled
        have hne : w.agenda ≠ [] := by
          intro hover
          rw [Worker.isSettled, hover] at hlive
          cases hlive
        obtain ⟨outcome, rest, hagenda⟩ :=
          (Worker.next_step c.shared seen hphase hne).of_settled hlive hsettled
        have hreleased : ¬c.shared.relay.Engaged :=
          hkeeps.holds ticket w hstage (by rw [hagenda]; rfl)
        apply hreleased
        have hrelay : (w.step c.shared seen).shared.relay = c.shared.relay := by
          rw [Worker.relay_step seen hagenda]
          rfl
        rw [← hrelay]
        exact hengaged
  · have hsame : c.step (.work ticket seen) = c := by
      simp only [step]
      split
      · next w hstage => exact absurd ⟨w, hstage⟩ hthere
      · rfl
    rw [hsame] at hengaged ⊢
    exact hcustody.held hengaged

/-- **One critical section** leaves what the relay holds with a run.  Attaching gives the relay to
the run that is shown, and no section takes it from there to another run. -/
theorem custody_step (hcustody : c.Custody tuning) (action : Action σ) :
    (c.step action).Custody tuning := by
  obtain ⟨log, hkeeps⟩ := hcustody.runs
  refine ⟨⟨_, Chronicle.keeps_step (lasting_released tuning) hkeeps action⟩, fun hengaged => ?_⟩
  by_cases hwork : ∃ t seen, action = .work t seen
  · obtain ⟨t, seen, rfl⟩ := hwork
    exact hcustody.work t seen hengaged
  have hnotWork : ∀ t seen, action ≠ .work t seen := fun t seen h => hwork ⟨t, seen, h⟩
  -- a start serves its own run; everybody else finds what the relay held before
  by_cases hattach : ∃ t w, action = .attach t ∧ c.stages t = some (.working w false)
  · obtain ⟨t, w, rfl, hstage⟩ := hattach
    refine ⟨t, w, ?_, (hkeeps.fresh t w hstage).isSettled⟩
    simp only [step, hstage, stages_put, if_true]
  have hbefore : c.shared.relay.Engaged := by
    by_cases hother : ∃ t, action = .attach t
    · obtain ⟨t, rfl⟩ := hother
      have hsame : c.step (.attach t) = c := by
        simp only [step]
        split
        · next w hstage => exact absurd ⟨t, w, rfl, hstage⟩ hattach
        · rfl
      rw [hsame] at hengaged
      exact hengaged
    · exact engaged_step hnotWork (fun t h => hother ⟨t, h⟩) hengaged
  obtain ⟨t, w, hstage, hlive⟩ := hcustody.held hbefore
  exact served_others hkeeps.tracks hstage hlive (hnotWork t)

omit [Sink σ] in
/-- **A worker that breaks down** still holds on to what it has with the relay.  What it has left to
do lets go of it. -/
theorem custody_breakDown (hcustody : c.Custody tuning) (ticket : Nat) :
    (c.breakDown ticket).Custody tuning := by
  obtain ⟨log, hkeeps⟩ := hcustody.runs
  -- a worker that breaks down has no settling in front of it
  refine ⟨⟨log, hkeeps.breakDown ticket fun s w log hsettling => ?_⟩, fun hengaged => ?_⟩
  · cases hsettling
  · rw [shared_breakDown] at hengaged
    obtain ⟨t, w, hstage, hlive⟩ := hcustody.held hengaged
    rcases breakDown_cases c ticket with h | ⟨w', -, -, h⟩
    · rw [h]
      exact ⟨t, w, hstage, hlive⟩
    · rw [h]
      -- it keeps what it had, and any other run is untouched
      by_cases ht : t = ticket
      · refine ⟨t, w'.brokenDown, ?_, rfl⟩
        rw [stages_put, if_pos ht]
      · refine ⟨t, w, ?_, hlive⟩
        rw [stages_put, if_neg ht]
        exact hstage

/-- **One turn** leaves what the relay holds with a run. -/
theorem custody_turn (hcustody : c.Custody tuning) (turn : Turn σ) :
    (c.turn turn).Custody tuning := by
  cases turn with
  | act action => exact custody_step hcustody action
  | breakDown ticket => exact custody_breakDown hcustody ticket

theorem custody_foldl (hcustody : c.Custody tuning) (turns : List (Turn σ)) :
    (turns.foldl turn c).Custody tuning := by
  induction turns generalizing c with
  | nil => exact hcustody
  | cons turn turns ih => exact ih (custody_turn hcustody turn)

/-! ## Section 4: What callers rely on

From the invariant to what is seen from outside: the state that a supervisor shows, and the relay.
-/

/-- The relay holds something only for the run that the supervisor shows.  So whoever looks at the
relay while no run is shown finds nothing to write to. -/
structure InCustody (c : Crew σ) : Prop where
  /-- Input is attached only while the supervisor shows a process. -/
  attached : c.shared.relay.attached = true → c.shared.activity.isRunning = true
  /-- A prompt waits for its answer only while the supervisor shows a process. -/
  waiting : c.shared.relay.outstanding = true → c.shared.activity.isRunning = true
  /-- What the relay holds belongs to the run whose process is shown. -/
  owner : c.shared.relay.Engaged →
    ∃ t w, c.Runs t w ∧ c.shared.activity = .running w.pid w.command.display
  /-- An answer while no run is active reaches no process and changes nothing, and its caller is
  told that no prompt waits or that the prompt has its answer. -/
  late : c.shared.activity.isRunning = false → ∀ answer replies,
    (c.shared.answer answer replies).2.1 = [] ∧ c.step (.answer answer replies) = c ∧
      ((c.shared.answer answer replies).1 = .error .noPrompt ∨
        (c.shared.answer answer replies).1 = .error .alreadyAnswered)

/-- What is in custody is told from what a worker holds: while the relay has an input or a wait, one
run has them, and it is the one that is shown. -/
theorem Custody.inCustody (hcustody : c.Custody tuning) : c.InCustody := by
  obtain ⟨log, hkeeps⟩ := hcustody.runs
  have howner : c.shared.relay.Engaged →
      ∃ t w, c.Runs t w ∧ c.shared.activity = .running w.pid w.command.display := by
    intro hengaged
    obtain ⟨t, w, hstage, hlive⟩ := hcustody.held hengaged
    have hruns : c.Runs t w := ⟨true, hstage, hlive⟩
    exact ⟨t, w, hruns, (hkeeps.tracks.runs t w hruns).2⟩
  -- the relay is held by a run, and while there is one the supervisor shows that it runs
  have hrunning : c.shared.relay.Engaged → c.shared.activity.isRunning = true := by
    intro hengaged
    obtain ⟨t, w, -, hshown⟩ := howner hengaged
    rw [hshown]
    rfl
  refine
    { attached := fun h => hrunning (.inl h)
      waiting := fun h => hrunning (.inr h)
      owner := howner
      late := fun hidle answer replies => ?_ }
  -- idle, so nobody holds the relay
  have hnone : ¬c.shared.relay.Engaged := by
    intro hengaged
    exact absurd (hidle.symm.trans (hrunning hengaged)) nofun
  obtain ⟨hrelay, harrived, hresult⟩ := Relay.supply_of_not_engaged hnone answer replies
  refine ⟨harrived, ?_, hresult⟩
  have hshared : (c.shared.answer answer replies).2.2 = c.shared := by
    simp only [Supervisor.answer, hrelay]
  simp only [step, hshared]
  rfl

/-- **The relay is in the custody of the active run**, in every interleaving of starts, callers and
workers, some of which may break down.  So an answer never reaches a run that is over, or one that
is still to come. -/
theorem inCustody_afterTurns (tuning : Tuning) (turns : List (Turn σ)) :
    (afterTurns tuning turns).InCustody := by
  have hnew : (new tuning : Crew σ).Custody tuning := by
    refine ⟨⟨fun _ => [], Chronicle.keeps_new⟩, fun hengaged => ?_⟩
    rcases hengaged with h | h
    · cases h
    · cases h
  exact (custody_foldl hnew turns).inCustody

/-- Between the two sections of a worker that broke down, the process is shown and nothing is held. -/
example (tuning : Tuning) (command : Command) (fanout : Fanout σ) (seen : Observation) :
    let c := afterTurns tuning [.act (.reserve command fanout), .act (.announce 0 7 0),
      .act (.attach 0), .breakDown 0, .act (.work 0 seen)]
    ¬c.shared.relay.Engaged ∧ c.shared.activity = .running 7 command.display :=
  ⟨Relay.not_engaged_detach, rfl⟩

end Crew

end Overseer
