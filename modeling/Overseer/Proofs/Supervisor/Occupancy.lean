import Overseer.Proofs.Supervisor.Crew

/-!
# Who Occupies a Supervisor

The shared part of a supervisor says who occupies it: a run whose process is being made, a run with
a worker, or nobody.  Here this is tied to the runs themselves, over every interleaving of starts,
workers and callers.

- `Crew.Active`: the runs that occupy the supervisor
- `Crew.Tracks`: the invariant
- `Crew.tracks_step`: one critical section keeps it
- `Crew.tracks_after`: it holds in every interleaving
-/

namespace Overseer

open Agenda

variable {σ : Type}

/-! ## Section 1: Reserving

A start first reserves the supervisor, makes its process without the lock, and announces it.  These
lemmas say what a supervisor shows in between. -/

namespace Supervisor

variable {s : Supervisor}

theorem reserve_of_running {pid : Nat} {command : String} (h : s.activity = .running pid command) :
    s.reserve = .error (.busy pid) := by
  simp only [reserve, h]

theorem reserve_of_starting (hidle : s.activity.isRunning = false) (h : s.starting = true) :
    s.reserve = .error .starting := by
  simp only [reserve]
  split
  · next hrunning => rw [hrunning] at hidle; exact absurd hidle nofun
  · rw [if_pos h]

theorem reserve_of_free (hidle : s.activity.isRunning = false) (h : s.starting = false) :
    s.reserve = .ok (s.nextTicket,
      { s with starting := true, slot := some s.nextTicket, nextTicket := s.nextTicket + 1 }) := by
  simp only [reserve]
  split
  · next hrunning => rw [hrunning] at hidle; exact absurd hidle nofun
  · rw [h, if_neg Bool.false_ne_true]

/-- Only a free supervisor can be reserved. -/
theorem free_of_reserve_ok {reserved : Nat × Supervisor} (h : s.reserve = .ok reserved) :
    s.activity.isRunning = false ∧ s.starting = false := by
  cases hactivity : s.activity with
  -- a supervisor that shows a process is busy
  | running pid command =>
    rw [reserve_of_running hactivity] at h
    exact absurd h nofun
  | idle | finished _ =>
    have hidle : s.activity.isRunning = false := by rw [hactivity]; rfl
    -- one that shows none may still be about to start one
    cases hstarting : s.starting with
    | true =>
      rw [reserve_of_starting hidle hstarting] at h
      exact absurd h nofun
    | false => exact ⟨rfl, rfl⟩

end Supervisor

/-! ## Section 2: Active runs

A run occupies the supervisor from its reservation until it frees the supervisor.  By its stages
that is: its process is being made, or it has a worker that has not settled the outcome. -/

/-- Whether a run is reserved or active: its supervisor is not free yet. -/
def Stage.isActive : Stage σ → Bool
  | .making .. => true
  | .working worker _ => !worker.isSettled
  | .failed => false

namespace Crew

/-- The process of the run is being made. -/
def Reserved (c : Crew σ) (ticket : Nat) : Prop :=
  ∃ command fanout, c.stages ticket = some (.making command fanout)

/-- The run was announced and its worker has not freed the supervisor. -/
def Runs (c : Crew σ) (ticket : Nat) (worker : Worker σ) : Prop :=
  ∃ attached, c.stages ticket = some (.working worker attached) ∧ worker.isSettled = false

/-- The run is reserved or active. -/
def Active (c : Crew σ) (ticket : Nat) : Prop :=
  ∃ stage, c.stages ticket = some stage ∧ stage.isActive = true

theorem active_iff {c : Crew σ} {ticket : Nat} :
    c.Active ticket ↔ c.Reserved ticket ∨ ∃ worker, c.Runs ticket worker := by
  constructor
  · rintro ⟨stage, hstage, hactive⟩
    cases stage with
    | making command fanout => exact .inl ⟨command, fanout, hstage⟩
    | working worker attached =>
      exact .inr ⟨worker, attached, hstage, by simpa [Stage.isActive] using hactive⟩
    | failed => exact absurd hactive nofun
  · rintro (⟨command, fanout, hstage⟩ | ⟨worker, attached, hstage, hsettled⟩)
    · exact ⟨_, hstage, rfl⟩
    · exact ⟨_, hstage, by simp [Stage.isActive, hsettled]⟩

/-! ## Section 3: The invariant

The shared part shows at most one run, and the stages have at most one that is active; the invariant
says that they are the same. -/

/-- The shared part of a crew fits its runs.  A run that is reserved or active is the only one, and
the shared part shows it. -/
structure Tracks (c : Crew σ) : Prop where
  /-- The slot names the run that occupies the supervisor. -/
  slot : ∀ t, c.shared.slot = some t ↔ c.Active t
  /-- Nobody else occupies it. -/
  free : c.shared.slot = none → c.shared.starting = false ∧ c.shared.activity.isRunning = false
  /-- A run whose process is being made is shown as a reservation. -/
  making : ∀ t, c.Reserved t → c.shared.starting = true ∧ c.shared.activity.isRunning = false
  /-- A run with a worker is shown with its process. -/
  runs : ∀ t worker, c.Runs t worker → c.shared.starting = false ∧
    c.shared.activity = .running worker.pid worker.command.display
  /-- A worker knows its ticket, and its agenda has one of the two shapes. -/
  workers : ∀ t worker attached, c.stages t = some (.working worker attached) →
    worker.ticket = t ∧ (Live worker.agenda ∨ Settled worker.agenda)
  /-- Tickets are given out in order. -/
  unborn : ∀ t, c.shared.nextTicket ≤ t → c.stages t = none
  /-- Only runs that were reserved are asked to stop. -/
  requests : ∀ t, c.shared.stopRequested t = true → t < c.shared.nextTicket

section Tracks

variable {c : Crew σ} {shared : Supervisor} {ticket : Nat} {stage : Stage σ}

theorem Reserved.active (h : c.Reserved ticket) : c.Active ticket := active_iff.mpr (.inl h)

theorem Runs.active {worker : Worker σ} (h : c.Runs ticket worker) : c.Active ticket :=
  active_iff.mpr (.inr ⟨worker, h⟩)

theorem active_of_stage (h : c.stages ticket = some stage) :
    c.Active ticket ↔ stage.isActive = true := by
  simp [Active, h]

theorem stages_put (t : Nat) :
    (c.put ticket stage).stages t = if t = ticket then some stage else c.stages t := rfl

/-- A stage after a run was put at a new one is the new one or stood before. -/
theorem stages_put_cases {t : Nat} {found : Stage σ}
    (h : (c.put ticket stage).stages t = some found) :
    t = ticket ∧ stage = found ∨ t ≠ ticket ∧ c.stages t = some found := by
  rw [stages_put] at h
  split at h
  · next ht => exact .inl ⟨ht, Option.some.inj h⟩
  · next ht => exact .inr ⟨ht, h⟩

theorem stages_put_of_lt {t : Nat} (h : ticket < t) :
    (c.put ticket stage).stages t = c.stages t := by
  rw [stages_put, if_neg (by omega)]

theorem active_put (t : Nat) :
    (c.put ticket stage).Active t ↔
      t = ticket ∧ stage.isActive = true ∨ t ≠ ticket ∧ c.Active t := by
  simp only [Active, stages_put]
  by_cases ht : t = ticket
  · simp [ht]
  · simp [ht]

theorem Tracks.eq_of_active (htracks : c.Tracks) {t u : Nat} (ht : c.Active t) (hu : c.Active u) :
    t = u :=
  Option.some.inj (((htracks.slot t).mpr ht).symm.trans ((htracks.slot u).mpr hu))

/-- A run that was reserved has a ticket that was given out. -/
theorem Tracks.lt_nextTicket (htracks : c.Tracks) (h : c.stages ticket = some stage) :
    ticket < c.shared.nextTicket := by
  refine Nat.lt_of_not_le fun hle => ?_
  rw [htracks.unborn ticket hle] at h
  exact absurd h nofun

/-- A change of the relay alone keeps the invariant. -/
theorem Tracks.withRelay (htracks : c.Tracks) (relay : Relay) :
    (c.withShared { c.shared with relay }).Tracks :=
  ⟨htracks.slot, htracks.free, htracks.making, htracks.runs, htracks.workers, htracks.unborn,
    htracks.requests⟩

/-- The worker of a run may go on as long as it remains the worker of the run and frees nothing. -/
theorem Tracks.goOn (htracks : c.Tracks) {before after : Worker σ} {attached attached' : Bool}
    (hstage : c.stages ticket = some (.working before attached))
    (hcommand : after.command = before.command) (hticket : after.ticket = before.ticket)
    (hpid : after.pid = before.pid) (hshape : Live after.agenda ∨ Settled after.agenda)
    (hsettled : after.isSettled = before.isSettled) :
    (c.put ticket (.working after attached')).Tracks where
  slot t := by
    rw [active_put]
    -- in the slot stands the same run as before, if it is this one
    by_cases ht : t = ticket
    · have hactive : Stage.isActive (.working after attached') =
          Stage.isActive (.working before attached) := by simp only [Stage.isActive, hsettled]
      simp only [ht, hactive, ne_eq, not_true_eq_false, false_and, true_and, or_false,
        ← active_of_stage hstage]
      exact htracks.slot ticket
    · simp only [ht, ne_eq, not_false_eq_true, false_and, true_and, false_or]
      exact htracks.slot t
  free := htracks.free
  making t := by
    -- a run that is being made is not this one, which has a worker already
    rintro ⟨command, fanout, h⟩
    rcases stages_put_cases h with ⟨-, hput⟩ | ⟨-, h⟩
    · cases hput
    · exact htracks.making t ⟨command, fanout, h⟩
  runs t worker := by
    rintro ⟨attached'', h, hlive⟩
    -- of this run the new worker is alive because the old one was
    rcases stages_put_cases h with ⟨-, hput⟩ | ⟨-, h⟩
    · cases hput
      rw [hpid, hcommand]
      exact htracks.runs ticket before ⟨attached, hstage, hsettled ▸ hlive⟩
    · exact htracks.runs t worker ⟨attached'', h, hlive⟩
  workers t worker attached'' h := by
    rcases stages_put_cases h with ⟨rfl, hput⟩ | ⟨-, h⟩
    · cases hput
      rw [hticket]
      exact ⟨(htracks.workers t before attached hstage).1, hshape⟩
    · exact htracks.workers t worker attached'' h
  unborn t ht := by
    -- the stages of later tickets are still untouched
    rw [stages_put_of_lt (Nat.lt_of_lt_of_le (htracks.lt_nextTicket hstage) ht)]
    exact htracks.unborn t ht
  requests := htracks.requests

/-- A run may free the supervisor. -/
theorem Tracks.vacate (htracks : c.Tracks) (hactive : c.Active ticket)
    (hstage : stage.isActive = false)
    (hworker : ∀ worker attached, stage = .working worker attached →
      worker.ticket = ticket ∧ Settled worker.agenda)
    (hslot : shared.slot = none) (hstarting : shared.starting = false)
    (hidle : shared.activity.isRunning = false) (hnext : shared.nextTicket = c.shared.nextTicket)
    (hrequests : shared.stopRequests = c.shared.stopRequests) :
    ((c.withShared shared).put ticket stage).Tracks := by
  -- the run that leaves was the only one
  have hnone : ∀ t, ¬((c.withShared shared).put ticket stage).Active t := by
    intro t ht
    rcases (active_put t).mp ht with ⟨-, hactive'⟩ | ⟨hne, ht⟩
    · rw [hstage] at hactive'
      exact absurd hactive' nofun
    · exact hne (htracks.eq_of_active ht hactive)
  refine
    { slot := fun t => ⟨fun h => ?_, fun h => absurd h (hnone t)⟩
      free := fun _ => ⟨hstarting, hidle⟩
      making := fun t h => absurd h.active (hnone t)
      runs := fun t worker h => absurd h.active (hnone t)
      workers := fun t worker attached h => ?_
      unborn := fun t ht => ?_
      requests := fun t h => ?_ }
  · exact absurd (hslot.symm.trans h) nofun
  · rcases stages_put_cases h with ⟨rfl, hput⟩ | ⟨-, h⟩
    · obtain ⟨hticket, hsettled⟩ := hworker worker attached hput
      exact ⟨hticket, .inr hsettled⟩
    · exact htracks.workers t worker attached h
  · obtain ⟨before, hbefore, -⟩ := hactive
    have hle : c.shared.nextTicket ≤ t := hnext ▸ ht
    rw [stages_put_of_lt (Nat.lt_of_lt_of_le (htracks.lt_nextTicket hbefore) hle)]
    exact htracks.unborn t hle
  · have hasked : c.shared.stopRequested t = true := by
      rw [Supervisor.stopRequested, ← hrequests]
      exact h
    exact hnext ▸ htracks.requests t hasked

theorem Tracks.not_active_of_free (htracks : c.Tracks)
    (hidle : c.shared.activity.isRunning = false) (hstarting : c.shared.starting = false)
    (t : Nat) : ¬c.Active t := by
  intro hactive
  rcases active_iff.mp hactive with hreserved | ⟨worker, hruns⟩
  · exact absurd ((htracks.making t hreserved).1.symm.trans hstarting) nofun
  · rw [(htracks.runs t worker hruns).2] at hidle
    exact absurd hidle nofun

/-- A request to stop reaches the run that is reserved or active. -/
theorem cancel_of_active (htracks : c.Tracks) {ticket : Nat} (h : c.Active ticket) :
    c.shared.cancel = (true, c.shared.requestStop ticket) := by
  have hslot := (htracks.slot ticket).mpr h
  have hshown : (c.shared.activity.isRunning || c.shared.starting) = true := by
    rcases active_iff.mp h with hreserved | ⟨worker, hruns⟩
    · rw [(htracks.making ticket hreserved).1, Bool.or_true]
    · rw [(htracks.runs ticket worker hruns).2]
      rfl
  simp only [Supervisor.cancel, hslot, hshown, if_true]

/-- A request to stop does nothing while no run is reserved or active. -/
theorem cancel_of_free (htracks : c.Tracks) (h : ∀ t, ¬c.Active t) :
    c.shared.cancel = (false, c.shared) := by
  have hslot : c.shared.slot = none := by
    cases hslot : c.shared.slot with
    | none => rfl
    | some ticket => exact absurd ((htracks.slot ticket).mp hslot) (h ticket)
  simp only [Supervisor.cancel, hslot]

/-- What a start is told, in every state of a crew. -/
theorem reserve_cases (htracks : c.Tracks) :
    (∃ t, c.Reserved t ∧ c.shared.reserve = .error .starting) ∨
      (∃ t worker, c.Runs t worker ∧ c.shared.reserve = .error (.busy worker.pid)) ∨
      ((∀ t, ¬c.Active t) ∧ ∃ shared, c.shared.reserve = .ok (c.shared.nextTicket, shared)) := by
  -- nobody holds the slot, or a run that is being made does, or one that has begun
  cases hslot : c.shared.slot with
  | none =>
    obtain ⟨hstarting, hidle⟩ := htracks.free hslot
    exact .inr (.inr ⟨htracks.not_active_of_free hidle hstarting, _,
      Supervisor.reserve_of_free hidle hstarting⟩)
  | some ticket =>
    rcases active_iff.mp ((htracks.slot ticket).mp hslot) with hreserved | ⟨worker, hruns⟩
    · obtain ⟨hstarting, hidle⟩ := htracks.making ticket hreserved
      exact .inl ⟨ticket, hreserved, Supervisor.reserve_of_starting hidle hstarting⟩
    · obtain ⟨-, hrunning⟩ := htracks.runs ticket worker hruns
      exact .inr (.inl ⟨ticket, worker, hruns, Supervisor.reserve_of_running hrunning⟩)

end Tracks

theorem tracks_new (tuning : Tuning) : (new tuning : Crew σ).Tracks := by
  have hnone : ∀ t, ¬(new tuning : Crew σ).Active t := by
    rintro t ⟨stage, hstage, -⟩
    exact absurd hstage nofun
  exact
    { slot := fun t => ⟨fun h => absurd h nofun, fun h => absurd h (hnone t)⟩
      free := fun _ => ⟨rfl, rfl⟩
      making := fun t h => absurd h.active (hnone t)
      runs := fun t worker h => absurd h.active (hnone t)
      workers := fun t worker attached h => absurd h nofun
      unborn := fun t _ => rfl
      requests := fun t h => absurd h Bool.false_ne_true }

/-! ## Section 4: One critical section

One case for each action.  A run either stays where it is on the slot, enters a slot that is free,
or leaves the one it has. -/

variable [Sink σ]

section Step

variable {c : Crew σ}

theorem Tracks.reserve (htracks : c.Tracks) (command : Command) (fanout : Fanout σ) :
    (c.step (.reserve command fanout)).Tracks := by
  simp only [step]
  split
  · exact htracks
  · next ticket shared hreserve =>
    obtain ⟨hidle, hstarting⟩ := Supervisor.free_of_reserve_ok hreserve
    rw [Supervisor.reserve_of_free hidle hstarting] at hreserve
    cases hreserve
    -- the supervisor was free, so the new run is the only one that is active
    have hnone := htracks.not_active_of_free hidle hstarting
    refine
      { slot := fun t => ?_
        free := fun h => absurd h nofun
        making := fun t _ => ⟨rfl, hidle⟩
        runs := fun t worker h => ?_
        workers := fun t worker attached h => ?_
        unborn := fun t ht => ?_
        requests := fun t h => Nat.lt_succ_of_lt (htracks.requests t h) }
    · rw [active_put]
      constructor
      · intro h
        exact .inl ⟨(Option.some.inj h).symm, rfl⟩
      · rintro (⟨rfl, -⟩ | ⟨-, hactive⟩)
        · rfl
        · exact absurd hactive (hnone t)
    · obtain ⟨attached, h, hlive⟩ := h
      rcases stages_put_cases h with ⟨-, hput⟩ | ⟨-, h⟩
      · cases hput
      · exact absurd (Runs.active ⟨attached, h, hlive⟩) (hnone t)
    · rcases stages_put_cases h with ⟨-, hput⟩ | ⟨-, h⟩
      · cases hput
      · exact htracks.workers t worker attached h
    · have ht : c.shared.nextTicket < t := ht
      rw [stages_put_of_lt ht]
      exact htracks.unborn t (Nat.le_of_lt ht)

/-- A run that was reserved is announced: its process is shown, it has a worker now, and it holds
the slot as before. -/
theorem Tracks.announce (htracks : c.Tracks) (ticket pid now : Nat) :
    (c.step (.announce ticket pid now)).Tracks := by
  simp only [step]
  split
  · next command fanout hstage =>
    have hreserved : c.Reserved ticket := ⟨command, fanout, hstage⟩
    have hother : ∀ t, c.Active t → t = ticket := fun t ht =>
      htracks.eq_of_active ht hreserved.active
    refine
      { slot := fun t => ?_
        free := fun h => ⟨rfl, ?_⟩
        making := fun t h => ?_
        runs := fun t worker h => ?_
        workers := fun t worker attached h => ?_
        unborn := fun t ht => ?_
        requests := htracks.requests }
    · -- the run is active before and after
      rw [active_put]
      refine (htracks.slot t).trans ⟨fun ht => .inl ⟨hother t ht, rfl⟩, ?_⟩
      rintro (⟨rfl, -⟩ | ⟨-, ht⟩)
      · exact hreserved.active
      · exact ht
    · -- the slot is not free: the run that is announced holds it
      have hslot := (htracks.slot ticket).mpr hreserved.active
      exact absurd (hslot.symm.trans h) nofun
    · obtain ⟨command', fanout', h⟩ := h
      rcases stages_put_cases h with ⟨-, hput⟩ | ⟨hne, h⟩
      · -- this run is no longer being made, and no other one is active
        cases hput
      · exact absurd (hother t (Reserved.active ⟨command', fanout', h⟩)) hne
    · obtain ⟨attached, h, hlive⟩ := h
      -- the process that is shown is the one that was announced
      rcases stages_put_cases h with ⟨-, hput⟩ | ⟨hne, h⟩
      · cases hput
        exact ⟨rfl, rfl⟩
      · exact absurd (hother t (Runs.active ⟨attached, h, hlive⟩)) hne
    · rcases stages_put_cases h with ⟨rfl, hput⟩ | ⟨-, h⟩
      · -- a new worker has to tell that it started, and then to listen
        cases hput
        exact ⟨rfl, .inl (.plain rfl (.lead rfl))⟩
      · exact htracks.workers t worker attached h
    · -- later tickets are untouched
      have hle : c.shared.nextTicket ≤ t := ht
      rw [stages_put_of_lt (Nat.lt_of_lt_of_le (htracks.lt_nextTicket hstage) hle)]
      exact htracks.unborn t hle
  · exact htracks

theorem Tracks.release (htracks : c.Tracks) (ticket : Nat) :
    (c.step (.release ticket)).Tracks := by
  simp only [step]
  split
  · next command fanout hstage =>
    have hreserved : c.Reserved ticket := ⟨command, fanout, hstage⟩
    refine htracks.vacate hreserved.active rfl (fun worker attached h => ?_) rfl rfl rfl rfl rfl
    cases h
  · exact htracks

theorem Tracks.attach (htracks : c.Tracks) (ticket : Nat) : (c.step (.attach ticket)).Tracks := by
  simp only [step]
  split
  · next worker hstage =>
    exact (htracks.withRelay c.shared.relay.attach).goOn hstage rfl rfl rfl
      (htracks.workers ticket worker false hstage).2 rfl
  · exact htracks

theorem Tracks.work (htracks : c.Tracks) (ticket : Nat) (seen : Observation) :
    (c.step (.work ticket seen)).Tracks := by
  simp only [step]
  split
  · next worker hstage =>
    obtain ⟨hticket, hshape⟩ := htracks.workers ticket worker true hstage
    obtain ⟨hcommand, hkept, hpid⟩ := Worker.identity_step c.shared worker seen
    -- a live worker stays live or frees the supervisor, and a settled one touches nothing
    rcases hshape with hlive | hsettled
    · rcases Worker.live_step c.shared seen hlive with
        ⟨⟨relay, hshared⟩, hlive'⟩ | ⟨outcome, hshared, hsettled'⟩
      · rw [hshared]
        refine (htracks.withRelay relay).goOn hstage hcommand hkept hpid (.inl hlive') ?_
        rw [Worker.isSettled, Worker.isSettled, hlive.not_all_isLast, hlive'.not_all_isLast]
      · -- the worker frees the supervisor
        have hruns : c.Runs ticket worker := ⟨true, hstage, hlive.not_all_isLast⟩
        rw [hshared]
        refine htracks.vacate hruns.active ?_ (fun worker' attached h => ?_) rfl
          (htracks.runs ticket worker hruns).1 rfl rfl rfl
        · simp only [Stage.isActive, Worker.isSettled, hsettled'.all_isLast, Bool.not_true]
        · cases h
          exact ⟨hkept.trans hticket, hsettled'⟩
    · obtain ⟨hshared, hsettled'⟩ := Worker.settled_step c.shared seen hsettled
      rw [hshared]
      refine htracks.goOn hstage hcommand hkept hpid (.inr hsettled') ?_
      rw [Worker.isSettled, Worker.isSettled, hsettled.all_isLast, hsettled'.all_isLast]
  · exact htracks

theorem Tracks.arrive (htracks : c.Tracks) (ticket : Nat) (arrival : Reader.Arrival) :
    (c.step (.arrive ticket arrival)).Tracks := by
  simp only [step]
  split
  · next worker attached hstage =>
    exact htracks.goOn hstage rfl rfl rfl (htracks.workers ticket worker attached hstage).2 rfl
  · exact htracks

theorem Tracks.cancel (htracks : c.Tracks) : (c.step .cancel).Tracks := by
  by_cases hfree : ∀ t, ¬c.Active t
  · rw [step, cancel_of_free htracks hfree]
    exact htracks
  · obtain ⟨ticket, hactive⟩ := Classical.not_forall_not.mp hfree
    rw [step, cancel_of_active htracks hactive]
    refine ⟨htracks.slot, htracks.free, htracks.making, htracks.runs, htracks.workers,
      htracks.unborn, fun t ht => ?_⟩
    rcases List.mem_cons.mp (List.contains_iff_mem.mp ht) with rfl | hasked
    · obtain ⟨stage, hstage, -⟩ := hactive
      exact htracks.lt_nextTicket hstage
    · exact htracks.requests t (List.contains_iff_mem.mpr hasked)

/-- **One critical section** keeps the invariant.  Those that change who occupies the supervisor
change the stage of the same run. -/
theorem tracks_step (htracks : c.Tracks) (action : Action σ) : (c.step action).Tracks := by
  cases action with
  | reserve command fanout => exact htracks.reserve command fanout
  | announce ticket pid now => exact htracks.announce ticket pid now
  | release ticket => exact htracks.release ticket
  | attach ticket => exact htracks.attach ticket
  | work ticket seen => exact htracks.work ticket seen
  | arrive ticket arrival => exact htracks.arrive ticket arrival
  | cancel => exact htracks.cancel
  | answer a replies => exact htracks.withRelay _

end Step

/-! ## Section 5: Every interleaving -/

theorem tracks_foldl {c : Crew σ} (htracks : c.Tracks) (actions : List (Action σ)) :
    (actions.foldl step c).Tracks := by
  induction actions generalizing c with
  | nil => exact htracks
  | cons action actions ih => exact ih (tracks_step htracks action)

/-- **Every interleaving** leads to a crew whose shared part fits its runs.  The induction is on the
actions, from a supervisor that has never had a run. -/
theorem tracks_after (tuning : Tuning) (actions : List (Action σ)) :
    (after tuning actions).Tracks :=
  tracks_foldl (tracks_new tuning) actions

end Crew

end Overseer
