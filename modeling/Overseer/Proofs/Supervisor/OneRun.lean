import Overseer.Proofs.Supervisor.Occupancy

/-!
# One Run at a Time

Whatever callers and workers do in whatever order, at most one run is reserved or active.  A start
that comes in between is refused and told why, a request to stop reaches that run and no other, and
a run has made room for the next one when it tells its outcome.

- `Crew.OneRun`: what this means for a crew
- `Crew.oneRun_after`: it holds in every interleaving
-/

namespace Overseer.Crew

variable {σ : Type} [Sink σ]

/-- At most one run at a time, as callers see it.  The ticket in the slot is that of the run which a
caller would stop. -/
structure OneRun (c : Crew σ) : Prop where
  /-- At most one run is reserved or active. -/
  exclusive : ∀ t u, c.Active t → c.Active u → t = u
  /-- The supervisor shows a reservation exactly while a run is reserved. -/
  starting : c.shared.starting = true ↔ ∃ t, c.Reserved t
  /-- The supervisor shows a process exactly while its run is active. -/
  running : ∀ pid command, c.shared.activity = .running pid command ↔
    ∃ t worker, c.Runs t worker ∧ worker.pid = pid ∧ worker.command.display = command
  /-- A start while a run is reserved is told so. -/
  reserved : ∀ t, c.Reserved t → c.shared.reserve = .error .starting
  /-- A start while a run is active is told its process. -/
  busy : ∀ t worker, c.Runs t worker → c.shared.reserve = .error (.busy worker.pid)
  /-- A start while no run is reserved or active is accepted. -/
  accepted : (∀ t, ¬c.Active t) →
    ∃ shared, c.shared.reserve = .ok (c.shared.nextTicket, shared)
  /-- A start that is refused changes nothing. -/
  refused : ∀ command fanout error, c.shared.reserve = .error error →
    c.step (.reserve command fanout) = c
  /-- The slot holds the ticket of the run that is reserved or active, and nothing else. -/
  slot : ∀ t, c.shared.slot = some t ↔ c.Active t
  /-- The worker of a run looks at the requests for the ticket of the run. -/
  own : ∀ t worker, c.Runs t worker → worker.ticket = t
  /-- A request to stop succeeds exactly while a run is reserved or active. -/
  cancelled : c.shared.cancel.1 = true ↔ ∃ t, c.Active t
  /-- A request to stop reaches the run that is reserved or active, and no other. -/
  reached : ∀ t, (c.step .cancel).shared.stopRequested t = true ↔
    c.shared.stopRequested t = true ∨ c.Active t
  /-- Nothing else asks a run to stop. -/
  untouched : ∀ action, action ≠ .cancel →
    (c.step action).shared.stopRequests = c.shared.stopRequests
  /-- A run that is still to come was not asked to stop. -/
  unasked : ∀ t, c.shared.nextTicket ≤ t → c.shared.stopRequested t = false
  /-- When a process could not be made, the supervisor is idle and the next start is accepted. -/
  released : ∀ t, c.Reserved t →
    (c.step (.release t)).shared.activity = .idle ∧
      (c.step (.release t)).shared.starting = false ∧ (c.step (.release t)).shared.slot = none ∧
      ∃ ticket shared, (c.step (.release t)).shared.reserve = .ok (ticket, shared)
  /-- When a run tells its outcome, its slot is free, and a start is refused only because of
  another run. -/
  finished : ∀ t worker attached seen outcome, c.stages t = some (.working worker attached) →
    .finished outcome ∈ worker.published c.shared seen →
      c.shared.slot ≠ some t ∧
        ∀ error, c.shared.reserve = .error error → ∃ u, u ≠ t ∧ c.Active u

/-- Nothing but a request to stop asks a run to stop. -/
theorem stopRequests_step {c : Crew σ} (htracks : c.Tracks) {action : Action σ}
    (haction : action ≠ .cancel) :
    (c.step action).shared.stopRequests = c.shared.stopRequests := by
  cases action with
  | reserve command fanout =>
    simp only [step]
    split
    · -- a reservation that fails changes nothing
      rfl
    · next hreserve =>
      obtain ⟨hidle, hstarting⟩ := Supervisor.free_of_reserve_ok hreserve
      rw [Supervisor.reserve_of_free hidle hstarting] at hreserve
      cases hreserve
      rfl
  | work ticket seen =>
    simp only [step]
    split
    · next worker hstage =>
      -- a worker shares a relay, or the outcome that it settles, and neither is a request
      rcases (htracks.workers ticket worker true hstage).2 with hlive | hsettled
      · rcases Worker.live_step c.shared seen hlive with
          ⟨⟨relay, hshared⟩, -⟩ | ⟨outcome, hshared, -⟩
        · rw [hshared]
          rfl
        · rw [hshared]
          rfl
      · rw [(Worker.settled_step c.shared seen hsettled).1]
        rfl
    · rfl
  | cancel => exact absurd rfl haction
  | answer a replies => rfl
  -- these change the stage of a run or the activity that is shown
  | announce ticket _ _ | release ticket | attach ticket | arrive ticket _ =>
    simp only [step]
    split <;> rfl

omit [Sink σ] in
/-- A worker that tells its outcome has made room for another run. -/
theorem not_active_of_finished {c : Crew σ} (htracks : c.Tracks) {ticket : Nat}
    {worker : Worker σ} {attached : Bool} {seen : Observation} {outcome : Outcome}
    (hstage : c.stages ticket = some (.working worker attached))
    (hfinished : .finished outcome ∈ worker.published c.shared seen) : ¬c.Active ticket := by
  have hsettled := Worker.settled_of_finished (htracks.workers _ _ _ hstage).2 hfinished
  rw [active_of_stage hstage, Stage.isActive, Worker.isSettled, hsettled.all_isLast]
  exact Bool.false_ne_true

section Sight

variable {c : Crew σ}

omit [Sink σ] in
/-- The reservation that the supervisor shows is the one of a run. -/
theorem starting_iff (htracks : c.Tracks) : c.shared.starting = true ↔ ∃ t, c.Reserved t := by
  refine ⟨fun hstarting => ?_, fun ⟨t, hreserved⟩ => (htracks.making t hreserved).1⟩
  cases hslot : c.shared.slot with
  | none => exact absurd (hstarting.symm.trans (htracks.free hslot).1) nofun
  | some ticket =>
    rcases active_iff.mp ((htracks.slot ticket).mp hslot) with hreserved | ⟨worker, hruns⟩
    · exact ⟨ticket, hreserved⟩
    · exact absurd (hstarting.symm.trans (htracks.runs ticket worker hruns).1) nofun

omit [Sink σ] in
/-- The process that the supervisor shows is the one of a run. -/
theorem running_iff (htracks : c.Tracks) (pid : Nat) (command : String) :
    c.shared.activity = .running pid command ↔
      ∃ t worker, c.Runs t worker ∧ worker.pid = pid ∧ worker.command.display = command := by
  constructor
  · intro hrunning
    have hbusy : c.shared.activity.isRunning = true := by rw [hrunning]; rfl
    -- what is shown is held in the slot, and there a worker has its process
    cases hslot : c.shared.slot with
    | none => exact absurd (hbusy.symm.trans (htracks.free hslot).2) nofun
    | some ticket =>
      rcases active_iff.mp ((htracks.slot ticket).mp hslot) with hreserved | ⟨worker, hruns⟩
      · exact absurd (hbusy.symm.trans (htracks.making ticket hreserved).2) nofun
      · have hshown := hrunning.symm.trans (htracks.runs ticket worker hruns).2
        injection hshown with hpid hcommand
        exact ⟨ticket, worker, hruns, hpid.symm, hcommand.symm⟩
  · rintro ⟨t, worker, hruns, rfl, rfl⟩
    exact (htracks.runs t worker hruns).2

/-- A request to stop reaches the active run and leaves the requests for others alone. -/
theorem stopRequested_cancel (htracks : c.Tracks) (t : Nat) :
    (c.step .cancel).shared.stopRequested t = true ↔
      c.shared.stopRequested t = true ∨ c.Active t := by
  by_cases hfree : ∀ t, ¬c.Active t
  · rw [step, cancel_of_free htracks hfree]
    -- without an active run nobody is asked to stop
    exact ⟨.inl, fun h => h.resolve_right (hfree t)⟩
  · obtain ⟨ticket, hactive⟩ := Classical.not_forall_not.mp hfree
    rw [step, cancel_of_active htracks hactive]
    simp only [withShared, Supervisor.stopRequested, Supervisor.requestStop,
      List.contains_iff_mem, List.mem_cons]
    -- with one, its ticket is put down with those before
    constructor
    · rintro (rfl | hasked)
      · exact .inr hactive
      · exact .inl hasked
    · rintro (hasked | ht)
      · exact .inr hasked
      · exact .inl (htracks.eq_of_active ht hactive)

/-- A process that could not be made leaves the supervisor idle. -/
theorem step_release {t : Nat} (hreserved : c.Reserved t) :
    (c.step (.release t)).shared = c.shared.release := by
  obtain ⟨command, fanout, hstage⟩ := hreserved
  simp only [step, hstage]
  rfl

theorem Tracks.oneRun (htracks : c.Tracks) : c.OneRun where
  exclusive _ _ ht hu := htracks.eq_of_active ht hu
  starting := starting_iff htracks
  running := running_iff htracks
  reserved t hreserved := by
    obtain ⟨hstarting, hidle⟩ := htracks.making t hreserved
    exact Supervisor.reserve_of_starting hidle hstarting
  busy t worker hruns := Supervisor.reserve_of_running (htracks.runs t worker hruns).2
  accepted hfree := by
    rcases reserve_cases htracks with ⟨t, h, -⟩ | ⟨t, worker, h, -⟩ | ⟨-, haccepted⟩
    · exact absurd h.active (hfree t)
    · exact absurd h.active (hfree t)
    · exact haccepted
  refused command fanout error hrefused := by simp only [step, hrefused]
  slot := htracks.slot
  own t worker hruns := by
    obtain ⟨attached, hstage, -⟩ := hruns
    exact (htracks.workers t worker attached hstage).1
  cancelled := by
    by_cases hfree : ∀ t, ¬c.Active t
    · rw [cancel_of_free htracks hfree]
      exact ⟨fun h => absurd h Bool.false_ne_true, fun h => absurd h (not_exists.mpr hfree)⟩
    · obtain ⟨ticket, hactive⟩ := Classical.not_forall_not.mp hfree
      rw [cancel_of_active htracks hactive]
      exact ⟨fun _ => ⟨ticket, hactive⟩, fun _ => rfl⟩
  reached := stopRequested_cancel htracks
  untouched _ haction := stopRequests_step htracks haction
  unasked t ht := by
    cases hasked : c.shared.stopRequested t with
    | false => rfl
    | true => exact absurd (htracks.requests t hasked) (Nat.not_lt.mpr ht)
  released t hreserved := by
    rw [step_release hreserved]
    exact ⟨rfl, rfl, rfl, _, _, Supervisor.reserve_of_free rfl rfl⟩
  finished t worker attached seen outcome hstage hfinished := by
    -- whoever a start is refused for is active, and this run no longer is
    have hgone := not_active_of_finished htracks hstage hfinished
    refine ⟨fun hslot => hgone ((htracks.slot t).mp hslot), fun error hrefused => ?_⟩
    have hother : ∀ u, c.Active u → u ≠ t := by
      rintro u hu rfl
      exact hgone hu
    rcases reserve_cases htracks with ⟨u, h, -⟩ | ⟨u, other, h, -⟩ | ⟨-, shared, haccepted⟩
    · exact ⟨u, hother u h.active, h.active⟩
    · exact ⟨u, hother u h.active, h.active⟩
    · cases hrefused.symm.trans haccepted

end Sight

/-- **One run at a time**, in every interleaving of starts, workers and callers.  A start may stop
between any two of its critical sections, and a caller may ask for a stop at any of these moments.
-/
theorem oneRun_after (tuning : Tuning) (actions : List (Action σ)) :
    (after tuning actions).OneRun :=
  (tracks_after tuning actions).oneRun

/-- A request to stop that comes while the process is being made reaches its run. -/
example (tuning : Tuning) (command : Command) (fanout : Fanout σ) :
    (after tuning [.reserve command fanout, .reserve command fanout, .cancel,
      .announce 0 7 0]).shared.stopRequests = [0] := rfl

end Overseer.Crew
