import Overseer.Proofs.Host.Outline
import Overseer.Proofs.Supervisor.Chronicle

/-!
# Hosts Are Interleavings

A host takes turns: output goes to a worker, a worker does a task, a process takes a step.  In
between callers start runs, stop them and answer prompts.  The turns are one order among many, and
what is known about crews is known for all orders.  Here a host is shown to be among them: what its
supervisors show and what its workers have before them is at any time what some interleaving of
critical sections leads to.

The comparison forgets the sinks of a run, which a host tells the time and empties on the way.  No
worker ever looks at them.

- `Host.Outline.Interleaves.step`: an interleaving goes on
- `Host.Reachable`: the hosts that callers and the host itself come to
- `Host.Reachable.exists_crew`: every host that is reached is one of the interleavings
- `Host.Reachable.every`: what holds of all runs holds of those of a host
- `Host.Reachable.activity_eq`, `Host.Reachable.eq_of_unsettled`: one run of a seat at a time, and
  the one that is shown
-/

namespace Overseer

/-! ## Section 1: Crews behind an outline

A seat has one supervisor and the runs that were started at it.  Each seat is one crew, and what
happens at one seat is no concern of the others, so an interleaving is kept for each of them. -/

namespace Crew

section Starts

variable {σ : Type} [Sink σ] {c : Crew σ} {ticket : Nat} {reserved : Supervisor}

/-- The three critical sections of a start, with nothing in between. -/
def startActions (command : Command) (fanout : Fanout σ) (ticket pid now : Nat) :
    List (Action σ) :=
  [.reserve command fanout, .announce ticket pid now, .attach ticket]

theorem foldl_startActions (hreserve : c.shared.reserve = .ok (ticket, reserved))
    (command : Command) (fanout : Fanout σ) (pid now : Nat) :
    ((startActions command fanout ticket pid now).foldl step c).shared =
        (reserved.announce pid command.display).attach ∧
      ∀ t, ((startActions command fanout ticket pid now).foldl step c).stages t =
        if t = ticket then
          some (.working (.new reserved.tuning command ticket pid now fanout) true)
        else c.stages t := by
  simp only [startActions, List.foldl_cons, List.foldl_nil, step, hreserve, withShared, put,
    if_true]
  refine ⟨trivial, fun t => ?_⟩
  by_cases ht : t = ticket <;> simp [ht]

/-- A start whose process cannot be made. -/
def refusalActions (command : Command) (fanout : Fanout σ) (ticket : Nat) : List (Action σ) :=
  [.reserve command fanout, .release ticket]

theorem foldl_refusalActions (hreserve : c.shared.reserve = .ok (ticket, reserved))
    (command : Command) (fanout : Fanout σ) :
    ((refusalActions command fanout ticket).foldl step c).shared = reserved.release ∧
      ∀ t, ((refusalActions command fanout ticket).foldl step c).stages t =
        if t = ticket then some .failed else c.stages t := by
  simp only [refusalActions, List.foldl_cons, List.foldl_nil, step, hreserve, withShared, put,
    if_true]
  refine ⟨trivial, fun t => ?_⟩
  by_cases ht : t = ticket <;> simp [ht]

omit [Sink σ] in
/-- The ticket that a start gets is nobody's yet. -/
theorem Tracks.ne_of_reserve (htracks : c.Tracks)
    (hreserve : c.shared.reserve = .ok (ticket, reserved)) {t : Nat} {stage : Stage σ}
    (hstage : c.stages t = some stage) : t ≠ ticket := by
  have hlt := htracks.lt_nextTicket hstage
  obtain ⟨hidle, hstarting⟩ := Supervisor.free_of_reserve_ok hreserve
  rw [Supervisor.reserve_of_free hidle hstarting] at hreserve
  cases hreserve
  exact Nat.ne_of_lt hlt

theorem tuning_foldl (c : Crew σ) (actions : List (Action σ)) :
    (actions.foldl step c).shared.tuning = c.shared.tuning := by
  induction actions generalizing c with
  | nil => rfl
  | cons action actions ih => rw [List.foldl_cons, ih, tuning_step]

theorem step_arrive {w : Worker σ} {attached : Bool}
    (hstage : c.stages ticket = some (.working w attached)) (arrival : Reader.Arrival) :
    c.step (.arrive ticket arrival) = c.put ticket (.working (w.arrive arrival) attached) := by
  simp only [step, hstage]

theorem tuning_after (tuning : Tuning) (actions : List (Action σ)) :
    (after tuning actions).shared.tuning = tuning := tuning_foldl (new tuning) actions

end Starts

end Crew

namespace Host.Outline

/-- What a crew shows is what a seat of an outline shows: the supervisor is the same, and the
workers of the seat are those of the crew, up to their sinks. -/
structure FollowedBy (o : Outline) (seat : Nat) (c : Crew Observer) : Prop where
  shared : o.supervisors[seat]? = some c.shared
  workers : ∀ w, (seat, w) ∈ o.workers →
    ∃ fanout, c.stages w.ticket = some (.working (w.withFanout fanout) true)

/-- What every seat of an outline shows is what some interleaving leads to.  So whatever is proved
of all interleavings holds of it. -/
structure Interleaves (o : Outline) : Prop where
  /-- Every run belongs to a supervisor, -/
  seats : ∀ p ∈ o.workers, p.1 < o.supervisors.length
  /-- no two runs of a seat have the same ticket, -/
  tickets : (o.workers.map fun p => (p.1, p.2.ticket)).Nodup
  /-- and there is an interleaving for each seat. -/
  crews : ∀ seat s, o.supervisors[seat]? = some s →
    ∃ actions, o.FollowedBy seat (Crew.after s.tuning actions)

section Going

variable {o next : Outline} {seat run : Nat} {w : Worker Observer}

/-- **An interleaving goes on.**  What happens at one seat leaves the others alone, so that only the
crew of this seat has to go on. -/
theorem Interleaves.goOn (h : o.Interleaves) (hseat : seat < o.supervisors.length)
    (hlength : next.supervisors.length = o.supervisors.length)
    (hothers : ∀ other, other ≠ seat → next.supervisors[other]? = o.supervisors[other]?)
    (hworkers : ∀ p ∈ next.workers, p.1 = seat ∨ p ∈ o.workers)
    (htickets : (next.workers.map fun p => (p.1, p.2.ticket)).Nodup)
    (hcrew : ∀ c : Crew Observer, c.Tracks → o.FollowedBy seat c →
      ∃ more : List (Crew.Action Observer), next.FollowedBy seat (more.foldl Crew.step c)) :
    next.Interleaves where
  seats p hp := by
    rw [hlength]
    rcases hworkers p hp with hp | hp
    · exact hp ▸ hseat
    · exact h.seats p hp
  tickets := htickets
  crews other s hs := by
    by_cases hother : other = seat
    · subst hother
      obtain ⟨actions, hfollowed⟩ := h.crews other _ (List.getElem?_eq_getElem hseat)
      obtain ⟨more, hmore⟩ := hcrew _ (Crew.tracks_after _ actions) hfollowed
      -- nothing touches the tuning, with which the interleaving began
      have htuning : s.tuning = o.supervisors[other].tuning := by
        rw [Option.some.inj (hs.symm.trans hmore.shared), Crew.tuning_foldl, Crew.tuning_after]
      rw [htuning]
      refine ⟨actions ++ more, ?_⟩
      rw [Crew.after, List.foldl_append]
      exact hmore
    · rw [hothers other hother] at hs
      obtain ⟨actions, hfollowed⟩ := h.crews other s hs
      refine ⟨actions, (hothers other hother).trans hfollowed.shared, fun w hw => ?_⟩
      exact hfollowed.workers w ((hworkers _ hw).resolve_left hother)

theorem tickets_workAt {worker : Worker Observer} (hrun : o.workers[run]? = some (seat, w))
    (hticket : worker.ticket = w.ticket) :
    (o.workAt run seat worker).workers.map (fun p => (p.1, p.2.ticket)) =
      o.workers.map fun p => (p.1, p.2.ticket) := by
  obtain ⟨hlt, hget⟩ := List.getElem?_eq_some_iff.mp hrun
  have hlt' : run < (o.workers.map fun p => (p.1, p.2.ticket)).length := by
    rw [List.length_map]
    exact hlt
  have hself : (seat, worker.ticket) = (o.workers.map fun p => (p.1, p.2.ticket))[run] := by
    rw [List.getElem_map, hget, hticket]
  rw [workAt, List.map_set, hself, List.set_getElem_self hlt']

/-- Another worker in the place of a run leaves the other runs where they are. -/
theorem mem_workAt {worker v : Worker Observer}
    (htickets : (o.workers.map fun p => (p.1, p.2.ticket)).Nodup)
    (hrun : o.workers[run]? = some (seat, w))
    (hv : (seat, v) ∈ (o.workAt run seat worker).workers) :
    v = worker ∨ (seat, v) ∈ o.workers ∧ v.ticket ≠ w.ticket := by
  have hlt : run < o.workers.length := (List.getElem?_eq_some_iff.mp hrun).1
  obtain ⟨place, hplace⟩ := List.mem_iff_getElem?.mp hv
  rw [workAt, List.getElem?_set] at hplace
  by_cases hhere : run = place
  · rw [if_pos hhere, if_pos hlt] at hplace
    cases hplace
    exact .inl rfl
  · rw [if_neg hhere] at hplace
    refine .inr ⟨List.mem_of_getElem? hplace, fun hticket => hhere ?_⟩
    -- two places with one ticket would be one
    have hboth : (o.workers.map fun p => (p.1, p.2.ticket))[run]? =
        (o.workers.map fun p => (p.1, p.2.ticket))[place]? := by
      rw [List.getElem?_map, List.getElem?_map, hrun, hplace, Option.map_some, Option.map_some,
        hticket]
    rw [← List.length_map fun p : Nat × Worker Observer => (p.1, p.2.ticket)] at hlt
    exact (List.getElem?_inj hlt htickets).mp hboth

/-- One run goes on: its worker is put in its place, and maybe another supervisor on its seat. -/
theorem Interleaves.workAt (h : o.Interleaves) {s : Supervisor} {worker : Worker Observer}
    (hrun : o.workers[run]? = some (seat, w)) (hticket : worker.ticket = w.ticket)
    (hcrew : ∀ (c : Crew Observer) (fanout : Fanout Observer),
      o.supervisors[seat]? = some c.shared →
      c.stages w.ticket = some (.working (w.withFanout fanout) true) →
      ∃ (more : List (Crew.Action Observer)) (fanout' : Fanout Observer),
        (more.foldl Crew.step c).shared = s ∧ ∀ t, (more.foldl Crew.step c).stages t =
          if t = w.ticket then some (.working (worker.withFanout fanout') true)
          else c.stages t) :
    ((o.seatAt seat s).workAt run seat worker).Interleaves := by
  have hseat : seat < o.supervisors.length := h.seats _ (List.mem_of_getElem? hrun)
  refine h.goOn hseat (List.length_set ..) (fun other hother => List.getElem?_set_ne hother.symm)
    (fun p hp => ?_) ?_ fun c _ hfollowed => ?_
  · -- the worker that goes on is on its seat already
    rcases List.mem_or_eq_of_mem_set hp with hp | rfl
    · exact .inr hp
    · exact .inl rfl
  · exact (tickets_workAt hrun hticket).symm ▸ h.tickets
  · -- the crew of the seat has the worker with sinks of its own, and goes on with them
    obtain ⟨fanout, hstage⟩ := hfollowed.workers w (List.mem_of_getElem? hrun)
    obtain ⟨more, fanout', hshared, hstages⟩ := hcrew c fanout hfollowed.shared hstage
    refine ⟨more, ?_, fun v hv => ?_⟩
    · rw [hshared]
      exact List.getElem?_set_self hseat
    · -- the worker itself, or another one with another ticket
      rcases mem_workAt h.tickets hrun hv with rfl | ⟨hv, hne⟩
      · exact ⟨fanout', by rw [hstages, if_pos hticket]⟩
      · rw [hstages, if_neg hne]
        exact hfollowed.workers v hv

/-- A supervisor alone goes on. -/
theorem Interleaves.seatAt (h : o.Interleaves) {before s : Supervisor}
    (hbefore : o.supervisors[seat]? = some before)
    (hcrew : ∀ c : Crew Observer, c.Tracks → c.shared = before →
      ∃ more : List (Crew.Action Observer), (more.foldl Crew.step c).shared = s ∧
        ∀ t stage, c.stages t = some stage → (more.foldl Crew.step c).stages t = some stage) :
    (o.seatAt seat s).Interleaves := by
  have hseat : seat < o.supervisors.length := (List.getElem?_eq_some_iff.mp hbefore).1
  refine h.goOn hseat (List.length_set ..) (fun other hother => List.getElem?_set_ne hother.symm)
    (fun p hp => .inr hp) h.tickets fun c htracks hfollowed => ?_
  -- only what is shared changes, and every worker keeps its stage
  obtain ⟨more, hshared, hstages⟩ :=
    hcrew c htracks (Option.some.inj (hfollowed.shared.symm.trans hbefore))
  refine ⟨more, ?_, fun v hv => ?_⟩
  · rw [hshared]
    exact List.getElem?_set_self hseat
  · obtain ⟨fanout, hstage⟩ := hfollowed.workers v hv
    exact ⟨fanout, hstages _ _ hstage⟩

theorem seatAt_self {s : Supervisor} (hs : o.supervisors[seat]? = some s) :
    o.seatAt seat s = o := by
  obtain ⟨hlt, rfl⟩ := List.getElem?_eq_some_iff.mp hs
  rw [Outline.seatAt, List.set_getElem_self]

theorem Interleaves.exists_supervisor (h : o.Interleaves)
    (hrun : o.workers[run]? = some (seat, w)) : ∃ s, o.supervisors[seat]? = some s :=
  ⟨_, List.getElem?_eq_getElem (h.seats _ (List.mem_of_getElem? hrun))⟩

/-- A run is started: it has a ticket that nobody has had. -/
theorem Interleaves.started (h : o.Interleaves) {ticket : Nat} {s reserved : Supervisor}
    (command : Command) (pid now : Nat) (fanout : Fanout Observer)
    (hs : o.supervisors[seat]? = some s) (hreserve : s.reserve = .ok (ticket, reserved)) :
    Interleaves
      { supervisors := o.supervisors.set seat (reserved.announce pid command.display).attach
        workers := o.workers ++ [(seat, .new reserved.tuning command ticket pid now fanout)] } := by
  have hseat : seat < o.supervisors.length := (List.getElem?_eq_some_iff.mp hs).1
  -- no worker of this seat has the ticket that is given away now
  have hfresh : ∀ c : Crew Observer, c.Tracks → o.FollowedBy seat c →
      ∀ v, (seat, v) ∈ o.workers → v.ticket ≠ ticket := by
    intro c htracks hfollowed v hv
    obtain ⟨fanout', hstage⟩ := hfollowed.workers v hv
    obtain rfl := Option.some.inj (hfollowed.shared.symm.trans hs)
    exact htracks.ne_of_reserve hreserve hstage
  refine h.goOn hseat (List.length_set ..) (fun other hother => List.getElem?_set_ne hother.symm)
    (fun p hp => ?_) ?_ fun c htracks hfollowed => ?_
  · rcases List.mem_append.mp hp with hp | hp
    · exact .inr hp
    · exact .inl (List.mem_singleton.mp hp ▸ rfl)
  · -- the new ticket is on no other seat either, as tickets are counted by seat
    obtain ⟨actions, hfollowed⟩ := h.crews seat s hs
    rw [List.map_append, List.nodup_append]
    refine ⟨h.tickets, List.pairwise_singleton _ _, fun old hold new hnew heq => ?_⟩
    obtain ⟨⟨other, v⟩, hv, rfl⟩ := List.mem_map.mp hold
    rw [List.map_singleton, List.mem_singleton] at hnew
    cases heq.trans hnew
    exact hfresh _ (Crew.tracks_after _ actions) hfollowed v hv rfl
  · obtain rfl := Option.some.inj (hfollowed.shared.symm.trans hs)
    obtain ⟨hafter, hstages⟩ := Crew.foldl_startActions hreserve command fanout pid now
    refine ⟨Crew.startActions command fanout ticket pid now, ?_, fun v hv => ?_⟩
    · rw [hafter]
      exact List.getElem?_set_self hseat
    · -- the runs before keep their stages, and the new one begins with its own sinks
      rcases List.mem_append.mp hv with hv | hv
      · obtain ⟨fanout', hstage⟩ := hfollowed.workers v hv
        exact ⟨fanout', by rw [hstages, if_neg (hfresh c htracks hfollowed v hv), hstage]⟩
      · cases List.mem_singleton.mp hv
        exact ⟨fanout, by rw [hstages]; exact if_pos rfl⟩

/-- **Whatever happens to an outline**, what its seats show is still what interleavings lead to.  A
start is three critical sections in a row, and one that is refused is two. -/
theorem Interleaves.step (h : o.Interleaves) (hstep : Step o next) : next.Interleaves := by
  cases hstep with
  | seated tuning =>
    refine ⟨fun p hp => ?_, h.tickets, fun seat s hs => ?_⟩
    · rw [List.length_append]
      exact Nat.lt_add_right 1 (h.seats p hp)
    · rw [List.getElem?_append] at hs
      split at hs
      · next hlt =>
        obtain ⟨actions, hshared, hworkers⟩ := h.crews seat s hs
        exact ⟨actions, by rw [List.getElem?_append_left hlt]; exact hshared, hworkers⟩
      · next hlt =>
        -- nobody has worked at the new seat
        obtain rfl : .new tuning = s := List.mem_singleton.mp (List.mem_of_getElem? hs) ▸ rfl
        refine ⟨[], ?_, fun w hw => absurd (h.seats _ hw) hlt⟩
        rw [List.getElem?_append_right (Nat.not_lt.mp hlt), hs]
        rfl
  | refused command fanout hs hreserve =>
    refine h.seatAt hs fun c htracks hshared => ?_
    subst hshared
    obtain ⟨hafter, hstages⟩ := Crew.foldl_refusalActions hreserve command fanout
    refine ⟨_, hafter, fun t stage hstage => ?_⟩
    rw [hstages, if_neg (htracks.ne_of_reserve hreserve hstage), hstage]
  | started command pid now fanout hs hreserve => exact h.started command pid now fanout hs hreserve
  | asked hs =>
    refine h.seatAt hs fun c _ hshared => ⟨[.cancel], ?_, fun t stage hstage => hstage⟩
    rw [← hshared]
    rfl
  | answered answer replies hs =>
    refine h.seatAt hs fun c _ hshared =>
      ⟨[.answer answer replies], ?_, fun t stage hstage => hstage⟩
    rw [← hshared]
    rfl
  | @arrived run seat w arrival hrun =>
    obtain ⟨s, hs⟩ := h.exists_supervisor hrun
    rw [← seatAt_self hs]
    refine h.workAt hrun rfl fun c fanout hshared hstage => ⟨[.arrive w.ticket arrival], fanout, ?_⟩
    rw [List.foldl_cons, List.foldl_nil, Crew.step_arrive hstage]
    exact ⟨Option.some.inj (hshared.symm.trans hs), fun t => rfl⟩
  | @worked run seat w s seen before behind hrun hs =>
    refine h.workAt hrun (Worker.identity_step _ _ _).2.1 fun c fanout hshared hstage => ?_
    obtain rfl := Option.some.inj (hshared.symm.trans hs)
    -- the worker of the crew takes the same step, whatever its sinks have seen
    obtain ⟨after, hafter⟩ := Worker.step_withFanout c.shared w fanout seen
    obtain ⟨after', hafter'⟩ := Worker.step_withFanout c.shared w before seen
    refine ⟨[.work w.ticket seen], after, ?_⟩
    rw [List.foldl_cons, List.foldl_nil, Crew.step_work hstage, hafter, hafter']
    exact ⟨rfl, fun t => rfl⟩
  | emptied fanout hrun =>
    obtain ⟨s, hs⟩ := h.exists_supervisor hrun
    rw [← seatAt_self hs]
    refine h.workAt hrun rfl fun c fanout' hshared hstage => ⟨[], fanout', ?_, fun t => ?_⟩
    · exact Option.some.inj (hshared.symm.trans hs)
    · split
      · next ht => rw [List.foldl_nil, ht, hstage]; rfl
      · rfl

theorem Interleaves.steps (h : o.Interleaves) (hsteps : Relation.ReflTransGen Step o next) :
    next.Interleaves := by
  induction hsteps with
  | refl => exact h
  | tail _ hstep ih => exact ih.step hstep

end Going

end Host.Outline

/-! ## Section 2: Hosts that are reached

A host that is reached is one that some moves lead to.  What was proved of every interleaving is
then carried over to hosts in one step, and two results are carried over here. -/

namespace Host

open Relation (ReflTransGen)

/-- The hosts that callers and the host itself come to, from one on which nothing has run. -/
def Reachable (h : Host) : Prop :=
  ∃ tree directory environment, ReflTransGen Move (new tree directory environment) h

theorem reachable_new (tree : FileTree) (directory : Place)
    (environment : List (String × String)) : (new tree directory environment).Reachable :=
  ⟨tree, directory, environment, .refl⟩

theorem Reachable.move {h next : Host} (hreached : h.Reachable)
    (hmoves : ReflTransGen Move h next) : next.Reachable :=
  let ⟨tree, directory, environment, hbegun⟩ := hreached
  ⟨tree, directory, environment, hbegun.trans hmoves⟩

theorem Reachable.interleaves {h : Host} (hreached : h.Reachable) : h.outline.Interleaves := by
  obtain ⟨tree, directory, environment, hmoves⟩ := hreached
  induction hmoves with
  | refl =>
    -- there are no seats and no runs yet
    exact ⟨fun _ hp => absurd hp List.not_mem_nil, List.nodup_nil, fun _ _ hs => by cases hs⟩
  | tail _ hmove ih => exact ih.steps hmove.steps

/-- **Every host that is reached is one of the interleavings**: what a supervisor shows and what the
workers of its runs have before them is what some order of critical sections leads to. -/
theorem Reachable.exists_crew {h : Host} (hreached : h.Reachable) {number : Nat} {seat : Seat}
    (hseat : h.seats[number]? = some seat) :
    ∃ actions, seat.supervisor = (Crew.after seat.supervisor.tuning actions).shared ∧
      ∀ r ∈ h.runs, r.seat = number → ∃ fanout,
        (Crew.after seat.supervisor.tuning actions).stages r.worker.ticket =
          some (.working (r.worker.withFanout fanout) true) := by
  have hs := getElem?_supervisors hseat
  obtain ⟨actions, hshared, hworkers⟩ := hreached.interleaves.crews number _ hs
  refine ⟨actions, Option.some.inj (hs.symm.trans hshared), fun r hr hnumber => ?_⟩
  exact hworkers r.worker (hnumber ▸ List.mem_map_of_mem hr)

/-- **What holds of every run in every interleaving** holds of every run of a host that is reached,
up to its sinks.  The log is the one that the interleaving writes down for the run. -/
theorem Reachable.every {h : Host} (hreached : h.Reachable) {number : Nat} {seat : Seat}
    (hseat : h.seats[number]? = some seat)
    {P : Supervisor → Worker Observer → List (Deed Observer) → Prop}
    (hP : ∀ actions, (Chronicle.after seat.supervisor.tuning actions).Every P) :
    ∀ r ∈ h.runs, r.seat = number →
      ∃ fanout log, P seat.supervisor (r.worker.withFanout fanout) log := by
  intro r hr hnumber
  -- the interleaving of the seat has the worker of the run, with sinks of its own
  obtain ⟨actions, hshared, hworkers⟩ := hreached.exists_crew hseat
  obtain ⟨fanout, hstage⟩ := hworkers r hr hnumber
  rw [← Chronicle.crew_after] at hshared hstage
  have hholds := hP actions _ _ hstage
  rw [← hshared] at hholds
  exact ⟨fanout, _, hholds⟩

/-- A run that has not freed its supervisor is the one that occupies the crew. -/
theorem Outline.FollowedBy.runs {o : Outline} {seat : Nat} {c : Crew Observer}
    (h : o.FollowedBy seat c) {w : Worker Observer} (hw : (seat, w) ∈ o.workers)
    (hlive : w.isSettled = false) : ∃ fanout, c.Runs w.ticket (w.withFanout fanout) :=
  let ⟨fanout, hstage⟩ := h.workers w hw
  ⟨fanout, true, hstage, hlive⟩

/-- **A run is shown while it goes on**: until its worker has freed the supervisor, the host shows
the process and the command of the run. -/
theorem Reachable.activity_eq {h : Host} (hreached : h.Reachable) {r : Run} (hr : r ∈ h.runs)
    (hlive : r.worker.isSettled = false) :
    h.activity r.seat = .running r.worker.pid r.worker.command.display := by
  have hinterleaves := hreached.interleaves
  have hmem : (r.seat, r.worker) ∈ h.outline.workers := List.mem_map_of_mem hr
  obtain ⟨number, hworker⟩ := List.mem_iff_getElem?.mp hmem
  -- the seat of a run is there, and its crew shows the process of the run that goes on
  obtain ⟨s, hs⟩ := hinterleaves.exists_supervisor hworker
  obtain ⟨actions, hfollowed⟩ := hinterleaves.crews r.seat s hs
  obtain ⟨fanout, hruns⟩ := hfollowed.runs hmem hlive
  have hshown := ((Crew.tracks_after s.tuning actions).runs _ _ hruns).2
  have hsupervisor : h.supervisor? r.seat = some (Crew.after s.tuning actions).shared := by
    rw [supervisor?, ← List.getElem?_map]
    exact hfollowed.shared
  rw [activity, hsupervisor, Option.map_some, Option.getD_some, hshown]
  rfl

/-- **One run of a seat at a time**: two runs of a seat that have not freed its supervisor are one
and the same. -/
theorem Reachable.eq_of_unsettled {h : Host} (hreached : h.Reachable) {i j : Nat} {r r' : Run}
    (hr : h.runs[i]? = some r) (hr' : h.runs[j]? = some r') (hseat : r'.seat = r.seat)
    (hlive : r.worker.isSettled = false) (hlive' : r'.worker.isSettled = false) : i = j := by
  have hinterleaves := hreached.interleaves
  have hworker := getElem?_workers hr
  have hworker' := getElem?_workers hr'
  rw [hseat] at hworker'
  obtain ⟨s, hs⟩ := hinterleaves.exists_supervisor hworker
  obtain ⟨actions, hfollowed⟩ := hinterleaves.crews r.seat s hs
  -- both occupy the supervisor of the crew, which only one run does at a time
  obtain ⟨fanout, hruns⟩ := hfollowed.runs (List.mem_of_getElem? hworker) hlive
  obtain ⟨fanout', hruns'⟩ := hfollowed.runs (List.mem_of_getElem? hworker') hlive'
  have hticket := (Crew.tracks_after s.tuning actions).eq_of_active hruns.active hruns'.active
  have hlt : i < (h.outline.workers.map fun p => (p.1, p.2.ticket)).length := by
    rw [List.length_map]
    exact (List.getElem?_eq_some_iff.mp hworker).1
  refine (List.getElem?_inj hlt hinterleaves.tickets).mp ?_
  rw [List.getElem?_map, List.getElem?_map, hworker, hworker', Option.map_some, Option.map_some,
    hticket]

end Host

end Overseer
