import Mathlib.Logic.Relation
import Overseer.Host.Turns
import Overseer.Proofs.Supervisor.OtherSinks

/-!
# Hosts Without Their Machines

What the supervisors of a host show and what the workers of its runs have before them is all that
callers and workers share.  The outline of a host keeps this and leaves the machine out.  Whatever
callers and the host itself do, seen in the outline it is one of a few steps.

- `Host.Outline`, `Host.Outline.Step`: a host without its machine, and what can happen to it
- `Host.Move`: what callers and the host itself do
- `Host.outline_carryOut`: the turn of a worker
- `Host.Move.steps`: a move of a host is steps of its outline
-/

namespace Overseer

/-! ## Section 1: Lists of which one entry is changed -/

/-- A change of one entry, seen through a function. -/
theorem List.map_modify_eq_set {α β : Type} {l : List α} {i : Nat} {f : α → α} {g : α → β} {b : β}
    (h : ∀ a, l[i]? = some a → g (f a) = b) : (l.modify i f).map g = (l.map g).set i b := by
  refine List.ext_getElem? fun j => ?_
  rw [List.getElem?_map, List.getElem?_modify, List.getElem?_set, List.getElem?_map,
    List.length_map]
  -- only the entry itself is another one, if there is such an entry
  by_cases hj : i = j
  · subst hj
    cases ha : l[i]? with
    | none =>
      have hout : ¬i < l.length := Nat.not_lt.mpr (List.getElem?_eq_none_iff.mp ha)
      simp [hout]
    | some a =>
      have hin : i < l.length := (List.getElem?_eq_some_iff.mp ha).1
      simp [hin, h a ha]
  · simp [hj]

/-- A change of one entry that the function does not see. -/
theorem List.map_modify_eq_self {α β : Type} {l : List α} {i : Nat} {f : α → α} {g : α → β}
    (h : ∀ a, g (f a) = g a) : (l.modify i f).map g = l.map g := by
  refine List.ext_getElem? fun j => ?_
  rw [List.getElem?_map, List.getElem?_modify, List.getElem?_map]
  cases l[j]? with
  | none => rfl
  | some a => by_cases hj : i = j <;> simp [hj, h]

/-! ## Section 2: Hosts without their machines

An outline holds what the critical sections read and write, and nothing else.  Its steps are those
sections, put together as a host does them: a start is three of them without a break in between. -/

/-- The worker of a run with the seat that it belongs to. -/
def Run.seated (r : Run) : Nat × Worker Observer := (r.seat, r.worker)

namespace Host

/-- A host without its machine: what its supervisors show, by seat, and the workers of its runs with
the seats that they belong to.  What processes do shows here only as what workers see. -/
structure Outline where
  supervisors : List Supervisor
  workers : List (Nat × Worker Observer)

/-- The outline of a host. -/
def outline (h : Host) : Outline :=
  ⟨h.seats.map Seat.supervisor, h.runs.map Run.seated⟩

namespace Outline

/-- Puts another supervisor on a seat. -/
def seatAt (o : Outline) (seat : Nat) (s : Supervisor) : Outline :=
  { o with supervisors := o.supervisors.set seat s }

/-- Puts another worker in the place of a run. -/
def workAt (o : Outline) (run seat : Nat) (w : Worker Observer) : Outline :=
  { o with workers := o.workers.set run (seat, w) }

/-- What can happen to an outline. -/
inductive Step : Outline → Outline → Prop where
  /-- A supervisor is added. -/
  | seated (o : Outline) (tuning : Tuning) :
      Step o { o with supervisors := o.supervisors ++ [.new tuning] }
  /-- A run was to be started, and its process could not be made. -/
  | refused {o : Outline} {seat ticket : Nat} {s reserved : Supervisor} (command : Command)
      (fanout : Fanout Observer) :
      o.supervisors[seat]? = some s → s.reserve = .ok (ticket, reserved) →
      Step o (o.seatAt seat reserved.release)
  /-- A run was started. -/
  | started {o : Outline} {seat ticket : Nat} {s reserved : Supervisor} (command : Command)
      (pid now : Nat) (fanout : Fanout Observer) :
      o.supervisors[seat]? = some s → s.reserve = .ok (ticket, reserved) →
      Step o
        { supervisors := o.supervisors.set seat (reserved.announce pid command.display).attach
          workers := o.workers ++ [(seat, .new reserved.tuning command ticket pid now fanout)] }
  /-- A caller asks the run of a seat to stop. -/
  | asked {o : Outline} {seat : Nat} {s : Supervisor} :
      o.supervisors[seat]? = some s → Step o (o.seatAt seat s.cancel.2)
  /-- A caller answers. -/
  | answered {o : Outline} {seat : Nat} {s : Supervisor} (answer : Answer)
      (replies : PipeReplies) :
      o.supervisors[seat]? = some s → Step o (o.seatAt seat (s.answer answer replies).2.2)
  /-- Output arrives. -/
  | arrived {o : Outline} {run seat : Nat} {w : Worker Observer} (arrival : Reader.Arrival) :
      o.workers[run]? = some (seat, w) → Step o (o.workAt run seat (w.arrive arrival))
  /-- A worker does its next task.  Its sinks were told the time before and are emptied behind. -/
  | worked {o : Outline} {run seat : Nat} {w : Worker Observer} {s : Supervisor}
      (seen : Observation) (before behind : Fanout Observer) :
      o.workers[run]? = some (seat, w) → o.supervisors[seat]? = some s →
      Step o ((o.seatAt seat ((w.withFanout before).step s seen).shared).workAt run seat
        (((w.withFanout before).step s seen).worker.withFanout behind))
  /-- A caller takes from a sink of a run what is in it. -/
  | emptied {o : Outline} {run seat : Nat} {w : Worker Observer} (fanout : Fanout Observer) :
      o.workers[run]? = some (seat, w) → Step o (o.workAt run seat (w.withFanout fanout))

end Outline

section Bookkeeping

variable {h : Host}

@[simp] theorem outline_modifySeat (number : Nat) (s : Supervisor) :
    (h.modifySeat number fun seat => { seat with supervisor := s }).outline =
      h.outline.seatAt number s := by
  have hseat : ∀ seat : Seat, { seat with supervisor := s }.supervisor = s := fun _ => rfl
  simp only [outline, modifySeat, Outline.seatAt, List.map_modify_eq_set fun seat _ => hseat seat]

@[simp] theorem outline_occupy (number : Nat) (s : Supervisor) (input : Option Nat) :
    (h.modifySeat number fun _ => ⟨s, input⟩).outline = h.outline.seatAt number s := by
  have hseat : ∀ seat : Seat, ((fun _ => ⟨s, input⟩ : Seat → Seat) seat).supervisor = s :=
    fun _ => rfl
  simp only [outline, modifySeat, Outline.seatAt, List.map_modify_eq_set fun seat _ => hseat seat]

@[simp] theorem outline_addRun (r : Run) :
    ({ h with runs := h.runs ++ [r] } : Host).outline =
      { h.outline with workers := h.outline.workers ++ [(r.seat, r.worker)] } := by
  simp [outline, Run.seated]

theorem outline_modifyRun {number : Nat} {r : Run} (hr : h.runs[number]? = some r)
    {f : Run → Run} (hseat : (f r).seat = r.seat) :
    (h.modifyRun number f).outline = h.outline.workAt number r.seat (f r).worker := by
  have hmap : (h.runs.modify number f).map Run.seated =
      (h.runs.map Run.seated).set number (r.seat, (f r).worker) := by
    refine List.map_modify_eq_set fun r' hr' => ?_
    obtain rfl : r = r' := Option.some.inj (hr.symm.trans hr')
    rw [Run.seated, hseat]
  simp only [outline, modifyRun, Outline.workAt, hmap]

theorem getElem?_supervisors {number : Nat} {seat : Seat} (hseat : h.seats[number]? = some seat) :
    h.outline.supervisors[number]? = some seat.supervisor := by
  simp [outline, hseat]

theorem getElem?_workers {number : Nat} {r : Run} (hr : h.runs[number]? = some r) :
    h.outline.workers[number]? = some (r.seat, r.worker) := by
  simp [outline, hr, Run.seated]

@[simp] theorem outline_withMachine (machine : Computer) :
    ({ h with machine } : Host).outline = h.outline := rfl

@[simp] theorem outline_feed (seat : Seat) (bytes : List UInt8) :
    (h.feed seat bytes).outline = h.outline := by
  rw [feed]
  split
  · split <;> rfl
  · rfl

@[simp] theorem runs_feed (seat : Seat) (bytes : List UInt8) :
    (h.feed seat bytes).runs = h.runs := by
  rw [feed]
  split
  · split <;> rfl
  · rfl

@[simp] theorem runs_modifySeat (number : Nat) (f : Seat → Seat) :
    (h.modifySeat number f).runs = h.runs := rfl

@[simp] theorem outline_deliver (pid : Nat) (signal : Option StopSignal) :
    (h.deliver pid signal).outline = h.outline := by
  cases signal <;> rfl

@[simp] theorem outline_closeInput (number : Nat) :
    (h.closeInput number).outline = h.outline := by
  have hinput : ∀ seat : Seat, { seat with input := none }.supervisor = seat.supervisor :=
    fun _ => rfl
  rw [closeInput]
  split
  · simp only [outline, modifySeat, List.map_modify_eq_self hinput]
  · rfl

@[simp] theorem outline_release (number : Nat) : (h.release number).outline = h.outline := by
  have houtput : ∀ r : Run, { r with output := none }.seated = r.seated := fun _ => rfl
  rw [release]
  split
  · rfl
  · split
    · simp only [outline, modifyRun, List.map_modify_eq_self houtput]
    · rfl

end Bookkeeping

/-! ## Section 3: What happens to a host

A host does much that its outline does not show: the machine goes on, pipes are read and written,
time passes.  Each kind of move is looked at for what is left of it in the outline, which is one
step or none, and for a turn of the host as many as it takes. -/

/-- What callers and the host itself do to a host. -/
inductive Move : Host → Host → Prop where
  | addSupervisor (h : Host) (tuning : Tuning) : Move h (h.addSupervisor tuning).2
  | start (h : Host) (seat : Nat) (command : Command) (observers : List Observer) :
      Move h (h.start seat command observers).2
  | cancel (h : Host) (seat : Nat) : Move h (h.cancel seat).2
  | answer (h : Host) (seat : Nat) (answer : Answer) : Move h (h.answer seat answer).2
  | modifyObserver (h : Host) (run place : Nat) (f : Observer → Observer) :
      Move h (h.modifyObserver run place f)
  /-- The host takes a turn. -/
  | turn {h next : Host} : h.turn? = some next → Move h next
  /-- Time passes, or files are made: something happens on the machine alone. -/
  | machine (h : Host) (machine : Computer) : Move h { h with machine }

section Moves

variable {h next : Host}

open Relation (ReflTransGen)

/-- Starting a command is one step of the outline, or none. -/
theorem steps_start (number : Nat) (command : Command) (observers : List Observer) :
    ReflTransGen Outline.Step h.outline (h.start number command observers).2.outline := by
  rw [start]
  -- no seat, or a busy supervisor: nothing happens
  split
  · exact .refl
  · next seat hseat =>
    have hsupervisor := getElem?_supervisors hseat
    split
    · exact .refl
    · next ticket reserved hreserve =>
      split
      · -- the process could not be made
        rw [outline_modifySeat]
        exact .single (.refused command (Fanout.ofSinks observers) hsupervisor hreserve)
      · next pid input output machine _ =>
        -- what the machine did, and the inputs that were closed, are no part of the outline
        rw [outline_addRun, outline_occupy, outline_closeInput, outline_withMachine]
        exact .single (.started command pid h.now (Fanout.ofSinks observers) hsupervisor hreserve)

theorem steps_cancel (number : Nat) :
    ReflTransGen Outline.Step h.outline (h.cancel number).2.outline := by
  rw [cancel]
  split
  · exact .refl
  · next seat hseat =>
    rw [outline_modifySeat]
    exact .single (.asked (getElem?_supervisors hseat))

theorem steps_answer (number : Nat) (answer : Answer) :
    ReflTransGen Outline.Step h.outline (h.answer number answer).2.outline := by
  rw [Host.answer]
  split
  · exact .refl
  · next seat hseat =>
    simp only [outline_modifySeat, outline_feed]
    exact .single (.answered answer (h.replies seat) (getElem?_supervisors hseat))

theorem steps_modifyObserver (number place : Nat) (f : Observer → Observer) :
    ReflTransGen Outline.Step h.outline (h.modifyObserver number place f).outline := by
  rw [modifyObserver]
  cases hr : h.runs[number]? with
  | none =>
    -- there is no such run
    have hnone : h.runs.length ≤ number := List.getElem?_eq_none_iff.mp hr
    rw [modifyRun, List.modify_eq_self hnone]
  | some r =>
    rw [outline_modifyRun hr rfl]
    exact .single (.emptied _ (getElem?_workers hr))

/-- A pump is an arrival for the worker of its run. -/
theorem steps_pump {number : Nat} {r : Run} (hr : h.runs[number]? = some r)
    (hpump : h.pump number r = some next) : ReflTransGen Outline.Step h.outline next.outline := by
  rw [pump] at hpump
  split at hpump
  · -- no pipe, a full queue or an empty pipe: nothing is taken
    cases hpump
  · split at hpump
    · cases hpump
    · split at hpump
      · next chunk machine _ =>
        cases hpump
        rw [outline_modifyRun (h := { h with machine }) hr rfl]
        exact .single (.arrived (.bytes chunk) (getElem?_workers hr))
      · cases hpump
      · next machine _ _ _ =>
        cases hpump
        rw [outline_modifyRun (h := { h with machine := machine.letGo _ }) hr rfl]
        exact .single (.arrived .ended (getElem?_workers hr))

/-- A step of a worker is seen in the outline as its new supervisor and its new worker; the other
things that it does are left to the machine. -/
theorem outline_carryOut {number : Nat} {r : Run} (hr : h.runs[number]? = some r) (seat : Seat)
    (done : Worker.Stepped Observer) :
    (h.carryOut number r seat done).outline =
      (h.outline.seatAt r.seat done.shared).workAt number r.seat
        (done.worker.withFanout done.worker.fanout.saved) := by
  -- closing an input touches the machine and the seat, but no supervisor
  have hclose : ∀ (attached : Bool) (h : Host),
      (if attached then h else h.closeInput r.seat).outline = h.outline := by
    intro attached h
    cases attached with
    | true => rfl
    | false => exact outline_closeInput r.seat
  rw [carryOut, outline_release, outline_deliver, hclose, outline_modifyRun (r := r)]
  · rw [outline_modifySeat, outline_feed, outline_withMachine]
    rfl
  · -- the run is still the one that it was when its supervisor is put back
    rw [runs_modifySeat, runs_feed]
    exact hr
  · rfl

theorem steps_work {number : Nat} {r : Run} (hr : h.runs[number]? = some r) :
    ReflTransGen Outline.Step h.outline (h.work number r).outline := by
  rw [work]
  split
  · exact .refl
  · next seat hseat =>
    rw [outline_carryOut hr]
    exact .single (.worked _ (r.worker.fanout.setMoment h.machine.moment) _ (getElem?_workers hr)
      (getElem?_supervisors hseat))

theorem mem_numberedRuns {number : Nat} {r : Run} (hmem : (number, r) ∈ h.numberedRuns) :
    h.runs[number]? = some r := by
  obtain ⟨⟨r', number'⟩, hzip, heq⟩ := List.mem_map.mp hmem
  cases heq
  exact List.mem_zipIdx_iff_getElem?.mp hzip

theorem steps_turn (hturn : h.turn? = some next) :
    ReflTransGen Outline.Step h.outline next.outline := by
  rw [turn?] at hturn
  split at hturn
  · next after hpump =>
    -- a chunk or an end arrives, a worker does its task, or a process steps
    cases hturn
    obtain ⟨⟨number, r⟩, hmem, hpump⟩ := List.exists_of_findSome?_eq_some hpump
    exact steps_pump (mem_numberedRuns hmem) hpump
  · split at hturn
    · next number r hfind =>
      cases hturn
      exact steps_work (mem_numberedRuns (List.mem_of_find?_eq_some hfind))
    · obtain ⟨machine, -, rfl⟩ := Option.map_eq_some_iff.mp hturn
      exact .refl

/-- **What happens to a host** is, without its machine, what can happen to an outline.  The machine
only decides what workers see, and an outline lets them see anything. -/
theorem Move.steps (hmove : Move h next) :
    ReflTransGen Outline.Step h.outline next.outline := by
  cases hmove with
  | addSupervisor tuning =>
    have houtline : (h.addSupervisor tuning).2.outline =
        { h.outline with supervisors := h.outline.supervisors ++ [.new tuning] } := by
      simp [Host.addSupervisor, outline]
    rw [houtline]
    exact .single (.seated h.outline tuning)
  | start seat command observers => exact steps_start seat command observers
  | cancel seat => exact steps_cancel seat
  | answer seat answer => exact steps_answer seat answer
  | modifyObserver run place f => exact steps_modifyObserver run place f
  | turn hturn => exact steps_turn hturn
  -- a process that steps is out of the outline
  | machine machine => exact .refl

end Moves

end Host

end Overseer
