import Overseer.Host.Turns
import Mathlib.Data.List.Nodup
import Mathlib.Tactic.SplitIfs

/-!
# A Process That Is Killed Has Ended

A worker that loses its patience sends the kill signal to the group of its process, and then waits
for the process to end.  It need not wait for long: no process can ignore that signal or catch it,
so behind it nothing of the group is left that runs.

The processes of a machine are told apart by their numbers (`Machine.Numbered`), and a signal makes
no process, keeps numbers and groups, and wakes no process that has ended (`Machine.Ages`).

- `Machine.numbered_new`, `Machine.Numbered.addProcess`, …: every process has a number of its own
- `Machine.Numbered.ages_signal`: what any signal does to the processes of a machine
- `Machine.Numbered.isAlive_signalGroup_kill`: nothing of a group that was killed is alive
- `Host.childStatus_deliver_kill`: a worker that has its process killed finds that it has exited
-/

namespace Overseer

namespace Process

variable {β : Type} (p : Process β) (s : Signal)

/-! ## Section 1: A signal and one process

A process may ignore a signal, or catch it and keep it pending, and it may be stopped when it comes.
The kill signal is asked about before all of these. -/

/-- All that a signal changes in a process is whether it is stopped and which signals it has still
to see to. -/
theorem exists_receive_eq : ∃ stopped pending, (p.receive s).1 = { p with stopped, pending } := by
  unfold receive
  -- only behind all tests does it matter what the signal does by itself
  split_ifs <;> first
    | exact ⟨_, _, rfl⟩
    | cases s.effect <;> exact ⟨_, _, rfl⟩

/-- Nothing that a process arranges keeps the kill signal off. -/
theorem receive_kill : p.receive Signal.kill = (p, true) := rfl

end Process

namespace Machine

variable {β : Type} {m m' : Machine β}

/-! ## Section 2: Processes and their numbers

A number is given to one process and never again, since the next one only grows.  So a list of
processes without two of one number stays so, whoever comes and goes. -/

/-- Every process of a machine has a number of its own, none has that of the outside, and the next
number is free. -/
structure Numbered (m : Machine β) : Prop where
  nodup : (m.processes.map (·.pid)).Nodup
  outside_lt : ∀ p ∈ m.processes, outsidePid < p.pid
  lt_next : ∀ p ∈ m.processes, p.pid < m.nextPid
  outside_lt_next : outsidePid < m.nextPid

theorem numbered_new (tree : FileTree) : (new tree : Machine β).Numbered :=
  ⟨List.nodup_nil, fun _ h => absurd h List.not_mem_nil, fun _ h => absurd h List.not_mem_nil,
    show 1 < 1000 by decide⟩

theorem Numbered.eq_of_pid (h : m.Numbered) {p q : Process β} (hp : p ∈ m.processes)
    (hq : q ∈ m.processes) (hpid : p.pid = q.pid) : p = q :=
  List.inj_on_of_nodup_map h.nodup hp hq hpid

/-- The process with a number is the one there is. -/
theorem Numbered.process?_eq_some_iff (h : m.Numbered) {pid : Nat} {p : Process β} :
    m.process? pid = some p ↔ p ∈ m.processes ∧ p.pid = pid := by
  constructor
  · intro hfound
    exact ⟨List.mem_of_find?_eq_some hfound, by simpa using List.find?_some hfound⟩
  · rintro ⟨hp, rfl⟩
    -- no two processes have one number, so the search finds this one and no other
    cases hfound : m.process? p.pid with
    | none => exact absurd (beq_self_eq_true p.pid) (List.find?_eq_none.mp hfound p hp)
    | some q =>
      have hq : q.pid = p.pid := by simpa using List.find?_some hfound
      rw [h.eq_of_pid (List.mem_of_find?_eq_some hfound) hp hq]

theorem Numbered.addProcess (h : m.Numbered) (p : Process β) : (m.addProcess p).2.Numbered := by
  refine ⟨?_, fun q hq => ?_, fun q hq => ?_, Nat.lt_succ_of_lt h.outside_lt_next⟩
  · -- the new number is above all the others
    have hfresh : m.nextPid ∉ m.processes.map (·.pid) := by
      intro hmem
      obtain ⟨q, hq, hpid⟩ := List.mem_map.mp hmem
      exact absurd (h.lt_next q hq) (by omega)
    simpa [Machine.addProcess, List.nodup_append] using
      ⟨h.nodup, fun q hq hpid => hfresh (List.mem_map.mpr ⟨q, hq, hpid⟩)⟩
  · -- the numbers from outside stay below those of the processes, and the next one above
    rcases List.mem_append.mp hq with hq | hq
    · exact h.outside_lt q hq
    · rw [List.mem_singleton.mp hq]
      exact h.outside_lt_next
  · rcases List.mem_append.mp hq with hq | hq
    · exact Nat.lt_succ_of_lt (h.lt_next q hq)
    · rw [List.mem_singleton.mp hq]
      exact Nat.lt_succ_self _

/-- Fewer processes, with the numbers that they had. -/
theorem Numbered.of_sublist (h : m.Numbered) {processes : List (Process β)}
    (hsub : (processes.map (·.pid)).Sublist (m.processes.map (·.pid))) :
    Numbered { m with processes } := by
  have hbefore : ∀ p ∈ processes, ∃ q ∈ m.processes, q.pid = p.pid := fun p hp =>
    List.mem_map.mp (hsub.subset (List.mem_map_of_mem hp))
  -- every number that is left was there before
  refine ⟨h.nodup.sublist hsub, fun p hp => ?_, fun p hp => ?_, h.outside_lt_next⟩
  · obtain ⟨q, hq, hpid⟩ := hbefore p hp
    exact hpid ▸ h.outside_lt q hq
  · obtain ⟨q, hq, hpid⟩ := hbefore p hp
    exact hpid ▸ h.lt_next q hq

theorem Numbered.dropProcess (h : m.Numbered) (pid : Nat) : (m.dropProcess pid).Numbered :=
  h.of_sublist (List.filter_sublist.map _)

theorem Numbered.setProcess (h : m.Numbered) (p : Process β) : (m.setProcess p).Numbered := by
  have hsame : (m.setProcess p).processes.map (·.pid) = m.processes.map (·.pid) := by
    rw [Machine.setProcess, List.map_map]
    refine List.map_congr_left fun q _ => ?_
    by_cases hpid : q.pid = p.pid <;> simp [hpid]
  exact h.of_sublist (hsame ▸ List.Sublist.refl _)

/-- What becomes of a process when the one with a number ends. -/
def afterEnd (pid : Nat) (status : EndStatus) (p : Process β) : Option (Process β) :=
  if p.pid == pid then
    if p.parent == 0 then none
    else some { p with ended := some status, handles := [], pending := [] }
  else if p.parent == pid then
    if p.ended.isSome then none else some { p with parent := 0 }
  else some p

theorem processes_endProcess (pid : Nat) (status : EndStatus) :
    (m.endProcess pid status).processes = m.processes.filterMap (afterEnd pid status) := rfl

theorem pid_of_afterEnd {pid : Nat} {status : EndStatus} {p p' : Process β}
    (h : afterEnd pid status p = some p') : p'.pid = p.pid := by
  unfold afterEnd at h
  split_ifs at h <;> cases h <;> rfl

theorem Numbered.endProcess (h : m.Numbered) (pid : Nat) (status : EndStatus) :
    (m.endProcess pid status).Numbered := by
  -- a process is dropped or keeps its number, so the numbers are a sublist of those before
  refine h.of_sublist ?_
  change ((m.processes.filterMap (afterEnd pid status)).map (·.pid)).Sublist _
  generalize m.processes = processes
  induction processes with
  | nil => exact List.Sublist.slnil
  | cons p processes ih =>
    cases hp : afterEnd pid status p with
    | none => simpa only [List.filterMap_cons, hp, List.map_cons] using ih.cons _
    | some p' =>
      simpa only [List.filterMap_cons, hp, List.map_cons, pid_of_afterEnd hp] using ih.cons_cons _

/-! ## Section 3: Signals and processes

Signals are sent one at a time, to each process of a group in turn, and a process may end in between
and pass its children on.  What holds from one machine to the next therefore has to be transitive.
-/

/-- What signals do to the processes of a machine: each of them was there before, in the same group,
and is not alive if it was not; and one that the outside asks about stays. -/
structure Ages (m m' : Machine β) : Prop where
  before : ∀ p' ∈ m'.processes, ∃ p ∈ m.processes,
    p.pid = p'.pid ∧ p.group = p'.group ∧ (p.isAlive = false → p'.isAlive = false)
  stays : ∀ p ∈ m.processes, p.parent = outsidePid →
    ∃ p' ∈ m'.processes, p'.pid = p.pid ∧ p'.parent = outsidePid

theorem Ages.refl (m : Machine β) : Ages m m :=
  ⟨fun p hp => ⟨p, hp, rfl, rfl, id⟩, fun p hp hparent => ⟨p, hp, rfl, hparent⟩⟩

theorem Ages.trans {m₁ m₂ m₃ : Machine β} (h : Ages m₁ m₂) (h' : Ages m₂ m₃) : Ages m₁ m₃ := by
  -- back from the last machine to the first, and forward from the first to the last
  constructor
  · intro p₃ hp₃
    obtain ⟨p₂, hp₂, hpid, hgroup, hdead⟩ := h'.before p₃ hp₃
    obtain ⟨p₁, hp₁, hpid', hgroup', hdead'⟩ := h.before p₂ hp₂
    exact ⟨p₁, hp₁, hpid'.trans hpid, hgroup'.trans hgroup, hdead ∘ hdead'⟩
  · intro p₁ hp₁ hparent
    obtain ⟨p₂, hp₂, hpid, hparent'⟩ := h.stays p₁ hp₁ hparent
    obtain ⟨p₃, hp₃, hpid', hparent''⟩ := h'.stays p₂ hp₂ hparent'
    exact ⟨p₃, hp₃, hpid'.trans hpid, hparent''⟩

/-- A process that is put in its own stead, with another state. -/
theorem Numbered.ages_setProcess (h : m.Numbered) {p q : Process β} (hp : p ∈ m.processes)
    (hpid : q.pid = p.pid) (hgroup : q.group = p.group) (hparent : q.parent = p.parent)
    (hended : q.ended = p.ended) : Ages m (m.setProcess q) := by
  constructor
  · -- only the process that was put differs from what was there, and only in its state
    intro p' hp'
    obtain ⟨r, hr, rfl⟩ := List.mem_map.mp hp'
    by_cases hrq : r.pid = q.pid
    · rw [if_pos (beq_iff_eq.mpr hrq)]
      exact ⟨p, hp, hpid.symm, hgroup.symm, by simp [Process.isAlive, hended]⟩
    · rw [if_neg (by simpa using hrq)]
      exact ⟨r, hr, rfl, rfl, id⟩
  · intro r hr hrparent
    refine ⟨_, List.mem_map_of_mem hr, ?_⟩
    by_cases hrq : r.pid = q.pid
    · rw [if_pos (beq_iff_eq.mpr hrq)]
      have hrp : r = p := h.eq_of_pid hr hp (hrq.trans hpid)
      exact ⟨hrq.symm, hparent.trans (hrp ▸ hrparent)⟩
    · rw [if_neg (by simpa using hrq)]
      exact ⟨rfl, hrparent⟩

theorem ages_endProcess {pid : Nat} (hpid : outsidePid < pid)
    (status : EndStatus) : Ages m (m.endProcess pid status) := by
  constructor
  · intro p' hp'
    rw [processes_endProcess] at hp'
    obtain ⟨p, hp, hafter⟩ := List.mem_filterMap.mp hp'
    refine ⟨p, hp, (pid_of_afterEnd hafter).symm, ?_⟩
    unfold afterEnd at hafter
    split_ifs at hafter <;> cases hafter <;> simp [Process.isAlive]
  · intro p hp hparent
    -- the outside is no process, so its children lose no parent
    have hnone : (p.parent == 0) = false := by rw [hparent]; rfl
    have hother : (p.parent == pid) = false := by
      rw [hparent]
      exact beq_false_of_ne (Nat.ne_of_lt hpid)
    have hafter : ∃ p', afterEnd pid status p = some p' ∧ p'.pid = p.pid ∧
        p'.parent = outsidePid := by
      by_cases hown : p.pid = pid
      · refine ⟨{ p with ended := some status, handles := [], pending := [] }, ?_, rfl, hparent⟩
        rw [afterEnd, if_pos (beq_iff_eq.mpr hown), hnone, if_neg Bool.false_ne_true]
      · refine ⟨p, ?_, rfl, hparent⟩
        rw [afterEnd, beq_false_of_ne hown, hother, if_neg Bool.false_ne_true,
          if_neg Bool.false_ne_true]
    obtain ⟨p', hp', hfields⟩ := hafter
    exact ⟨p', List.mem_filterMap.mpr ⟨p, hp, hp'⟩, hfields⟩

/-- What a signal comes to: nothing, another state of the process, or its end. -/
theorem signal_cases (m : Machine β) (pid : Nat) (s : Signal) :
    (m.process? pid = none ∧ (m.signal pid s).2 = m) ∨
      ∃ p, m.process? pid = some p ∧
        ((p.isAlive = false ∧ (m.signal pid s).2 = m) ∨
          ((p.receive s).2 = false ∧ (m.signal pid s).2 = m.setProcess (p.receive s).1) ∨
          ∃ status, (m.signal pid s).2 =
            (m.setProcess (p.receive s).1).endProcess pid status) := by
  -- the signal finds no process, a dead one, one that lives on, or one that it ends
  cases hfound : m.process? pid with
  | none => exact .inl ⟨rfl, by simp only [signal, hfound]⟩
  | some p =>
    refine .inr ⟨p, rfl, ?_⟩
    cases halive : p.isAlive with
    | false => exact .inl ⟨rfl, by simp [signal, hfound, halive]⟩
    | true =>
      cases hfatal : (p.receive s).2 with
      | false => exact .inr (.inl ⟨rfl, by simp [signal, hfound, halive, hfatal]⟩)
      | true => exact .inr (.inr ⟨_, by simp [signal, hfound, halive, hfatal]; rfl⟩)

theorem Numbered.signal (h : m.Numbered) (pid : Nat) (s : Signal) :
    (m.signal pid s).2.Numbered := by
  rcases m.signal_cases pid s with ⟨-, hm⟩ | ⟨p, -, ⟨-, hm⟩ | ⟨-, hm⟩ | ⟨status, hm⟩⟩ <;> rw [hm]
  · exact h
  · exact h
  · exact h.setProcess _
  · exact (h.setProcess _).endProcess pid status

/-- **What a signal does to the processes of a machine**, whatever signal it is. -/
theorem Numbered.ages_signal (h : m.Numbered) (pid : Nat) (s : Signal) :
    Ages m (m.signal pid s).2 := by
  rcases m.signal_cases pid s with ⟨-, hm⟩ | ⟨p, hfound, hcases⟩
  · rw [hm]
    exact .refl m
  · obtain ⟨hp, hpid⟩ := h.process?_eq_some_iff.mp hfound
    -- receiving a signal changes what is pending and whether the process is stopped, nothing else
    obtain ⟨stopped, pending, hq⟩ := p.exists_receive_eq s
    have hset : Ages m (m.setProcess (p.receive s).1) := by
      rw [hq]
      exact h.ages_setProcess hp rfl rfl rfl rfl
    rcases hcases with ⟨-, hm⟩ | ⟨-, hm⟩ | ⟨status, hm⟩ <;> rw [hm]
    · exact .refl m
    · exact hset
    · exact hset.trans (ages_endProcess (hpid ▸ h.outside_lt p hp) status)

/-! ## Section 4: The kill signal

The processes that are meant are those of the group when the signal is sent.  Each of them is dead
behind its own signal and stays so behind the others. -/

/-- A process that was killed is not alive. -/
theorem Numbered.isAlive_signal_kill (h : m.Numbered) {pid : Nat} {p : Process β}
    (hp : p ∈ (m.signal pid Signal.kill).2.processes) (hpid : p.pid = pid) : p.isAlive = false := by
  rcases m.signal_cases pid Signal.kill with ⟨hnone, hm⟩ | ⟨q, hfound, hcases⟩
  · rw [hm] at hp
    exact absurd (h.process?_eq_some_iff.mpr ⟨hp, hpid⟩) (by simp [hnone])
  · rcases hcases with ⟨hdead, hm⟩ | ⟨hlives, -⟩ | ⟨status, hm⟩
    · rw [hm] at hp
      have hsame := h.process?_eq_some_iff.mpr ⟨hp, hpid⟩
      rw [hfound] at hsame
      exact Option.some.inj hsame ▸ hdead
    · -- the signal can be neither ignored nor caught
      rw [q.receive_kill] at hlives
      exact absurd hlives.symm Bool.false_ne_true
    · rw [hm, processes_endProcess] at hp
      obtain ⟨r, -, hafter⟩ := List.mem_filterMap.mp hp
      have hr : r.pid = pid := (pid_of_afterEnd hafter).symm.trans hpid
      unfold afterEnd at hafter
      rw [if_pos (beq_iff_eq.mpr hr)] at hafter
      split_ifs at hafter
      cases hafter
      rfl

/-- A signal to each of some processes, one after the other. -/
def signalEach (m : Machine β) (s : Signal) (ps : List (Process β)) : Bool × Machine β :=
  ps.foldl (fun (found, m) p =>
    let (here, m) := m.signal p.pid s
    (found || here, m)) (false, m)

theorem signalGroup_eq_signalEach (m : Machine β) (group : Nat) (s : Signal) :
    m.signalGroup group s = m.signalEach s (m.processes.filter fun p => p.group == group) := rfl

/-- The machine behind signals to some processes does not depend on whether one was found. -/
theorem signalEach_cons (m : Machine β) (s : Signal) (p : Process β) (ps : List (Process β)) :
    (m.signalEach s (p :: ps)).2 = ((m.signal p.pid s).2.signalEach s ps).2 := by
  -- whether one was found is carried along and never looked at
  have hfound : ∀ (found found' : Bool) (m : Machine β) (ps : List (Process β)),
      (ps.foldl (fun (found, m) p =>
        let (here, m) := m.signal p.pid s
        (found || here, m)) (found, m)).2 =
      (ps.foldl (fun (found, m) p =>
        let (here, m) := m.signal p.pid s
        (found || here, m)) (found', m)).2 := by
    intro found found' m ps
    induction ps generalizing found found' m with
    | nil => rfl
    | cons p ps ih => exact ih _ _ _
  exact hfound _ _ _ ps

theorem Numbered.signalEach (h : m.Numbered) (s : Signal) (ps : List (Process β)) :
    (m.signalEach s ps).2.Numbered := by
  induction ps generalizing m with
  | nil => exact h
  | cons p ps ih =>
    rw [signalEach_cons]
    exact ih (h.signal p.pid s)

theorem Numbered.ages_signalEach (h : m.Numbered) (s : Signal) (ps : List (Process β)) :
    Ages m (m.signalEach s ps).2 := by
  induction ps generalizing m with
  | nil => exact .refl m
  | cons p ps ih =>
    rw [signalEach_cons]
    exact (h.ages_signal p.pid s).trans (ih (h.signal p.pid s))

theorem Numbered.isAlive_signalEach_kill (h : m.Numbered) {ps : List (Process β)} {p q : Process β}
    (hp : p ∈ (m.signalEach Signal.kill ps).2.processes) (hq : q ∈ ps) (hpid : p.pid = q.pid) :
    p.isAlive = false := by
  induction ps generalizing m with
  | nil => exact absurd hq List.not_mem_nil
  | cons r ps ih =>
    rw [signalEach_cons] at hp
    rcases List.mem_cons.mp hq with rfl | hq
    · -- it is killed now, and the signals to the others do not wake it
      obtain ⟨p₁, hp₁, hpid₁, -, hdead⟩ :=
        ((h.signal q.pid Signal.kill).ages_signalEach Signal.kill ps).before p hp
      exact hdead (h.isAlive_signal_kill hp₁ (hpid₁.trans hpid))
    · exact ih (h.signal r.pid Signal.kill) hp hq

/-- **Nothing of a group that was killed is alive.** -/
theorem Numbered.isAlive_signalGroup_kill (h : m.Numbered) {group : Nat} {p : Process β}
    (hp : p ∈ (m.signalGroup group Signal.kill).2.processes) (hgroup : p.group = group) :
    p.isAlive = false := by
  rw [signalGroup_eq_signalEach] at hp
  obtain ⟨q, hq, hpid, hsame, -⟩ := (h.ages_signalEach Signal.kill _).before p hp
  refine h.isAlive_signalEach_kill hp (List.mem_filter.mpr ⟨hq, ?_⟩) hpid.symm
  exact beq_iff_eq.mpr (hsame.trans hgroup)

end Machine

/-! ## Section 5: A worker that has its process killed

A worker sends to the group that its process leads, and to the process alone if there is no such
group any more.  In both cases its process is among those that are killed. -/

namespace Host

variable {h : Host}

/-- A process that is there and not alive has left a status behind. -/
theorem childStatus_of_mem (hnumbered : h.machine.Numbered) {p : Process Body}
    (hp : p ∈ h.machine.processes) (hdead : p.isAlive = false) :
    ∃ code, h.childStatus p.pid = .exited code := by
  -- only the dead have a status, and the machine keeps it until the process is waited for
  cases hended : p.ended with
  | none => simp [Process.isAlive, hended] at hdead
  | some status =>
    have hfound := hnumbered.process?_eq_some_iff.mpr ⟨hp, rfl⟩
    refine ⟨status.code, ?_⟩
    simp only [childStatus, Machine.endOf?, hfound, Option.bind_some, hended]

/-- **A worker that has its process killed finds that it has exited.**  The process leads a group of
its own and was begun from outside, as every process is that a host spawns. -/
theorem childStatus_deliver_kill (hnumbered : h.machine.Numbered) {p : Process Body}
    (hp : p ∈ h.machine.processes) (hgroup : p.group = p.pid)
    (hparent : p.parent = Machine.outsidePid) :
    ∃ code, (h.deliver p.pid (some .kill)).childStatus p.pid = .exited code := by
  have hgroupKilled := hnumbered.ages_signalEach Signal.kill
    (h.machine.processes.filter fun q => q.group == p.pid)
  have hgroupNumbered := hnumbered.signalEach Signal.kill
    (h.machine.processes.filter fun q => q.group == p.pid)
  rw [← Machine.signalGroup_eq_signalEach] at hgroupKilled hgroupNumbered
  obtain ⟨q, hq, hpid, hqparent⟩ := hgroupKilled.stays p hp hparent
  cases hfound : (h.machine.signalGroup p.pid Signal.kill).1 with
  | true =>
    have hdeliver : (h.deliver p.pid (some .kill)).machine =
        (h.machine.signalGroup p.pid Signal.kill).2 := by
      simp only [deliver, hfound, if_true]
    have hdead : q.isAlive = false := by
      refine hnumbered.isAlive_signalEach_kill (q := p) hq ?_ hpid
      exact List.mem_filter.mpr ⟨hp, beq_iff_eq.mpr hgroup⟩
    obtain ⟨code, hcode⟩ := childStatus_of_mem (h := h.deliver p.pid (some .kill))
      (hdeliver ▸ hgroupNumbered) (hdeliver ▸ hq) hdead
    exact ⟨code, hpid ▸ hcode⟩
  | false =>
    -- no group was found, and the process is killed by itself
    have hdeliver : (h.deliver p.pid (some .kill)).machine =
        ((h.machine.signalGroup p.pid Signal.kill).2.signal p.pid Signal.kill).2 := by
      simp only [deliver, hfound, Bool.false_eq_true, if_false]
    obtain ⟨r, hr, hrpid, -⟩ :=
      (hgroupNumbered.ages_signal p.pid Signal.kill).stays q hq hqparent
    have hdead := hgroupNumbered.isAlive_signal_kill hr (hrpid.trans hpid)
    obtain ⟨code, hcode⟩ := childStatus_of_mem (h := h.deliver p.pid (some .kill))
      (hdeliver ▸ hgroupNumbered.signal p.pid Signal.kill) (hdeliver ▸ hr) hdead
    exact ⟨code, (hrpid.trans hpid) ▸ hcode⟩

end Host

end Overseer
