import Overseer.Proofs.Supervisor.Account

/-!
# The Waits of a Run

A run opens a wait when it finds a prompt and none waits already.  Until an answer is supplied the
relay holds that wait; and while the run goes round its loop, a wait that the relay no longer holds
got its answer.

- `Deed.opened?`: the wait that a step opens
- `Worker.waits_step`, `Worker.waits_kept`: what one step does to the wait that the relay holds
- `lasting_waiting`: which waits of a run have their answer
-/

namespace Overseer

open Agenda

variable {σ : Type} [Sink σ] {tuning : Tuning}

/-! ## Section 1: The wait that a relay holds

A relay has at most one wait, and a new one is opened only when that is settled.  The lemmas say
what opening, expiring and settling do to a wait that is known. -/

namespace Relay

variable {r : Relay} {wait : PromptWait}

/-- The relay holds a wait that has no answer. -/
def Holds (r : Relay) (wait : PromptWait) : Prop := r.wait = some wait ∧ wait.isResolved = false

theorem Holds.outstanding (h : r.Holds wait) : r.outstanding = true :=
  outstanding_iff.mpr ⟨wait, h.1, h.2⟩

theorem not_holds (h : r.outstanding = false) : ¬r.Holds wait :=
  fun hholds => absurd (hholds.outstanding.symm.trans h) nofun

/-- While a prompt waits no wait is opened. -/
theorem openWait?_outstanding (h : r.outstanding = true) (text : String) (now timeout : Nat) :
    r.openWait? text now timeout = some (false, r) := by
  rw [openWait?, if_pos h]

/-- What it takes to open a wait, and what is opened. -/
theorem openWait?_opened {text : String} {now timeout : Nat} {after : Relay}
    (h : r.openWait? text now timeout = some (true, after)) :
    r.outstanding = false ∧ after.wait = some ⟨text, now, now + timeout, none⟩ := by
  simp only [openWait?] at h
  split at h
  · cases h
  · next hidle =>
    split at h
    · cases h
      exact ⟨Bool.eq_false_iff.mpr hidle, rfl⟩
    · cases h

/-- The wait that expires is the one that the relay holds. -/
theorem takeExpired_some {now : Nat} (h : (r.takeExpired now).1 = some wait) :
    r.Holds wait ∧ wait.expiresAt ≤ now := by
  simp only [takeExpired] at h
  split at h
  · cases h
  · next other hwait =>
    split at h
    · next hexpired =>
      cases h
      simp only [Bool.and_eq_true, Bool.not_eq_true', decide_eq_true_eq] at hexpired
      exact ⟨⟨hwait, hexpired.1⟩, hexpired.2⟩
    · cases h

theorem Holds.of_takeExpired {now : Nat} (h : (r.takeExpired now).2.Holds wait) : r.Holds wait := by
  simp only [takeExpired] at h
  split at h
  · exact h
  · split at h
    · cases h.1
    · exact h

end Relay

/-! ## Section 2: What one step does to it

The worker opens a wait for a prompt and takes it off when it has expired; a supply settles it.  A
wait that is not held any more in the loop has therefore got its answer, as one that expires ends
the loop. -/

namespace Deed

/-- The wait that the worker opens. -/
def opened? : Deed σ → Option PromptWait
  | .worked s w seen =>
    match w.agenda with
    | .openWait text :: _ =>
      match s.relay.openWait? text seen.now w.command.promptTimeout with
      | some (true, relay) => relay.wait
      | _ => none
    | _ => none
  | .answered .. => none

omit [Sink σ] in
/-- A wait is opened for a prompt while no other waits, and expires when the time of the command for
prompts has passed. -/
theorem opened?_eq_some {e : Deed σ} {wait : PromptWait} (h : e.opened? = some wait) :
    ∃ s w seen, e = .worked s w seen ∧ s.relay.outstanding = false ∧
      ∃ text, wait = ⟨text, seen.now, seen.now + w.command.promptTimeout, none⟩ := by
  cases e with
  | answered relay answer replies => exact absurd h nofun
  -- only the task that opens waits opens one, and only if it can
  | worked s w seen =>
    simp only [opened?] at h
    split at h
    · next text rest hagenda =>
      split at h
      · next relay hopen =>
        -- the wait has the text of the prompt and the time of the command
        obtain ⟨hidle, hwait⟩ := Relay.openWait?_opened hopen
        rw [hwait] at h
        cases h
        exact ⟨s, w, seen, rfl, hidle, text, rfl⟩
      · exact absurd h nofun
    · exact absurd h nofun

end Deed

namespace Worker

variable {s : Supervisor} {w : Worker σ} {seen : Observation} {wait : PromptWait}

/-- A wait that the relay holds after a step is opened in the step, or it was held before and gets
no answer. -/
theorem waits_step (h : (step s w seen).shared.relay.Holds wait) :
    (Deed.worked s w seen).opened? = some wait ∨
      s.relay.Holds wait ∧ (Deed.worked s w seen).supply? = none := by
  cases hagenda : w.agenda with
  | nil =>
    rw [step_over s seen hagenda] at h
    exact .inr ⟨h, by simp only [Deed.supply?, supply?, hagenda]⟩
  | cons task rest =>
    rw [relay_step seen hagenda] at h
    cases task with
    | openWait text =>
      have hnone : (Deed.worked s w seen).supply? = none := by
        simp only [Deed.supply?, supply?, hagenda]
      simp only [relayAfter] at h
      -- a wait in the way is left as it is; without one the new wait is opened
      cases hidle : s.relay.outstanding with
      | true =>
        rw [Relay.openWait?_outstanding hidle] at h
        exact .inr ⟨h, hnone⟩
      | false =>
        split at h
        · next opened relay hopen =>
          cases opened with
          | true =>
            left
            simp only [Deed.opened?, hagenda, hopen]
            exact h.1
          | false =>
            simp only [Relay.openWait?, hidle, Bool.false_eq_true, if_false] at hopen
            split at hopen <;> cases hopen
        · exact .inr ⟨h, hnone⟩
    -- an answer given beforehand leaves no wait behind, and none given changes nothing
    | autoAnswer =>
      simp only [relayAfter] at h
      cases hauto : w.command.autoAnswer with
      | none =>
        rw [hauto] at h
        exact .inr ⟨h, by simp only [Deed.supply?, supply?, hagenda, hauto, Option.map_none]⟩
      | some a =>
        rw [hauto] at h
        exact absurd h (Relay.not_holds Relay.supply_settles)
    | checkPrompt =>
      exact .inr ⟨h.of_takeExpired, by simp only [Deed.supply?, supply?, hagenda]⟩
    | detach => exact absurd h (Relay.not_holds Relay.outstanding_detach)
    | _ => exact .inr ⟨h, by simp only [Deed.supply?, supply?, hagenda]⟩

/-- A wait that is opened in a step is held after it. -/
theorem holds_of_opened (h : (Deed.worked s w seen).opened? = some wait) :
    (step s w seen).shared.relay.Holds wait := by
  simp only [Deed.opened?] at h
  split at h
  · next text rest hagenda =>
    -- the wait that is opened is the one that the relay holds now
    rw [relay_step seen hagenda]
    simp only [relayAfter]
    split at h
    · next relay hopen =>
      have hwait := (Relay.openWait?_opened hopen).2
      rw [hopen]
      refine ⟨h, ?_⟩
      cases hwait.symm.trans h
      rfl
    · cases h
  · cases h

omit [Sink σ] in
theorem not_undecided_detach {rest : List Task} : ¬Undecided (.detach :: rest) := by
  intro h
  generalize hagenda : Task.detach :: rest = agenda at h
  cases h with
  | telling lines => cases lines <;> cases hagenda
  | _ => cases hagenda

/-- A wait that the relay holds before a step of a run that goes on round its loop gets its answer
in the step, or it is held after it. -/
theorem waits_kept (hphase : Phase w.agenda) (h : s.relay.Holds wait)
    (hafter : Undecided (step s w seen).worker.agenda) :
    (Deed.worked s w seen).supply?.isSome = true ∨ (step s w seen).shared.relay.Holds wait := by
  have hbefore := undecided_of_step hphase hafter
  obtain ⟨task, rest, hagenda⟩ := List.exists_cons_of_ne_nil hbefore.ne_nil
  rw [relay_step seen hagenda]
  cases task with
  | openWait text =>
    simp only [relayAfter, Relay.openWait?_outstanding h.outstanding]
    exact .inr h
  | autoAnswer =>
    simp only [relayAfter, Deed.supply?, supply?, hagenda]
    cases w.command.autoAnswer with
    | none => exact .inr h
    | some a => exact .inl rfl
  | checkPrompt =>
    cases hexpired : (s.relay.takeExpired seen.now).1 with
    | none =>
      simp only [relayAfter, Relay.takeExpired_of_none hexpired]
      exact .inr h
    | some other =>
      -- a wait that expires ends the loop
      have hstop : (step s w seen).worker.agenda = [.terminate (.timedOut .prompt)] := by
        rw [step_cons hagenda]
        simp only [perform]
        split
        · next hnone =>
          rw [hnone] at hexpired
          cases hexpired
        · rfl
      rw [hstop] at hafter
      cases hafter.outcome?_eq
  | detach =>
    rw [hagenda] at hbefore
    exact absurd hbefore not_undecided_detach
  | _ => exact .inr h

end Worker

/-! ## Section 3: Waits and answers

The waits of a run are read off its log, and so are the answers to them.  Only the last wait may be
without one. -/

/-- Which waits of a run have their answer. -/
structure Waiting (s : Supervisor) (w : Worker σ) (log : List (Deed σ)) : Prop where
  /-- The wait that the relay holds was opened by the run and has no answer. -/
  held : w.isSettled = false → ∀ wait, s.relay.Holds wait →
    ∃ before e after, log = before ++ e :: after ∧ e.opened? = some wait ∧
      ∀ later ∈ after, later.supply? = none
  /-- Any other has one, as long as the run goes round its loop. -/
  answered : Undecided w.agenda → ∀ before e after, log = before ++ e :: after →
    ∀ wait, e.opened? = some wait →
      (∃ later ∈ after, later.supply?.isSome = true) ∨ s.relay.Holds wait

/-- A step of a worker keeps the account of waits: the relay holds the last one that was opened, if
it has no answer yet. -/
theorem Waiting.step {s : Supervisor} {w : Worker σ} {log : List (Deed σ)} (h : Waiting s w log)
    (seen : Observation) (hphase : Phase w.agenda) :
    Waiting (w.step s seen).shared (w.step s seen).worker (log ++ [.worked s w seen]) := by
  constructor
  · intro hlive wait hholds
    have hbefore := Worker.live_of_step hphase hlive
    -- opened in this step, or held before and not answered in it
    rcases Worker.waits_step hholds with hopened | ⟨hheld, hnone⟩
    · exact ⟨log, _, [], rfl, hopened, fun later hlater => absurd hlater List.not_mem_nil⟩
    · obtain ⟨before, e, after, hlog, hopened, hunanswered⟩ := h.held hbefore wait hheld
      refine ⟨before, e, after ++ [.worked s w seen], ?_, hopened,
        Chronicle.forall_mem_concat.mpr ⟨hunanswered, hnone⟩⟩
      rw [hlog, List.append_assoc, List.cons_append]
  · intro hafter
    have hbefore := Worker.undecided_of_step hphase hafter
    refine Chronicle.forall_cut_concat.mpr ⟨fun before e after hlog wait hopened => ?_,
      fun wait hopened => ?_⟩
    · rcases h.answered hbefore before e after hlog wait hopened with ⟨later, hlater, hsupply⟩ | hheld
      · exact .inl ⟨later, List.mem_append_left _ hlater, hsupply⟩
      · -- held before: the step answers it, or the relay holds it still
        rcases Worker.waits_kept hphase hheld hafter with hsupply | hkept
        · exact .inl ⟨_, List.mem_append_right _ (List.mem_singleton.mpr rfl), hsupply⟩
        · exact .inr hkept
    · exact .inr (Worker.holds_of_opened hopened)

/-- **Which waits have their answer**: all but the one that the relay holds.  A wait whose time has
run out ends the loop, and nothing is said of it any more. -/
theorem lasting_waiting (tuning : Tuning) : Lasting (σ := σ) tuning Waiting where
  -- at the beginning the relay holds nothing and the log is empty
  begins s w _ hfresh :=
    { held := fun _ wait hholds => by cases hholds.1
      answered := fun _ before e after hlog => absurd hlog (by simp) }
  works s w log seen ha h := h.step seen ha.phase
  arrives s w log arrival h := ⟨h.held, h.answered⟩
  answers s w log answer replies hlive h := by
    have hsettled : (s.answer answer replies).2.2.relay.outstanding = false := Relay.supply_settles
    constructor
    · -- the answer settles the wait that was open
      exact fun _ wait hholds => absurd hholds (Relay.not_holds hsettled)
    · intro hundecided
      refine Chronicle.forall_cut_concat.mpr ⟨fun before e after hlog wait hopened => ?_,
        fun wait hopened => by cases hopened⟩
      -- so every wait that was opened has its answer now
      exact .inl ⟨_, List.mem_append_right _ (List.mem_singleton.mpr rfl), rfl⟩
  asks s w log ticket h := ⟨h.held, h.answered⟩
  -- a settled run is out of its loop, and holds nothing
  leaves s s' w log hsettled h :=
    { held := fun hlive => by cases hsettled.symm.trans hlive
      answered := fun hundecided => by
        rw [Worker.isSettled, hundecided.not_all_isLast] at hsettled
        cases hsettled }

end Overseer
