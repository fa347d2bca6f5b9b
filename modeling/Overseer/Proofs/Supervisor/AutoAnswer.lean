import Mathlib.Data.List.Chain
import Overseer.Proofs.Supervisor.Story
import Overseer.Proofs.Supervisor.Verdict

/-!
# Runs That Answer Themselves

A command may bring the answer to its prompts with it.  The worker then gives that answer right
behind the prompt and tells at once what became of it, or what became of the answer of a caller who
was faster.  So no prompt waits when the worker comes to its checks, and the time for prompts never
runs out, however short it is.

- `Ready.step`, `lasting_ready`: what the relay gives rise to is what the agenda has to tell
- `Worker.told_of_ready`, `lasting_pairs`: each prompt is told together with its answer
- `Worker.outstanding_of_expiry`: the time for prompts runs out on a prompt that waits
- `Chronicle.selfAnswered_after`: every run with an answer of its own
-/

namespace Overseer

open Agenda

variable {σ : Type} [Sink σ] {tuning : Tuning}

/-! ## Section 1: Prompts on the agenda

A prompt is told, then answered, and then what became of the answer is told.  These tasks stand side
by side on the agenda, so a prompt on it always has its answer behind it. -/

/-- The task tells a prompt, or answers it. -/
def Task.asks : Task → Bool
  | .showPrompt _ | .autoAnswer => true
  | _ => false

namespace Agenda

/-- A prompt was told, and what became of its answer is still to be told. -/
def awaits : List Task → Bool
  | .autoAnswer :: _ => true
  | .flush :: .narrate _ :: _ => true
  | .flush :: .flush :: _ => true
  | _ => false

@[simp] theorem awaits_telling (lines : List String) : awaits (telling lines) = false := by
  cases lines <;> rfl

@[simp] theorem awaits_tellingLate (lines : List String) (deadline : Nat) (outcome : Outcome) :
    awaits (tellingLate lines deadline outcome) = false := by
  cases lines <;> rfl

@[simp] theorem awaits_noting (lines : List String) : awaits (.flush :: telling lines) = true := by
  cases lines <;> rfl

@[simp] theorem owed_telling (lines : List String) : owed (telling lines) = 0 := by
  cases lines <;> rfl

@[simp] theorem owed_tellingLate (lines : List String) (deadline : Nat) (outcome : Outcome) :
    owed (tellingLate lines deadline outcome) = 0 := by
  cases lines <;> rfl

omit [Sink σ] in
/-- With an answer at hand, something is awaited behind the tasks that tell a prompt and answer
it. -/
theorem Next.awaits_eq {s : Supervisor} {w : Worker σ} {seen : Observation}
    {before after : List Task} (h : Next s w seen before after)
    (hauto : w.command.autoAnswer.isSome = true) :
    awaits after = before.head?.any Task.asks := by
  cases h with
  | leaveOpen lines hnone =>
    rw [hnone] at hauto
    exact absurd hauto nofun
  | answer lines a ha => exact awaits_noting lines
  | take | narrate | repeated | tellAnswer => exact awaits_telling _
  | drain | takeLate | takeLater | narrateLate => exact awaits_tellingLate _ _ _
  | _ => rfl

omit [Sink σ] in
/-- A prompt is to be told behind the opening of its wait, and nowhere else. -/
theorem Next.owed_eq {s : Supervisor} {w : Worker σ} {seen : Observation}
    {before after : List Task} (h : Next s w seen before after) :
    owed after = 0 ∨ owed after = 1 ∧ ∃ text lines relay, before = .openWait text :: telling lines ∧
      s.relay.openWait? text seen.now w.command.promptTimeout = some (true, relay) := by
  cases h with
  | opened text lines relay hopen => exact .inr ⟨rfl, text, lines, relay, rfl, hopen⟩
  | take | narrate | repeated | leaveOpen | tellAnswer => exact .inl (owed_telling _)
  | drain | takeLate | takeLater | narrateLate => exact .inl (owed_tellingLate _ _ _)
  | _ => exact .inl rfl

omit [Sink σ] in
/-- A flush that tells what became of an answer stands behind that answer. -/
theorem Next.of_noting {s : Supervisor} {w : Worker σ} {seen : Observation}
    {before after : List Task} (h : Next s w seen before after)
    (hauto : w.command.autoAnswer.isSome = true) (hawaits : awaits after = true)
    (hflush : after.head? = some .flush) : before.head? = some .autoAnswer := by
  have hasks := (h.awaits_eq hauto).symm.trans hawaits
  cases h with
  | answer | leaveOpen => rfl
  | showPrompt => exact absurd hflush nofun
  | _ => exact absurd hasks nofun

end Agenda

/-! ## Section 2: What the relay gives rise to

The relay may owe a notice, and the agenda may have a flush that will tell it.  The invariant says
that the two agree, and it is kept by callers too: one who is faster leaves the notice that the
worker would have left. -/

/-- What the relay gives rise to is what the agenda has to tell, and an answer that is about to be
told leaves no prompt that waits. -/
structure Ready (s : Supervisor) (w : Worker σ) : Prop where
  due : w.isSettled = false → s.relay.due = owed w.agenda + (awaits w.agenda).toNat
  noting : awaits w.agenda = true → w.agenda.head? = some .flush → s.relay.outstanding = false

namespace Ready

variable {s : Supervisor} {w : Worker σ}

omit [Sink σ] in
/-- No prompt waits when nothing is to be told of one. -/
theorem idle (h : Ready s w) (hlive : w.isSettled = false) (howed : owed w.agenda = 0)
    (hawaits : awaits w.agenda = false) :
    s.relay.notices = [] ∧ s.relay.outstanding = false := by
  have hdue := h.due hlive
  rw [howed, hawaits, Relay.due] at hdue
  -- with nothing owed and nothing awaited, the notices and the open wait count to nothing
  cases hidle : s.relay.outstanding with
  | false =>
    refine ⟨List.eq_nil_of_length_eq_zero ?_, rfl⟩
    rw [hidle] at hdue
    exact hdue
  | true =>
    rw [hidle] at hdue
    exact absurd hdue (Nat.succ_ne_zero _)

omit [Sink σ] in
/-- A flush finds one notice if something is awaited and none otherwise, and no prompt waits. -/
theorem flush {rest : List Task} (h : Ready s w) (hagenda : w.agenda = .flush :: rest) :
    s.relay.notices.length = (awaits w.agenda).toNat ∧ s.relay.outstanding = false := by
  have hlive : w.isSettled = false := by rw [Worker.isSettled, hagenda]; rfl
  have howed : owed w.agenda = 0 := by rw [hagenda]; rfl
  -- what is awaited has become of the answer by the time of the flush
  cases hawaits : awaits w.agenda with
  | false =>
    obtain ⟨hnone, hidle⟩ := h.idle hlive howed hawaits
    rw [hnone]
    exact ⟨rfl, hidle⟩
  | true =>
    have hidle := h.noting hawaits (by rw [hagenda]; rfl)
    have hdue := h.due hlive
    rw [howed, hawaits, Relay.due, hidle] at hdue
    exact ⟨by simpa using hdue, hidle⟩

/-- What the relay gives rise to after a step is what the agenda has to tell then. -/
theorem due_step (h : Ready s w) (seen : Observation) (hphase : Phase w.agenda)
    (hauto : w.command.autoAnswer.isSome = true)
    (hlive : (w.step s seen).worker.isSettled = false) :
    (w.step s seen).shared.relay.due =
      owed (w.step s seen).worker.agenda + (awaits (w.step s seen).worker.agenda).toNat := by
  have hbefore := Worker.live_of_step hphase hlive
  have hdue := h.due hbefore
  have hstep := Worker.due_step s seen hphase
  cases hagenda : w.agenda with
  | nil =>
    rw [Worker.isSettled, hagenda] at hbefore
    cases hbefore
  | cons task rest =>
    have hnext := Worker.next_step s seen hphase (by rw [hagenda]; exact List.cons_ne_nil _ _)
    rw [hagenda] at hnext hdue
    rw [hnext.awaits_eq hauto]
    rcases hnext.owed_eq with hnone | ⟨hone, text, lines, relay, hopens, hopen⟩
    · rw [hnone] at hstep ⊢
      -- what is due stays due from the prompt to its answer, and the flush takes it
      cases task with
      | showPrompt text =>
        rw [Worker.relay_step seen hagenda]
        exact hdue
      | autoAnswer =>
        obtain ⟨a, ha⟩ := Option.isSome_iff_exists.mp hauto
        rw [Worker.relay_step seen hagenda]
        simp only [Worker.relayAfter, ha]
        exact (Relay.due_supply a seen.replies).trans hdue
      | flush =>
        rw [Worker.relay_step seen hagenda, Worker.relayAfter, Relay.due]
        show 0 + (if s.relay.outstanding then 1 else 0) = 0
        rw [(h.flush hagenda).2]
        rfl
      | _ =>
        -- nothing was to come, and nothing more comes
        rw [show s.relay.due = 0 from hdue] at hstep
        exact Nat.le_zero.mp (Nat.le_trans (Nat.le_add_left _ _) hstep)
    · -- the wait that is opened is what is due from now on
      injection hopens with htask hrest
      subst htask
      rw [hone, Worker.relay_step seen hagenda]
      simp only [Worker.relayAfter, hopen]
      rw [Relay.due_opened hopen, show s.relay.due = 0 from hdue]
      rfl

/-- **One step** keeps the relay and the agenda together. -/
theorem step (h : Ready s w) (seen : Observation) (hphase : Phase w.agenda)
    (hauto : w.command.autoAnswer.isSome = true) :
    Ready (w.step s seen).shared (w.step s seen).worker := by
  refine ⟨h.due_step seen hphase hauto, fun hawaits hflush => ?_⟩
  -- a run that is over does not wait for anything
  have hne : w.agenda ≠ [] := fun hover => by
    rw [Worker.step_over s seen hover, hover] at hflush
    exact absurd hflush nofun
  -- the step before was the answer itself, and an answer leaves no wait open
  have hanswer := (Worker.next_step s seen hphase hne).of_noting hauto hawaits hflush
  obtain ⟨rest, hagenda⟩ := List.head?_eq_some_iff.mp hanswer
  obtain ⟨a, ha⟩ := Option.isSome_iff_exists.mp hauto
  rw [Worker.relay_step seen hagenda]
  simp only [Worker.relayAfter, ha]
  exact Relay.supply_settles

end Ready

/-- **What the relay gives rise to is what the agenda has to tell**, whoever answers in between.  A
caller that answers first leaves a notice, and the flush that is on the agenda tells it. -/
theorem lasting_ready (tuning : Tuning) :
    Lasting (σ := σ) tuning fun s w _ => w.command.autoAnswer.isSome = true → Ready s w where
  begins s w _ hfresh _ := by
    constructor
    · intro _
      rw [hfresh.agenda]
      rfl
    · intro _ hflush
      rw [hfresh.agenda] at hflush
      cases hflush
  works s w log seen ha h hauto := by
    rw [(Worker.identity_step s w seen).1] at hauto
    exact (h hauto).step seen ha.phase hauto
  arrives s w log arrival h hauto := ⟨(h hauto).due, (h hauto).noting⟩
  answers s w log answer replies _ h hauto := by
    constructor
    · intro hlive
      have hsupply : (s.answer answer replies).2.2.relay.due = s.relay.due :=
        Relay.due_supply answer replies
      rw [hsupply]
      exact (h hauto).due hlive
    · exact fun _ _ => Relay.supply_settles
  asks s w log ticket h hauto := ⟨(h hauto).due, (h hauto).noting⟩
  leaves s s' w log hsettled h hauto := by
    refine ⟨fun hlive => ?_, fun _ hflush => ?_⟩
    · cases hsettled.symm.trans hlive
    -- a run that has freed the supervisor flushes no more
    obtain ⟨rest, hagenda⟩ := List.head?_eq_some_iff.mp hflush
    rw [Worker.isSettled, hagenda] at hsettled
    cases hsettled

/-! ## Section 3: Prompts and answers in pairs

The invariant says how many notices a flush finds: one behind an answer, and none at the check of
the round.  So what became of an answer follows its prompt at once. -/

namespace Worker

variable {s : Supervisor} {w : Worker σ} {seen : Observation}

omit [Sink σ] in
/-- Only a flush may tell more than one event. -/
theorem length_narration_le (s : Supervisor) (w : Worker σ) (seen : Observation) {task : Task}
    (htask : task ≠ .flush) : (narration s w seen task).length ≤ 1 := by
  cases task with
  | flush => exact absurd rfl htask
  | start | narrate _ | narrateLate _ | showPrompt _ | conclude _ => exact Nat.le_refl 1
  | checkPrompt | checkTime | checkChild | checkEnd =>
    simp only [narration]
    repeat' split
    all_goals simp
  | _ => exact Nat.zero_le 1

/-- **What a step tells of answers**: one event at most, which tells of an answer exactly if one is
awaited, and of a prompt exactly if its answer is awaited then. -/
theorem told_of_ready (h : Ready s w) (seen : Observation) (hphase : Phase w.agenda)
    (hauto : w.command.autoAnswer.isSome = true) :
    (published s w seen = [] ∧ awaits (step s w seen).worker.agenda = awaits w.agenda) ∨
      ∃ e, published s w seen = [e] ∧ e.isNotice = awaits w.agenda ∧
        e.isPrompt = awaits (step s w seen).worker.agenda := by
  cases hagenda : w.agenda with
  | nil =>
    refine .inl ⟨by rw [published, hagenda], ?_⟩
    rw [step_over s seen hagenda, hagenda]
  | cons task rest =>
    have hnext := next_step s seen hphase (by rw [hagenda]; exact List.cons_ne_nil _ _)
    rw [hagenda] at hnext
    rw [published_cons hagenda, hnext.awaits_eq hauto]
    by_cases htask : task = .flush
    · subst htask
      -- a flush tells the notice that is awaited, if there is one
      have hlength := (h.flush hagenda).1
      rw [hagenda] at hlength
      rw [narration]
      cases hawaits : awaits (.flush :: rest) with
      | false =>
        rw [hawaits] at hlength
        rw [List.eq_nil_of_length_eq_zero hlength]
        exact .inl ⟨rfl, rfl⟩
      | true =>
        rw [hawaits] at hlength
        obtain ⟨notice, hnotice⟩ := List.length_eq_one_iff.mp hlength
        rw [hnotice]
        refine .inr ⟨notice.event, rfl, notice.isNotice_event, ?_⟩
        cases notice <;> rfl
    · cases hevents : narration s { w with agenda := rest } seen task with
      | nil =>
        refine .inl ⟨rfl, ?_⟩
        cases task with
        | showPrompt text => cases hevents
        | flush => exact absurd rfl htask
        | _ => rfl
      | cons e events =>
        have hlength := length_narration_le s { w with agenda := rest } seen htask
        rw [hevents] at hlength
        have hone : events = [] :=
          List.eq_nil_of_length_eq_zero (Nat.le_zero.mp (Nat.le_of_succ_le_succ hlength))
        have htells := tells_of_mem (by rw [hevents]; exact List.mem_cons_self)
        refine .inr ⟨e, by rw [hone], ?_, ?_⟩
        · -- the task that gives an answer tells nothing itself
          rw [Bool.eq_iff_iff, htells.isNotice_iff]
          refine ⟨fun hflush => absurd hflush htask, fun hawaits => ?_⟩
          cases task with
          | flush => rfl
          | autoAnswer => cases hevents
          | _ => cases hawaits
        · rw [Bool.eq_iff_iff, htells.isPrompt_iff]
          constructor
          · rintro ⟨text, rfl⟩
            rfl
          · intro hasks
            cases task with
            | showPrompt text => exact ⟨text, rfl⟩
            | autoAnswer => cases hevents
            | _ => cases hasks

end Worker

/-- Each event but the first tells of an answer exactly if the one before tells a prompt. -/
def Paired (events : List Event) : Prop :=
  events.IsChain fun e next => next.isNotice = e.isPrompt

/-- Prompts and what became of their answers are told in pairs, up to the one that is awaited. -/
structure Pairs (w : Worker σ) (log : List (Deed σ)) : Prop where
  paired : Paired (Chronicle.told log)
  awaited : (Chronicle.told log).getLast?.any Event.isPrompt = awaits w.agenda

theorem Pairs.step {s : Supervisor} {w : Worker σ} {log : List (Deed σ)} (h : Pairs w log)
    (seen : Observation) (hready : Ready s w) (hphase : Phase w.agenda)
    (hauto : w.command.autoAnswer.isSome = true) :
    Pairs (w.step s seen).worker (log ++ [.worked s w seen]) := by
  -- a step tells nothing about prompts, or one event that follows what was told
  rcases Worker.told_of_ready hready seen hphase hauto with
    ⟨hnone, hawaits⟩ | ⟨e, hone, hnotice, hprompt⟩
  · have htold : Chronicle.told (log ++ [.worked s w seen]) = Chronicle.told log := by
      rw [Chronicle.told_concat, Deed.told, hnone, List.append_nil]
    exact ⟨htold ▸ h.paired, (htold ▸ h.awaited).trans hawaits.symm⟩
  · have htold : Chronicle.told (log ++ [.worked s w seen]) = Chronicle.told log ++ [e] := by
      rw [Chronicle.told_concat, Deed.told, hone]
    constructor
    · rw [htold, Paired, List.isChain_append]
      refine ⟨h.paired, List.isChain_singleton e, fun last hlast next hnext => ?_⟩
      -- only the last event and the new one are new neighbours
      cases hnext
      rw [hnotice, ← h.awaited, hlast]
      rfl
    · rw [htold, List.getLast?_concat]
      exact hprompt

/-- **Prompts and what became of their answers are told in pairs.** The pair that is still open is
the one that the agenda is about to complete. -/
theorem lasting_pairs (tuning : Tuning) :
    Lasting (σ := σ) tuning fun s w log =>
      (w.command.autoAnswer.isSome = true → Ready s w) ∧
        (w.command.autoAnswer.isSome = true → Pairs w log) := by
  refine (lasting_ready tuning).beside ?begins ?works ?arrives ?answers
  case begins =>
    intro w hfresh _
    -- a run that begins has told nothing and awaits nothing
    refine ⟨List.isChain_nil, ?_⟩
    rw [hfresh.agenda]
    rfl
  case works =>
    intro s w log seen ha hready hpairs hauto
    rw [(Worker.identity_step s w seen).1] at hauto
    exact (hpairs hauto).step seen (hready hauto) ha.phase hauto
  case arrives => exact fun w log arrival h hauto => ⟨(h hauto).paired, (h hauto).awaited⟩
  case answers =>
    intro relay w log answer replies h hauto
    -- an answer tells nothing, so the pairs stay as they are
    constructor
    · rw [Chronicle.told_answered]
      exact (h hauto).paired
    · rw [Chronicle.told_answered]
      exact (h hauto).awaited

/-! ## Section 4: What stands between two lines

From pairs to the whole narration: between two lines there is a prompt and its answer, or neither.
-/

/-- The events before the next line of output. -/
def Event.untilLine (events : List Event) : List Event := events.takeWhile fun e => e.line?.isNone

theorem Event.untilLine_cons (e : Event) (events : List Event) :
    untilLine (e :: events) = if e.line?.isNone then e :: untilLine events else [] := by
  rw [untilLine, List.takeWhile_cons, untilLine]

/-- What became of an answer is no prompt and no line. -/
theorem Event.of_isNotice {e : Event} (h : e.isNotice = true) :
    e.isPrompt = false ∧ e.line? = none := by
  cases e with
  | answerSent | error => exact ⟨rfl, rfl⟩
  | _ => exact absurd h nofun

/-- Behind an event that is neither a prompt nor a line, no answer is told before the next line. -/
theorem Paired.notices_untilLine {first : Event} {events : List Event}
    (h : Paired (first :: events))
    (hlines : (first :: events).IsChain fun e next => next.isPrompt = true → e.line?.isSome = true)
    (hprompt : first.isPrompt = false) (hline : first.line? = none) :
    (Event.untilLine events).countP Event.isNotice = 0 := by
  induction events generalizing first with
  | nil => rfl
  | cons e events ih =>
    obtain ⟨hnotice, hrest⟩ := List.isChain_cons_cons.mp h
    obtain ⟨hshown, hlinesrest⟩ := List.isChain_cons_cons.mp hlines
    rw [Event.untilLine_cons]
    split
    · next hnone =>
      -- a prompt stands behind a line, and there is none
      have hplain : e.isPrompt = false := by
        cases hasks : e.isPrompt with
        | false => rfl
        | true =>
          have hsome := hshown hasks
          rw [hline] at hsome
          exact absurd hsome nofun
      rw [List.countP_cons_of_neg (by rw [hnotice, hprompt]; nofun)]
      exact ih hrest hlinesrest hplain (Option.isNone_iff_eq_none.mp hnone)
    · rfl

/-- Behind a prompt, what became of its answer is told at once, and nothing more of answers before
the next line. -/
theorem Paired.notices_prompt {earlier later : List Event} {text : String}
    (h : Paired (earlier ++ .promptDetected text :: later))
    (hlines : (earlier ++ .promptDetected text :: later).IsChain
      fun e next => next.isPrompt = true → e.line?.isSome = true) :
    later = [] ∨ later.head?.any Event.isNotice = true ∧
      (Event.untilLine later).countP Event.isNotice = 1 := by
  have hpaired := (List.isChain_append.mp h).2.1
  have hshown := (List.isChain_append.mp hlines).2.1
  cases later with
  | nil => exact .inl rfl
  | cons e rest =>
    -- what follows the prompt is told of its answer, by the pairing
    obtain ⟨hnotice, hrest⟩ := List.isChain_cons_cons.mp hpaired
    have hanswer : e.isNotice = true := hnotice
    -- and up to the next line no prompt and no second notice follows
    obtain ⟨hprompt, hline⟩ := Event.of_isNotice hanswer
    have hnone := Paired.notices_untilLine hrest (List.isChain_cons_cons.mp hshown).2 hprompt hline
    refine .inr ⟨hanswer, ?_⟩
    rw [Event.untilLine_cons, hline, Option.isNone_none, if_pos rfl,
      List.countP_cons_of_pos hanswer, hnone]

omit [Sink σ] in
/-- Prompts come right behind their lines. -/
theorem Placed.isChain {w : Worker σ} {log : List (Deed σ)} (h : Placed tuning w log) :
    (Chronicle.told log).IsChain fun e next => next.isPrompt = true → e.line?.isSome = true := by
  rw [List.isChain_iff_forall_rel_of_append_cons_cons]
  intro e next earlier later htold hprompt
  cases next with
  | promptDetected text =>
    rw [List.append_cons] at htold
    obtain ⟨before, line, prompt, hline, -⟩ := h.told _ text later htold
    cases (List.append_inj' hline rfl).2
    rfl
  | _ => exact absurd hprompt nofun

/-! ## Section 5: The time for prompts

The time for prompts runs out on a prompt that waits, and none does when the check is made.  This
needs no assumption about the clock, and holds where the time is zero. -/

/-- A run whose time for prompts runs out holds a prompt that waits. -/
theorem Worker.outstanding_of_expiry {s : Supervisor} {w : Worker σ} {seen : Observation}
    (hphase : Phase w.agenda)
    (h : (Deed.worked s w seen).decision? = some (.timedOut .prompt)) :
    w.agenda.head? = some .checkPrompt ∧ s.relay.outstanding = true := by
  have hdecides := decides_of_decision hphase h
  generalize w.agenda = before at hdecides ⊢
  generalize (step s w seen).worker.agenda = after at hdecides
  cases hdecides with
  | expired wait hexpired => exact ⟨rfl, (Relay.takeExpired_some hexpired).1.outstanding⟩

-- the other tasks are no checks
/-- **A check finds no prompt that waits**, so the time for prompts does not run out.  The checks
come behind the lines, and each prompt has its answer before the next line. -/
theorem Ready.check {s : Supervisor} {w : Worker σ} (h : Ready s w) (seen : Observation)
    (hphase : Phase w.agenda) :
    (∀ task ∈ Worker.checks, w.agenda.head? = some task → s.relay.outstanding = false) ∧
      (Deed.worked s w seen).decision? ≠ some (.timedOut .prompt) := by
  have hidle : ∀ task ∈ Worker.checks, w.agenda.head? = some task →
      s.relay.outstanding = false := by
    intro task htask hhead
    obtain ⟨rest, hagenda⟩ := List.head?_eq_some_iff.mp hhead
    cases task with
    | flush => exact (h.flush hagenda).2
    | checkStop | checkPrompt | checkTime | checkChild | checkEnd =>
      have hlive : w.isSettled = false := by rw [Worker.isSettled, hagenda]; rfl
      exact (h.idle hlive (by rw [hagenda]; rfl) (by rw [hagenda]; rfl)).2
    | _ => simp [Worker.checks] at htask
  -- the check for expired prompts finds none, so it decides on nothing
  refine ⟨hidle, fun hdecision => ?_⟩
  obtain ⟨hhead, hwaits⟩ := Worker.outstanding_of_expiry hphase hdecision
  have hnone := hidle .checkPrompt (by decide) hhead
  cases hwaits.symm.trans hnone

/-- The outcome that a run tells is one that it decided on. -/
theorem lasting_announced (tuning : Tuning) :
    Lasting (σ := σ) tuning fun _ w log => Decisions w log ∧
      ∀ outcome, .finished outcome ∈ Chronicle.told log → outcome ∈ Chronicle.decisions log := by
  refine (lasting_decisions tuning).beside ?begins ?works ?arrives ?answers
  case begins => exact fun w hfresh outcome h => absurd h List.not_mem_nil
  case works =>
    intro s w log seen ha hdecisions htold outcome h
    rw [Chronicle.told_concat] at h
    rw [Chronicle.decisions_concat]
    rcases List.mem_append.mp h with h | h
    · -- the outcome was told before, or this step is the one that tells it
      exact List.mem_append_left _ (htold outcome h)
    · cases hagenda : w.agenda with
      | nil =>
        rw [Deed.told, Worker.published, hagenda] at h
        exact absurd h List.not_mem_nil
      | cons task rest =>
        rw [Deed.told, Worker.published_cons hagenda] at h
        cases Worker.eq_conclude_of_finished h
        rw [hdecisions.decided outcome (by rw [Worker.verdict?, hagenda]; rfl)]
        exact List.mem_append_left _ (List.mem_singleton.mpr rfl)
  case arrives => exact fun w log arrival h => h
  -- an answer tells nothing and decides nothing
  case answers =>
    intro relay w log answer replies h outcome htold
    rw [Chronicle.told_answered] at htold
    rw [Chronicle.decisions_concat]
    exact List.mem_append_left _ (h outcome htold)

/-! ## Section 6: Every run with an answer of its own

Everything is put together, and the witness has a caller who is faster than the worker and a pipe
that breaks. -/

namespace Chronicle

/-- What a run with an answer of its own does about prompts. -/
structure SelfAnswered (w : Worker σ) (log : List (Deed σ)) : Prop where
  /-- No prompt waits at any check. -/
  idle : ∀ s w' seen, .worked s w' seen ∈ log → ∀ task ∈ Worker.checks,
    w'.agenda.head? = some task → s.relay.outstanding = false
  /-- Behind a prompt, what became of its answer is told at once, and nothing more of answers before
  the next line, unless the prompt was told last and the worker is about to go on. -/
  noticed : ∀ earlier text later, told log = earlier ++ .promptDetected text :: later →
    later = [] ∧ awaits w.agenda = true ∨
      later.head?.any Event.isNotice = true ∧ (Event.untilLine later).countP Event.isNotice = 1
  /-- The run does not end because a prompt got no answer in time. -/
  timely : .timedOut .prompt ∉ decisions log ∧ .timedOut .prompt ∉ stored log ∧
    .finished (.timedOut .prompt) ∉ told log

theorem lasting_checked (tuning : Tuning) :
    Lasting (σ := σ) tuning fun s w log =>
      ((w.command.autoAnswer.isSome = true → Ready s w) ∧ OneWorker w log) ∧
      ∀ before e after, log = before ++ e :: after → ∀ s w seen, e = .worked s w seen →
        w.command.autoAnswer.isSome = true →
          (∀ task ∈ Worker.checks, w.agenda.head? = some task → s.relay.outstanding = false) ∧
            (Deed.worked s w seen).decision? ≠ some (.timedOut .prompt) :=
  ((lasting_ready tuning).and (lasting_oneWorker tuning)).recorded
    fun _ _ _ seen ha h hauto => (h.1 hauto).check seen ha.phase

/-- **Runs that answer themselves**, whatever is asked and whoever answers in between.  A caller may
be faster than the run; then its answer stands, and the run goes on as if it had given it. -/
theorem selfAnswered_after (tuning : Tuning) (actions : List (Crew.Action σ)) :
    (after tuning actions).Every fun _ w log =>
      w.command.autoAnswer.isSome = true → SelfAnswered w log := by
  intro t w hstage hauto
  obtain ⟨⟨-, hsame⟩, hchecked⟩ := lasting_after (lasting_checked tuning) actions t w hstage
  have hpairs := (lasting_after (lasting_pairs tuning) actions t w hstage).2 hauto
  have hplaced := lasting_after (lasting_placed tuning) actions t w hstage
  obtain ⟨hdecisions, hannounced⟩ := lasting_after (lasting_announced tuning) actions t w hstage
  -- every deed of the run is one of a worker with the same command
  have hcheck : ∀ s w' seen, .worked s w' seen ∈ (after tuning actions).log t →
      (∀ task ∈ Worker.checks, w'.agenda.head? = some task → s.relay.outstanding = false) ∧
        (Deed.worked s w' seen).decision? ≠ some (.timedOut .prompt) := by
    intro s w' seen hmem
    obtain ⟨before, later, hlog⟩ := List.append_of_mem hmem
    exact hchecked before _ later hlog s w' seen rfl ((hsame s w' seen hmem).command ▸ hauto)
  have hundecided : .timedOut .prompt ∉ decisions ((after tuning actions).log t) := by
    intro hmem
    obtain ⟨e, he, hdecision⟩ := List.mem_filterMap.mp hmem
    cases e with
    | worked s w' seen => exact (hcheck s w' seen he).2 hdecision
    | answered => exact absurd hdecision nofun
  constructor
  case idle => exact fun s w' seen hmem => (hcheck s w' seen hmem).1
  case noticed =>
    intro earlier text later htold
    have hpaired := hpairs.paired
    have hlines := hplaced.isChain
    have hawaited := hpairs.awaited
    rw [htold] at hpaired hlines hawaited
    -- where nothing follows, the prompt was told last, and its answer is awaited
    refine (hpaired.notices_prompt hlines).imp_left fun hlast => ⟨hlast, ?_⟩
    rw [← hawaited, hlast, List.getLast?_concat]
    rfl
  case timely =>
    refine ⟨hundecided, fun hstored => ?_, fun htold => hundecided (hannounced _ htold)⟩
    cases hsettled : w.isSettled with
    | false =>
      rw [hdecisions.unsettled hsettled] at hstored
      exact absurd hstored List.not_mem_nil
    | true =>
      obtain ⟨outcome, hdecided, honly⟩ := hdecisions.settled hsettled
      rw [honly, ← hdecided] at hstored
      exact hundecided hstored

/-- A command that gives its prompts no time and answers them itself. -/
def hastyCommand : Command :=
  { Command.new "sh" ["ask.sh"] with promptTimeout := 0, autoAnswer := some .yes }

/-- The process of a hasty command asks twice and ends.  A caller is faster with the first answer
than its worker, and the pipe is broken just then. -/
def hastyRun : List (Crew.Action Observer) :=
  [.reserve hastyCommand (.ofSinks []), .announce 0 7 0, .attach 0,
      .arrive 0 (.bytes "Backup? [y/n]\nNew backup? [y/n]\n".toUTF8.toList), .arrive 0 .ended] ++
    List.replicate 6 (.work 0 ⟨0, .exited 0, ⟨[], none⟩⟩) ++
    [.answer .no ⟨[.fails "broken pipe"], none⟩] ++
    List.replicate 17 (.work 0 ⟨0, .exited 0, ⟨[], none⟩⟩)

/-- Whether the run is over and had an answer of its own. -/
def hasAnsweredItself (h : Chronicle σ) (t : Nat) : Bool :=
  match h.crew.stages t with
  | some (.working w true) => w.command.autoAnswer.isSome && w.isDone
  | _ => false

theorem exists_selfAnswered_hastyRun : ∃ w,
    (after .standard hastyRun).crew.stages 0 = some (.working w true) ∧
      w.command.autoAnswer.isSome = true ∧ w.isDone = true ∧
      told ((after .standard hastyRun).log 0) =
        [.started 7 "sh ask.sh",
          .output "Backup? [y/n]", .promptDetected "Backup? [y/n]",
          .error (Notice.failureText .no "broken pipe"),
          .output "New backup? [y/n]", .promptDetected "New backup? [y/n]", .answerSent .yes,
          .finished (.completed 0)] ∧
      SelfAnswered w ((after .standard hastyRun).log 0) := by
  -- the run is short enough to be computed, and what it is about follows from the general theorem
  have hrun : (after .standard hastyRun).hasAnsweredItself 0 = true := by decide +kernel
  simp only [hasAnsweredItself] at hrun
  split at hrun
  · next w hstage =>
    obtain ⟨hauto, hdone⟩ := Bool.and_eq_true_iff.mp hrun
    exact ⟨w, hstage, hauto, hdone, by decide +kernel,
      selfAnswered_after .standard hastyRun 0 w hstage hauto⟩
  · exact absurd hrun nofun

end Chronicle

end Overseer
