import Overseer.Proofs.Supervisor.Account

/-!
# What a Run Tells

A run tells the lines that its reader hands out, and it tells what became of answers when the relay
has noted it.  Each step accounts for what it tells: a line comes off the agenda, and an answer was
due since its prompt.

- `Agenda.Next.lines`, `lasting_lines`: no line is lost or invented
- `Worker.due_step`, `lasting_covered`: no answer is told without a prompt before it
-/

namespace Overseer

open Agenda

variable {σ : Type} [Sink σ] {tuning : Tuning}

/-! ## Section 1: Kinds of events

A few questions are asked of events again and again.  Each is a function of its own, so that a
statement about lines need not look at prompts. -/

namespace Event

/-- The line of output that the event tells. -/
def line? : Event → Option String
  | .output line => some line
  | _ => none

/-- Whether the event begins a run. -/
def isStarted : Event → Bool
  | .started .. => true
  | _ => false

/-- Whether the event tells about a prompt. -/
def isPrompt : Event → Bool
  | .promptDetected _ => true
  | _ => false

/-- Whether the event tells what became of an answer. -/
def isNotice : Event → Bool
  | .answerSent _ => true
  | .error message => "failed to send answer '".toList.isPrefixOf message.toList
  | _ => false

/-- The lines of output that events tell. -/
def lines (events : List Event) : List String := events.filterMap line?

@[simp] theorem lines_append (events later : List Event) :
    lines (events ++ later) = lines events ++ lines later := List.filterMap_append

end Event

theorem Notice.isNotice_event (notice : Notice) : notice.event.isNotice = true := by
  cases notice with
  | sent answer => rfl
  | failed answer reason =>
    have htext : failureText answer reason =
        "failed to send answer '" ++ (answer.letter ++ ("': " ++ reason)) := by
      show "failed to send answer '" ++ answer.letter ++ "': " ++ reason = _
      rw [String.append_assoc, String.append_assoc]
    rw [event, Event.isNotice, htext, String.toList_append, List.isPrefixOf_iff_prefix]
    exact List.prefix_append _ _

/-- An error that begins in another way tells nothing about an answer. -/
theorem Event.isNotice_error {start : String} (rest : String)
    (h : ¬"failed to send answer '".toList <+: start.toList)
    (h' : ¬start.toList <+: "failed to send answer '".toList) :
    (Event.error (start ++ rest)).isNotice = false := by
  rw [Event.isNotice, String.toList_append, Bool.eq_false_iff, ne_eq, List.isPrefixOf_iff_prefix]
  intro hprefix
  rcases List.prefix_or_prefix_of_prefix hprefix (List.prefix_append _ _) with hbegins | hbegins
  · exact h hbegins
  · exact h' hbegins

omit [Sink σ] in
/-- What became of answers is told by one task alone. -/
theorem Worker.Tells.isNotice_iff {s : Supervisor} {w : Worker σ} {seen : Observation} {task : Task}
    {e : Event} (h : Worker.Tells s w seen task e) : e.isNotice = true ↔ task = .flush := by
  have hother : e.isNotice = false → task ≠ .flush → (e.isNotice = true ↔ task = .flush) := by
    intro he htask
    rw [he]
    exact ⟨fun h => absurd h nofun, fun h => absurd h htask⟩
  -- the texts of the other errors begin in another way, whatever they quote
  cases h with
  | notice notice hnotice => exact ⟨fun _ => rfl, fun _ => notice.isNotice_event⟩
  | expired wait =>
    refine hother ?_ nofun
    have htext : Worker.promptExpiredText wait.text w.command.promptTimeout = "no answer to \"" ++
        (wait.text ++ ("\" within " ++ (toString (w.command.promptTimeout / 1000) ++ "s"))) := by
      show "no answer to \"" ++ wait.text ++ "\" within " ++ toString _ ++ "s" = _
      rw [String.append_assoc, String.append_assoc, String.append_assoc]
    rw [htext]
    exact Event.isNotice_error _ (by decide) (by decide)
  | tooLate =>
    refine hother ?_ nofun
    have htext : Worker.timeExceededText w.command.timeout =
        "run exceeded its time limit of " ++ (toString (w.command.timeout / 1000) ++ "s") := by
      show "run exceeded its time limit of " ++ toString _ ++ "s" = _
      rw [String.append_assoc]
    rw [htext]
    exact Event.isNotice_error _ (by decide) (by decide)
  | lost reason => exact hother (Event.isNotice_error reason (by decide) (by decide)) nofun
  | _ => exact hother rfl nofun

/-! ## Section 2: Lines

The account of lines has three parts: those that were handed out, those on the agenda, and those
told.  One step moves lines from one part to the next. -/

/-- The line that a task tells. -/
def Task.line? : Task → Option String
  | .narrate line | .narrateLate line => some line
  | _ => none

namespace Agenda

/-- The lines that are still to be told. -/
def lines (agenda : List Task) : List String := agenda.filterMap Task.line?

@[simp] theorem lines_cons (task : Task) (rest : List Task) :
    lines (task :: rest) = task.line?.toList ++ lines rest := by
  rw [lines, List.filterMap_cons, lines]
  cases task.line? <;> rfl

@[simp] theorem lines_nil : lines [] = [] := rfl

@[simp] theorem lines_checks : lines Worker.checks = [] := rfl

@[simp] theorem lines_finishing (outcome : Outcome) : lines (Worker.finishing outcome) = [] := rfl

@[simp] theorem lines_narrate (texts : List String) (rest : List Task) :
    lines (texts.map .narrate ++ rest) = texts ++ lines rest := by
  have htexts : (texts.map Task.narrate).filterMap Task.line? = texts := by
    rw [List.filterMap_map]
    exact List.filterMap_some
  rw [lines, List.filterMap_append, htexts, lines]

@[simp] theorem lines_narrateLate (texts : List String) (rest : List Task) :
    lines (texts.map .narrateLate ++ rest) = texts ++ lines rest := by
  have htexts : (texts.map Task.narrateLate).filterMap Task.line? = texts := by
    rw [List.filterMap_map]
    exact List.filterMap_some
  rw [lines, List.filterMap_append, htexts, lines]

@[simp] theorem lines_telling (texts : List String) : lines (telling texts) = texts := by
  rw [telling, lines_narrate]
  exact List.append_nil texts

@[simp] theorem lines_tellingLate (texts : List String) (deadline : Nat) (outcome : Outcome) :
    lines (tellingLate texts deadline outcome) = texts := by
  rw [tellingLate, lines_narrateLate]
  exact List.append_nil texts

omit [Sink σ] in
/-- A task that is done tells its line, and the lines that the reader hands out are put on the
agenda; no other line comes or goes. -/
theorem Next.lines {s : Supervisor} {w : Worker σ} {seen : Observation} {before after : List Task}
    (h : Next s w seen before after) (hbefore : w.agenda = before)
    (hrep : ∀ text, before.head? = some (.openWait text) →
      (s.relay.openWait? text seen.now w.command.promptTimeout).isSome = true) :
    (before.head?.bind Task.line?).toList ++ Agenda.lines after =
      Agenda.lines before ++ w.handed s.tuning := by
  cases h with
  -- excluded: the wait fits into the clock
  | unrepresentable text texts hopen =>
    have hsome := hrep text rfl
    rw [hopen] at hsome
    exact absurd hsome nofun
  -- taking lines puts them on the agenda; what was handed out is what is new there
  | take deadline => simp [Worker.handed, hbefore, Task.line?]
  | takeNothing deadline moment hnone => simp [Worker.handed, hbefore, Task.line?, hnone]
  | takeLate texts deadline quantum outcome hpoll =>
    simp [Worker.handed, hbefore, Task.line?, hpoll]
  | takeLater deadline quantum outcome hpoll =>
    simp [Worker.handed, hbefore, Task.line?, hpoll]
  | takeLast deadline quantum outcome hpoll =>
    rcases hpoll with hpoll | hpoll <;> simp [Worker.handed, hbefore, Task.line?, hpoll]
  -- telling a line takes it off the agenda
  | narrate | detect => simp [Worker.handed, hbefore, Task.line?, telling_cons]
  | narrateLate => simp [Worker.handed, hbefore, Task.line?, tellingLate_cons]
  -- the other tasks neither tell lines nor put any on the agenda
  | drainOn | drained => simp [Worker.handed, hbefore, Task.line?, tellingLate_nil]
  | flush => simp [Worker.handed, hbefore, Task.line?, telling_nil, Worker.checks]
  | flushLast => simp [Worker.handed, hbefore, Task.line?, Worker.finishing]
  | _ => simp [Worker.handed, hbefore, Task.line?]

end Agenda

omit [Sink σ] in
theorem Worker.Tells.line?_eq {s : Supervisor} {w : Worker σ} {seen : Observation} {task : Task}
    {e : Event} (h : Worker.Tells s w seen task e) : e.line? = task.line? := by
  cases h with
  | notice notice _ => cases notice <;> rfl
  | _ => rfl

omit [Sink σ] in
theorem Worker.lines_narration (s : Supervisor) (w : Worker σ) (seen : Observation) (task : Task) :
    Event.lines (Worker.narration s w seen task) = task.line?.toList := by
  cases hline : task.line? with
  | none =>
    refine List.filterMap_eq_nil_iff.mpr fun e he => ?_
    rw [(tells_of_mem he).line?_eq, hline]
  | some line =>
    cases task with
    | narrate _ | narrateLate _ =>
      cases hline
      rfl
    | _ => cases hline

/-- **One step** neither loses nor invents a line.  A line moves from the reader to the agenda and
from there to the story. -/
theorem Worker.lines_step {s : Supervisor} {w : Worker σ} {seen : Observation}
    (hphase : Phase w.agenda) (hrep : (Deed.worked s w seen).IsRepresentable) :
    Event.lines (published s w seen) ++ Agenda.lines (step s w seen).worker.agenda =
      Agenda.lines w.agenda ++ w.handed s.tuning := by
  cases hagenda : w.agenda with
  | nil => simp [published, step_over s seen hagenda, handed, hagenda, Event.lines]
  | cons task rest =>
    -- the agenda that follows says what became of the lines
    have hnext := next_step s seen hphase (by rw [hagenda]; exact List.cons_ne_nil task rest)
    have hlines := hnext.lines rfl hrep
    rw [hagenda] at hlines
    rw [published_cons hagenda, lines_narration]
    exact hlines

/-- **Every line handed out is told, or stands on the agenda**, in order, as long as no wait is
opened that does not fit into the clock. -/
theorem lasting_lines (tuning : Tuning) :
    Lasting (σ := σ) tuning fun _ w log =>
      Chronicle.Representable log →
        Event.lines (Chronicle.told log) ++ Agenda.lines w.agenda = Chronicle.handed log :=
  .ofLog
    -- a run that begins has told nothing and was handed nothing
    { begins := fun w hfresh _ => by
        rw [hfresh.agenda]
        rfl
      works := fun s w log seen ha h hrep => by
        obtain ⟨hbefore, hlast⟩ := Chronicle.forall_mem_concat.mp hrep
        rw [Chronicle.told_concat, Chronicle.handed_concat, Event.lines_append, List.append_assoc,
          ← h hbefore, List.append_assoc]
        -- the lines told before are the same on both sides, and the step accounts for the rest
        exact congrArg _ (Worker.lines_step ha.phase hlast)
      arrives := fun w log arrival h hrep => h hrep
      answers := fun relay w log answer replies _ h hrep => by
        obtain ⟨hbefore, -⟩ := Chronicle.forall_mem_concat.mp hrep
        -- an answer tells no line and hands nothing out
        simpa [Deed.told, Deed.handed] using h hbefore }

/-! ## Section 3: Answers behind prompts

The account of answers counts.  A prompt that waits will give rise to one notice, and a notice to
one event; nothing else adds to them. -/

/-- What the relay still gives rise to: notices that nobody took, and the answer to the prompt that
waits. -/
def Relay.due (r : Relay) : Nat := r.notices.length + if r.outstanding then 1 else 0

namespace Relay

variable {r : Relay}

/-- A supply turns the prompt that waits into a notice. -/
theorem due_supply (answer : Answer) (replies : PipeReplies) :
    (r.supply answer replies).relay.due = r.due := by
  cases hidle : r.outstanding with
  | false => rw [(supply_idle hidle).1]
  | true =>
    obtain ⟨wait, hwait, hopen⟩ := outstanding_iff.mp hidle
    obtain ⟨notice, result, hsupply, -⟩ := supply_outstanding answer replies hwait hopen
    have hsettled : (r.supply answer replies).relay.outstanding = false := supply_settles
    rw [due, due, hsettled, hidle, hsupply]
    simp

theorem due_takeExpired (now : Nat) : (r.takeExpired now).2.due ≤ r.due := by
  simp only [takeExpired]
  split
  · exact Nat.le_refl _
  · split
    · simp [due, outstanding]
    · exact Nat.le_refl _

theorem due_detach : r.detach.due ≤ r.due := by
  rw [due, due, outstanding_detach]
  exact Nat.le_add_right _ _

theorem due_repeated {text : String} {now timeout : Nat} {after : Relay}
    (h : r.openWait? text now timeout = some (false, after)) : after.due = r.due := by
  simp only [openWait?] at h
  split at h
  · cases h
    rfl
  · split at h <;> cases h

theorem due_opened {text : String} {now timeout : Nat} {after : Relay}
    (h : r.openWait? text now timeout = some (true, after)) : after.due = r.due + 1 := by
  simp only [openWait?] at h
  split at h
  · cases h
  · next hidle =>
    split at h
    · cases h
      rw [due, due, if_neg hidle]
      rfl
    · cases h

end Relay

/-- The prompts that are about to be told. -/
def Agenda.owed : List Task → Nat
  | .showPrompt _ :: _ => 1
  | _ => 0

namespace Worker

variable {s : Supervisor} {w : Worker σ} {seen : Observation}

omit [Sink σ] in
theorem notices_narration (s : Supervisor) (w : Worker σ) (seen : Observation) (task : Task) :
    (narration s w seen task).countP Event.isNotice =
      if task = .flush then s.relay.notices.length else 0 := by
  split
  · next htask =>
    subst htask
    rw [narration, List.countP_map]
    exact List.countP_eq_length.mpr fun notice _ => notice.isNotice_event
  · next htask =>
    exact List.countP_eq_zero.mpr fun e he hnotice =>
      htask ((tells_of_mem he).isNotice_iff.mp hnotice)

omit [Sink σ] in
/-- Prompts are told by one task alone. -/
theorem Tells.isPrompt_iff {task : Task} {e : Event} (h : Tells s w seen task e) :
    e.isPrompt = true ↔ ∃ text, task = .showPrompt text := by
  cases h with
  | prompt text => exact ⟨fun _ => ⟨text, rfl⟩, fun _ => rfl⟩
  | notice notice _ => cases notice <;> exact ⟨nofun, nofun⟩
  | _ => exact ⟨nofun, nofun⟩

omit [Sink σ] in
theorem prompts_narration (s : Supervisor) (w : Worker σ) (seen : Observation) (task : Task)
    (rest : List Task) :
    (narration s w seen task).countP Event.isPrompt = owed (task :: rest) := by
  -- only the telling of a prompt owes one, and it tells one
  by_cases htask : ∃ text, task = .showPrompt text
  · obtain ⟨text, rfl⟩ := htask
    rfl
  · have hnone : owed (task :: rest) = 0 := by
      cases task with
      | showPrompt text => exact absurd ⟨text, rfl⟩ htask
      | _ => rfl
    rw [hnone]
    exact List.countP_eq_zero.mpr fun e he hprompt =>
      htask ((tells_of_mem he).isPrompt_iff.mp hprompt)

omit [Sink σ] in
/-- A task that opens no wait leaves no more to come than before, and counts what it tells. -/
theorem due_relayAfter {task : Task} (htask : ∀ text, task ≠ .openWait text) :
    (narration s w seen task).countP Event.isNotice + (relayAfter s w seen task).due ≤
      s.relay.due := by
  rw [notices_narration]
  cases task with
  | openWait text => exact absurd rfl (htask text)
  -- an answer turns a wait into a notice
  | autoAnswer =>
    simp only [relayAfter, reduceCtorEq, if_false, Nat.zero_add]
    cases w.command.autoAnswer with
    | none => exact Nat.le_refl _
    | some a => exact Nat.le_of_eq (Relay.due_supply a seen.replies)
  -- a flush tells the notices and leaves the wait
  | flush =>
    show s.relay.notices.length + (0 + if s.relay.outstanding then 1 else 0) ≤ s.relay.due
    rw [Nat.zero_add]
    exact Nat.le_refl _
  | checkPrompt =>
    simp only [relayAfter, reduceCtorEq, if_false, Nat.zero_add]
    exact Relay.due_takeExpired seen.now
  -- the end of a wait without an answer leaves no notice
  | detach =>
    simp only [relayAfter, reduceCtorEq, if_false, Nat.zero_add]
    exact Relay.due_detach
  | _ => simp [relayAfter]

/-- **One step** tells of no more answers than were to come, and lets more come only for the prompt
that it is about to tell. -/
theorem due_step (s : Supervisor) (seen : Observation) (hphase : Phase w.agenda) :
    (published s w seen).countP Event.isNotice + (step s w seen).shared.relay.due ≤
      s.relay.due + owed (step s w seen).worker.agenda := by
  cases hagenda : w.agenda with
  | nil =>
    rw [step_over s seen hagenda]
    simp [published, hagenda]
  | cons task rest =>
    rw [relay_step seen hagenda, published_cons hagenda]
    by_cases hopen : ∃ text, task = .openWait text
    · obtain ⟨text, rfl⟩ := hopen
      -- a wait that is opened gives rise to an answer, and its prompt is put on the agenda
      have hnext := next_step s seen hphase (by rw [hagenda]; exact List.cons_ne_nil _ rest)
      generalize (step s w seen).worker.agenda = after at hnext
      generalize htasks : w.agenda = tasks at hnext
      rw [notices_narration, if_neg Task.noConfusion, Nat.zero_add]
      simp only [relayAfter]
      cases hnext with
      | repeated other lines relay hrepeated =>
        cases hagenda.symm.trans htasks
        rw [hrepeated]
        exact Nat.le_trans (Nat.le_of_eq (Relay.due_repeated hrepeated)) (Nat.le_add_right _ _)
      | opened other lines relay hopened =>
        cases hagenda.symm.trans htasks
        rw [hopened]
        exact Nat.le_of_eq (Relay.due_opened hopened)
      | unrepresentable other lines hnone =>
        cases hagenda.symm.trans htasks
        rw [hnone]
        exact Nat.le_add_right _ _
      | _ => cases hagenda.symm.trans htasks
    · exact Nat.le_trans (due_relayAfter fun text htask => hopen ⟨text, htask⟩)
        (Nat.le_add_right _ _)

end Worker

/-- At any time no more answers were told than prompts. -/
def Balanced (events : List Event) : Prop :=
  ∀ shown, shown <+: events → shown.countP Event.isNotice ≤ shown.countP Event.isPrompt

theorem Balanced.append {events later : List Event} (h : Balanced events)
    (hcount : (events ++ later).countP Event.isNotice ≤ events.countP Event.isPrompt) :
    Balanced (events ++ later) := by
  intro shown hshown
  -- what was shown ends before the later events, or holds all prompts of the earlier ones
  rcases List.prefix_or_prefix_of_prefix hshown (List.prefix_append events later) with
    hbefore | hbehind
  · exact h shown hbefore
  · calc shown.countP Event.isNotice
        ≤ (events ++ later).countP Event.isNotice := hshown.sublist.countP_le
      _ ≤ events.countP Event.isPrompt := hcount
      _ ≤ shown.countP Event.isPrompt := hbehind.sublist.countP_le

/-- The answers told and those to come are covered by prompts. -/
structure Covered (s : Supervisor) (w : Worker σ) (log : List (Deed σ)) : Prop where
  balanced : Balanced (Chronicle.told log)
  /-- As long as the relay serves the run, what it gives rise to is covered too. -/
  due : w.isSettled = false →
    (Chronicle.told log).countP Event.isNotice + s.relay.due ≤
      (Chronicle.told log).countP Event.isPrompt + owed w.agenda

theorem Covered.step {s : Supervisor} {w : Worker σ} {log : List (Deed σ)}
    (h : Covered s w log) (seen : Observation) (hphase : Phase w.agenda) :
    Covered (w.step s seen).shared (w.step s seen).worker (log ++ [.worked s w seen]) := by
  have hdue := Worker.due_step s seen hphase
  constructor
  · rw [Chronicle.told_concat]
    refine h.balanced.append ?_
    rw [List.countP_append]
    cases hagenda : w.agenda with
    | nil =>
      have hnone : Deed.told (.worked s w seen) = [] := by simp [Deed.told, Worker.published, hagenda]
      rw [hnone]
      exact h.balanced _ List.prefix_rfl
    | cons task rest =>
      have htold : Deed.told (.worked s w seen) =
          Worker.narration s { w with agenda := rest } seen task := Worker.published_cons hagenda
      rw [htold, Worker.notices_narration]
      split
      · next htask =>
        -- the notices that are told were due
        subst htask
        have hlive : w.isSettled = false := by rw [Worker.isSettled, hagenda]; rfl
        have hcovered := h.due hlive
        rw [hagenda] at hcovered
        have howed : owed (.flush :: rest) = 0 := rfl
        simp only [howed, Relay.due] at hcovered
        omega
      · exact h.balanced _ List.prefix_rfl
  · intro hlive
    have hbefore := Worker.live_of_step hphase hlive
    have hcovered := h.due hbefore
    have hprompts : (Worker.published s w seen).countP Event.isPrompt = owed w.agenda := by
      cases hagenda : w.agenda with
      | nil =>
        simp [Worker.published, hagenda, owed]
      | cons task rest => rw [Worker.published_cons hagenda, Worker.prompts_narration _ _ _ _ rest]
    simp only [Chronicle.told_concat, List.countP_append, Deed.told]
    omega

/-- **No answer is told without a prompt before it.** An answer makes one notice, and it needs a
wait that a prompt has opened. -/
theorem lasting_covered (tuning : Tuning) : Lasting (σ := σ) tuning Covered where
  begins s w _ hfresh :=
    -- nothing is told yet, and nothing is due
    { balanced := fun shown hshown => by
        rw [List.prefix_nil.mp hshown]
        exact Nat.le_refl _
      due := fun _ => Nat.zero_le _ }
  works s w log seen ha h := h.step seen ha.phase
  arrives s w log arrival h := ⟨h.balanced, h.due⟩
  answers s w log answer replies _ h := by
    constructor
    · rw [Chronicle.told_answered]
      exact h.balanced
    · -- the caller's answer turns the wait into a notice, so what is due stays the same
      intro hlive
      rw [Chronicle.told_answered]
      have hsupply : (s.answer answer replies).2.2.relay.due = s.relay.due :=
        Relay.due_supply answer replies
      rw [hsupply]
      exact h.due hlive
  asks s w log ticket h := ⟨h.balanced, h.due⟩
  -- a settled run tells nothing more
  leaves s s' w log hsettled h :=
    ⟨h.balanced, fun hlive => absurd (hsettled.symm.trans hlive) nofun⟩

end Overseer
