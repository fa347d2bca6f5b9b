import Overseer.Proofs.Supervisor.Telling
import Overseer.Sink.Observer

/-!
# The Story of a Run

The events of a run tell one story, whatever the process does and whoever answers or interrupts in
between: the start, then the output line by line, prompts behind their lines, what became of
answers behind the prompts, and at last the outcome.

- `lasting_placed`, `lasting_closed`: where prompts are told
- `lasting_opened`, `lasting_ending`: the start is told first, and one outcome last
- `Chronicle.story_after`: the story, in every interleaving
-/

namespace Overseer

open Agenda

variable {σ : Type} [Sink σ] {tuning : Tuning}

/-! ## Section 1: Prompts behind their lines

A prompt is told two steps behind its line, with the opening of its wait in between.  The invariant
has to say what is on the agenda in these two steps. -/

/-- The last event tells a line that is a prompt with that text. -/
def Prompted (tuning : Tuning) (events : List Event) (text : String) : Prop :=
  ∃ earlier line prompt, events = earlier ++ [.output line] ∧
    tuning.patterns.detect line = some prompt ∧ prompt.line = text

/-- The agenda is about to open a wait for a prompt, or to tell it. -/
def Agenda.Prompts (agenda : List Task) (text : String) : Prop :=
  ∃ rest, agenda = .openWait text :: rest ∨ agenda = .showPrompt text :: rest

theorem Agenda.not_prompts_telling (lines : List String) (text : String) :
    ¬Prompts (telling lines) text := by
  rintro ⟨rest, h⟩
  cases lines <;> rcases h with h | h <;> exact absurd h nofun

theorem Agenda.not_prompts_tellingLate (lines : List String) (deadline : Nat) (outcome : Outcome)
    (text : String) : ¬Prompts (tellingLate lines deadline outcome) text := by
  rintro ⟨rest, h⟩
  cases lines <;> rcases h with h | h <;> exact absurd h nofun

omit [Sink σ] in
/-- A wait is opened for a line that was just told, and then the prompt is told. -/
theorem Agenda.Next.prompts {s : Supervisor} {w : Worker σ} {seen : Observation}
    {before after : List Task} {text : String} (h : Next s w seen before after)
    (hafter : Prompts after text) :
    (∃ line lines prompt, before = telling (line :: lines) ∧
        s.tuning.patterns.detect line = some prompt ∧ prompt.line = text) ∨
      ∃ lines, before = .openWait text :: telling lines := by
  cases h with
  -- the wait is opened here, for the line in front
  | detect line lines prompt hdetect =>
    obtain ⟨rest, h | h⟩ := hafter
    · cases h
      exact .inl ⟨line, lines, prompt, rfl, hdetect, rfl⟩
    · exact absurd h nofun
  -- the wait was opened, and now the prompt is told
  | opened text' lines relay hopen =>
    obtain ⟨rest, h | h⟩ := hafter
    · exact absurd h nofun
    · cases h
      exact .inr ⟨lines, rfl⟩
  -- only lines are left to tell, and a prompt is no line
  | take | narrate | repeated | leaveOpen | tellAnswer =>
    exact absurd hafter (not_prompts_telling _ text)
  | takeLate | takeLater | narrateLate | drain =>
    exact absurd hafter (not_prompts_tellingLate _ _ _ text)
  | _ =>
    obtain ⟨rest, h | h⟩ := hafter <;> exact absurd h nofun

/-- Prompts come right behind their lines. -/
structure Placed (tuning : Tuning) (w : Worker σ) (log : List (Deed σ)) : Prop where
  told : ∀ earlier text later,
    Chronicle.told log = earlier ++ .promptDetected text :: later → Prompted tuning earlier text
  /-- The line of a prompt that is still to be told was told last. -/
  next : ∀ text, Prompts w.agenda text → Prompted tuning (Chronicle.told log) text

omit [Sink σ] in
/-- A prompt that is told is told alone, by the task that was put on the agenda for it. -/
theorem Worker.prompts_of_told {s : Supervisor} {w : Worker σ} {seen : Observation} {text : String}
    (h : .promptDetected text ∈ published s w seen) :
    published s w seen = [.promptDetected text] ∧ Prompts w.agenda text := by
  cases hagenda : w.agenda with
  | nil =>
    rw [published, hagenda] at h
    exact absurd h List.not_mem_nil
  | cons task rest =>
    rw [published_cons hagenda] at h ⊢
    obtain ⟨other, rfl⟩ := (tells_of_mem h).isPrompt_iff.mp rfl
    cases List.mem_singleton.mp h
    exact ⟨rfl, rest, .inr rfl⟩

theorem Placed.step {s : Supervisor} {w : Worker σ} {log : List (Deed σ)}
    (h : Placed tuning w log) (seen : Observation) (ha : Attending tuning s w) :
    Placed tuning (w.step s seen).worker (log ++ [.worked s w seen]) := by
  constructor
  · intro earlier text later htold
    rw [Chronicle.told_concat] at htold
    rcases List.append_eq_append_iff.mp htold with ⟨between, hearlier, hlast⟩ | ⟨between, hbefore, hlater⟩
    · -- the prompt is told in this step, and nothing else is
      have hmem : .promptDetected text ∈ w.published s seen := by
        show _ ∈ Deed.told (.worked s w seen)
        rw [hlast]
        exact List.mem_append_right _ List.mem_cons_self
      obtain ⟨hpublished, hprompts⟩ := Worker.prompts_of_told hmem
      have hnone : between = [] := by
        have hlength := congrArg List.length (hpublished.symm.trans hlast)
        simp only [List.length_append, List.length_cons, List.length_nil] at hlength
        exact List.eq_nil_of_length_eq_zero (by omega)
      rw [hearlier, hnone, List.append_nil]
      exact h.next text hprompts
    · cases between with
      | nil =>
        -- the cut is where the step begins
        have hmem : .promptDetected text ∈ w.published s seen := by
          show _ ∈ Deed.told (.worked s w seen)
          rw [List.nil_append] at hlater
          rw [← hlater]
          exact List.mem_cons_self
        rw [List.append_nil] at hbefore
        rw [← hbefore]
        exact h.next text (Worker.prompts_of_told hmem).2
      | cons e between =>
        injection hlater with hhead htail
        rw [← hhead] at hbefore
        exact h.told earlier text between hbefore
  · intro text hprompts
    rw [Chronicle.told_concat]
    have hnext := Worker.next_step s seen ha.phase fun hover => by
      rw [Worker.step_over s seen hover, hover] at hprompts
      obtain ⟨rest, hrest | hrest⟩ := hprompts <;> exact absurd hrest nofun
    rcases hnext.prompts hprompts with ⟨line, lines, prompt, hagenda, hdetect, htext⟩ | ⟨lines, hagenda⟩
    · have htold : Deed.told (.worked s w seen) = [.output line] := Worker.published_cons hagenda
      rw [htold]
      exact ⟨_, line, prompt, rfl, ha.tuned ▸ hdetect, htext⟩
    · have htold : Deed.told (.worked s w seen) = [] := Worker.published_cons hagenda
      rw [htold, List.append_nil]
      exact h.next text ⟨_, .inl hagenda⟩

/-- **A prompt is told right behind its line.** Between the line and the prompt there is one task,
and it tells nothing. -/
theorem lasting_placed (tuning : Tuning) :
    Lasting (σ := σ) tuning fun _ w log => Placed tuning w log :=
  .ofLog
    { begins := fun w hfresh =>
        { told := fun earlier text later htold => absurd htold (by simp [Chronicle.told])
          -- a run that begins has no prompt on its agenda
          next := fun text hprompts => by
            rw [hfresh.agenda] at hprompts
            obtain ⟨rest, hrest | hrest⟩ := hprompts <;> cases hrest }
      works := fun s w log seen ha h => h.step seen ha
      arrives := fun w log arrival h => ⟨h.told, h.next⟩
      answers := fun relay w log answer replies _ h => by
        constructor
        · -- an answer tells nothing
          rw [Chronicle.told_answered]
          exact h.told
        · rw [Chronicle.told_answered]
          exact h.next }

omit [Sink σ] in
/-- Prompts are told while the run goes round its loop. -/
theorem Worker.undecided_of_prompt {s : Supervisor} {w : Worker σ} {seen : Observation} {e : Event}
    (hphase : Phase w.agenda) (h : e ∈ published s w seen) (hprompt : e.isPrompt = true) :
    Undecided w.agenda := by
  cases e with
  | promptDetected text =>
    obtain ⟨rest, hagenda | hagenda⟩ := (prompts_of_told h).2
    all_goals
      rw [hagenda] at hphase ⊢
      exact hphase.undecided_of_loops rfl
  | _ => exact absurd hprompt nofun

/-- The step that tells a prompt decides on nothing. -/
theorem Worker.decision?_of_prompt {s : Supervisor} {w : Worker σ} {seen : Observation} {e : Event}
    (h : e ∈ published s w seen) (hprompt : e.isPrompt = true) :
    (Deed.worked s w seen).decision? = none := by
  -- only the telling of a prompt tells one, and it stands behind an open wait
  cases e with
  | promptDetected text =>
    simp only [Deed.decision?]
    split
    · next hnone =>
      obtain ⟨rest, hagenda | hagenda⟩ := (prompts_of_told h).2
      · rw [published_cons hagenda] at h
        exact absurd h List.not_mem_nil
      · -- what is left of the agenda leads nowhere either
        rw [verdict?, hagenda] at hnone
        rw [step_cons hagenda]
        exact hnone
    · rfl
  | _ => cases hprompt

/-- Behind the decision on an outcome no prompt is told. -/
structure Closed (w : Worker σ) (log : List (Deed σ)) : Prop where
  quiet : ∀ before e after, log = before ++ e :: after → e.decision?.isSome = true →
    ∀ told ∈ Chronicle.told (e :: after), told.isPrompt = false
  decided : (∃ e ∈ log, e.decision?.isSome = true) → ¬Undecided w.agenda

/-- A step behind the decision tells no prompt, and the step that decides tells none either. -/
theorem Closed.step {s : Supervisor} {w : Worker σ} {log : List (Deed σ)} (h : Closed w log)
    (seen : Observation) (hphase : Phase w.agenda) :
    Closed (w.step s seen).worker (log ++ [.worked s w seen]) := by
  -- a prompt is told in the loop only, where nothing has been decided yet
  have hprompts : ¬Undecided w.agenda → ∀ e ∈ w.published s seen, e.isPrompt = false := by
    intro hdecided e he
    cases hprompt : e.isPrompt with
    | false => rfl
    | true => exact absurd (Worker.undecided_of_prompt hphase he hprompt) hdecided
  constructor
  · refine Chronicle.forall_cut_concat.mpr ⟨fun before e after hlog hdecision told htold => ?_,
      fun hdecision told htold => ?_⟩
    · rw [← List.cons_append, Chronicle.told_concat] at htold
      -- told before this step, or by it
      rcases List.mem_append.mp htold with htold | htold
      · exact h.quiet before e after hlog hdecision told htold
      · have hmem : e ∈ log := by
          rw [hlog]
          exact List.mem_append_right _ List.mem_cons_self
        exact hprompts (h.decided ⟨e, hmem, hdecision⟩) told htold
    · -- the step that decides tells no prompt itself
      cases hprompt : told.isPrompt with
      | false => rfl
      | true =>
        rw [Chronicle.told, List.flatMap_singleton] at htold
        rw [Worker.decision?_of_prompt htold hprompt] at hdecision
        cases hdecision
  · rintro ⟨e, he, hdecision⟩ hafter
    -- decided before: then the run has left the loop, and never comes back
    rcases List.mem_append.mp he with he | he
    · exact h.decided ⟨e, he, hdecision⟩ (Worker.undecided_of_step hphase hafter)
    · cases List.mem_singleton.mp he
      -- decided now: then the agenda of this step leads to the outcome
      obtain ⟨outcome, houtcome⟩ := Option.isSome_iff_exists.mp hdecision
      have hverdict := (Deed.decision?_worked_iff.mp houtcome).2
      cases hafter.outcome?_eq.symm.trans hverdict

/-- **No prompt is told behind the decision on an outcome.** Prompts are told by the loop only, and
no run comes back to it. -/
theorem lasting_closed (tuning : Tuning) : Lasting (σ := σ) tuning fun _ w log => Closed w log :=
  .ofLog
    { begins := fun w hfresh =>
        { quiet := fun before e after hlog => absurd hlog (by simp)
          decided := fun ⟨e, he, _⟩ => absurd he List.not_mem_nil }
      works := fun s w log seen ha h => h.step seen ha.phase
      arrives := fun w log arrival h => ⟨h.quiet, h.decided⟩
      answers := fun relay w log answer replies _ h =>
        { quiet := Chronicle.forall_cut_concat.mpr ⟨fun before e after hlog hdecision told htold => by
              -- an answer is logged behind the decision, and tells nothing
              rw [← List.cons_append, Chronicle.told_answered] at htold
              exact h.quiet before e after hlog hdecision told htold,
            fun hdecision => absurd hdecision nofun⟩
          decided := fun ⟨e, he, hdecision⟩ => by
            rcases List.mem_append.mp he with he | he
            · exact h.decided ⟨e, he, hdecision⟩
            · cases List.mem_singleton.mp he
              exact absurd hdecision nofun } }

/-! ## Section 2: The start and the end

The first and the last event of a run are told by tasks that stand on the agenda once.  The outcome
that is told is the one that was stored, since the settling hands it on. -/

/-- A run begins with telling its start, and tells it once. -/
structure Opened (w : Worker σ) (log : List (Deed σ)) : Prop where
  fresh : w.agenda = [.start, .listen] → Chronicle.told log = []
  begun : w.agenda ≠ [.start, .listen] → ∃ rest,
    Chronicle.told log = .started w.pid w.command.display :: rest ∧
      ∀ e ∈ rest, e.isStarted = false

/-- The start is told first, and once: the task that tells it is never put on an agenda again. -/
theorem Opened.step {s : Supervisor} {w : Worker σ} {log : List (Deed σ)} (h : Opened w log)
    (seen : Observation) (hphase : Phase w.agenda) :
    Opened (w.step s seen).worker (log ++ [.worked s w seen]) := by
  have hsame := Worker.sameRun_step s w seen
  -- the first step tells the start, and nothing was told before it
  by_cases hfresh : w.agenda = [.start, .listen]
  · have hafter : (w.step s seen).worker.agenda = [.listen] := by
      rw [Worker.step_cons hfresh]
      rfl
    have htold : Deed.told (.worked s w seen) = [.started w.pid w.command.display] :=
      Worker.published_cons hfresh
    constructor
    · intro hstart
      cases hafter.symm.trans hstart
    · intro _
      rw [Chronicle.told_concat, h.fresh hfresh, htold, ← hsame.pid, ← hsame.command]
      exact ⟨[], rfl, fun e he => absurd he List.not_mem_nil⟩
  · -- every other step tells behind the start
    have hafter : (w.step s seen).worker.agenda ≠ [.start, .listen] := by
      by_cases hover : w.agenda = []
      · rw [Worker.step_over s seen hover]
        exact hfresh
      · exact (Worker.next_step s seen hphase hover).not_starting
    refine ⟨fun hstart => absurd hstart hafter, fun _ => ?_⟩
    obtain ⟨rest, htold, hrest⟩ := h.begun hfresh
    refine ⟨rest ++ w.published s seen, ?_, fun e he => ?_⟩
    · rw [Chronicle.told_concat, htold, ← hsame.pid, ← hsame.command]
      rfl
    · rcases List.mem_append.mp he with he | he
      · exact hrest e he
      · -- the start is told by one task, which stands at the beginning of a fresh agenda only
        cases hagenda : w.agenda with
        | nil =>
          rw [Worker.published, hagenda] at he
          exact absurd he List.not_mem_nil
        | cons task tasks =>
          rw [Worker.published_cons hagenda] at he
          rw [hagenda] at hphase hfresh
          cases Worker.tells_of_mem he with
          | started =>
            rw [hphase.behind.1 rfl] at hfresh
            exact absurd rfl hfresh
          | notice notice _ => cases notice <;> rfl
          | _ => rfl

theorem lasting_opened (tuning : Tuning) : Lasting (σ := σ) tuning fun _ w log => Opened w log :=
  .ofLog
    { begins := fun w hfresh => ⟨fun _ => rfl, fun hbegun => absurd hfresh.agenda hbegun⟩
      works := fun s w log seen ha h => h.step seen ha.phase
      arrives := fun w log arrival h => ⟨h.fresh, h.begun⟩
      answers := fun relay w log answer replies _ h => by
        constructor
        · rw [Chronicle.told_answered]
          exact h.fresh
        · rw [Chronicle.told_answered]
          exact h.begun }

/-- A run tells its outcome once, when it is over, and that outcome is stored and reported, unless
the worker could not go on. -/
structure Ending (w : Worker σ) (log : List (Deed σ)) : Prop where
  untold : w.agenda ≠ [] → ∀ e ∈ Chronicle.told log, e.isFinished = false
  unsettled : w.isSettled = false → Chronicle.stored log = []
  settled : ∀ outcome, w.agenda = [.conclude outcome] → Chronicle.stored log = [outcome]
  givenUp : GivenUp w.agenda → ¬Chronicle.Representable log
  ended : w.agenda = [] → Chronicle.Representable log → ∃ earlier outcome,
    Chronicle.told log = earlier ++ [.finished outcome] ∧
      (∀ e ∈ earlier, e.isFinished = false) ∧ Chronicle.stored log = [outcome] ∧
        w.report = some ⟨outcome, w.pid, w.tail.lines⟩

omit [Sink σ] in
/-- A log with a deed more than one that shows the clock too short shows it too. -/
theorem Chronicle.not_representable_concat {log : List (Deed σ)} {e : Deed σ}
    (h : ¬Representable log) : ¬Representable (log ++ [e]) :=
  fun hrep => h (forall_mem_concat.mp hrep).1

/-- A run that is over stays as it is. -/
theorem Ending.step_over {s : Supervisor} {w : Worker σ} {log : List (Deed σ)} (h : Ending w log)
    (seen : Observation) (ha : Attending tuning s w) (hover : w.agenda = []) :
    Ending (w.step s seen).worker (log ++ [.worked s w seen]) := by
  have hstep : (w.step s seen).worker = w := by rw [Worker.step_over s seen hover]
  have htold : Deed.told (.worked s w seen) = [] := by
    rw [Deed.told, Worker.published, hover]
  have hstored : (Deed.worked s w seen).stored? = none := by
    rw [Deed.stored?_worked ha, hover]
    rfl
  rw [hstep]
  refine ⟨fun hne => absurd hover hne, fun hlive => ?_, fun outcome h => ?_, fun hgiven => ?_,
    fun _ hrep => ?_⟩
  · -- the clauses about a run with tasks left say nothing here
    rw [Worker.isSettled, hover] at hlive
    cases hlive
  · cases hover.symm.trans h
  · rw [hover] at hgiven
    cases hgiven
  · rw [Chronicle.told_concat, htold, List.append_nil, Chronicle.stored_concat, hstored]
    simpa using h.ended hover (Chronicle.forall_mem_concat.mp hrep).1

/-- Only the last task tells an outcome, and nothing is left to do behind it. -/
theorem Worker.isFinished_of_published {s : Supervisor} {w : Worker σ} {seen : Observation}
    {e : Event} (hphase : Phase w.agenda) (hmore : (step s w seen).worker.agenda ≠ [])
    (h : e ∈ published s w seen) : e.isFinished = false := by
  cases hagenda : w.agenda with
  | nil =>
    rw [published, hagenda] at h
    exact absurd h List.not_mem_nil
  | cons task rest =>
    rw [published_cons hagenda] at h
    rw [step_cons hagenda] at hmore
    rw [hagenda] at hphase
    cases tells_of_mem h with
    | finished outcome =>
      rw [hphase.behind.2.2 outcome rfl] at hmore
      exact absurd rfl hmore
    | notice notice _ => cases notice <;> rfl
    | _ => rfl

/-- A step of a run that is not over yet.  What it stores comes before what it tells, and the
outcome that is told is the one that was stored. -/
theorem Ending.step {s : Supervisor} {w : Worker σ} {log : List (Deed σ)} (h : Ending w log)
    (seen : Observation) (ha : Attending tuning s w) (hne : w.agenda ≠ []) :
    Ending (w.step s seen).worker (log ++ [.worked s w seen]) := by
  have hnext := Worker.next_step s seen ha.phase hne
  have hstored := Deed.stored?_worked ha seen
  constructor
  · -- an outcome is told by the last task only
    intro hmore told htold
    rw [Chronicle.told_concat] at htold
    rcases List.mem_append.mp htold with htold | htold
    · exact h.untold hne told htold
    · exact Worker.isFinished_of_published ha.phase hmore htold
  · intro hlive
    rw [Chronicle.stored_of_live ha hlive]
    exact h.unsettled (Worker.live_of_step ha.phase hlive)
  · -- the outcome that is about to be told was stored by the step before
    intro outcome hconclude
    rw [hconclude] at hnext
    have hsettle := hnext.of_concluding
    have hbefore : w.isSettled = false := by rw [Worker.isSettled, hsettle]; rfl
    rw [Chronicle.stored_concat, h.unsettled hbefore, hstored, hsettle]
    rfl
  · -- a run gives up only where the clock is too short
    intro hgiven hrep
    obtain ⟨hbefore, hlast⟩ := Chronicle.forall_mem_concat.mp hrep
    rcases hnext.of_givenUp hgiven with hgiven | ⟨text, lines, hopen, hnone⟩
    · exact h.givenUp hgiven hbefore
    · have hsome := hlast text (by rw [hopen]; rfl)
      rw [hnone] at hsome
      cases hsome
  · intro hover hrep
    obtain ⟨hbefore, hlast⟩ := Chronicle.forall_mem_concat.mp hrep
    rw [hover] at hnext
    -- it ends with the outcome that was decided on, or it has collapsed
    rcases hnext.course.ends with ⟨outcome, hconclude⟩ | hcollapse
    · refine ⟨Chronicle.told log, outcome, ?_, h.untold hne, ?_, ?_⟩
      · rw [Chronicle.told_concat]
        exact congrArg _ (Worker.published_cons hconclude)
      · rw [Chronicle.stored_concat, h.settled outcome hconclude, hstored, hconclude]
        rfl
      · rw [Worker.step_cons hconclude]
        rfl
    · exact absurd hbefore (h.givenUp (hcollapse ▸ .collapsing))

/-- **A run tells one outcome**, the one that is stored and reported.  It is carried by the tasks
from the decision to the last event. -/
theorem lasting_ending (tuning : Tuning) : Lasting (σ := σ) tuning fun _ w log => Ending w log :=
  .ofLog
    -- at the beginning nothing is told, stored or settled
    { begins := fun w hfresh =>
        { untold := fun _ told htold => absurd htold List.not_mem_nil
          unsettled := fun _ => rfl
          settled := fun outcome h => by
            rw [hfresh.agenda] at h
            exact absurd h nofun
          givenUp := fun h => by
            rw [hfresh.agenda] at h
            exact absurd h nofun
          ended := fun h => by
            rw [hfresh.agenda] at h
            exact absurd h nofun }
      works := fun s w log seen ha h => by
        -- a run that is over does nothing more, so its end is told once
        by_cases hover : w.agenda = []
        · exact h.step_over seen ha hover
        · exact h.step seen ha hover
      arrives := fun w log arrival h => ⟨h.untold, h.unsettled, h.settled, h.givenUp, h.ended⟩
      answers := fun relay w log answer replies _ h => by
        -- an answer tells and stores nothing
        constructor
        · rw [Chronicle.told_answered]
          exact h.untold
        · rw [Chronicle.stored_answered]
          exact h.unsettled
        · rw [Chronicle.stored_answered]
          exact h.settled
        · exact fun hgiven => Chronicle.not_representable_concat (h.givenUp hgiven)
        · intro hover hrep
          rw [Chronicle.told_answered, Chronicle.stored_answered]
          exact h.ended hover (Chronicle.forall_mem_concat.mp hrep).1 }

/-! ## Section 3: The whole story

The parts are put together for a run that is over, and for one that is not over as far as it has
come.  The sinks are handed the same events as the log says, which is the subject of another module.
-/

/-- **The sinks are handed what the log tells**, since any step of the worker.  Nobody else
publishes to the sinks of a run. -/
theorem lasting_handedOn (tuning : Tuning) :
    Lasting (σ := σ) tuning fun _ w log => ∀ before e after, log = before ++ e :: after →
      ∀ fanout, e.fanout? = some fanout →
        w.fanout = (Chronicle.told (e :: after)).foldl Fanout.publish fanout :=
  .ofLog
    { begins := fun w hfresh before e after hlog => absurd hlog (by simp)
      works := fun s w log seen ha h => by
        have hstep := Worker.fanout_step s w seen
        refine Chronicle.forall_cut_concat.mpr ⟨fun before e after hlog fanout hfanout => ?_,
          fun fanout hfanout => ?_⟩
        · -- what was told since has this step's events at its end
          rw [← List.cons_append, Chronicle.told_concat, List.foldl_append,
            ← h before e after hlog fanout hfanout]
          exact hstep
        · cases hfanout
          -- the step is the first one that counts
          rw [Chronicle.told, List.flatMap_singleton]
          exact hstep
      arrives := fun w log arrival h => h
      answers := fun relay w log answer replies _ h => by
        refine Chronicle.forall_cut_concat.mpr ⟨fun before e after hlog fanout hfanout => ?_,
          fun fanout hfanout => by cases hfanout⟩
        rw [← List.cons_append, Chronicle.told_answered]
        exact h before e after hlog fanout hfanout }

/-- The story that a run tells.  Each field is about all that it has told so far, so it holds also
of a run that is not over. -/
structure Story (tuning : Tuning) (w : Worker σ) (log : List (Deed σ)) : Prop where
  /-- The sinks of the run are handed what it tells, since any step of its worker. -/
  handedOn : ∀ before e after, log = before ++ e :: after → ∀ fanout, e.fanout? = some fanout →
    w.fanout = (Chronicle.told (e :: after)).foldl Fanout.publish fanout
  /-- The start is told first, and once. -/
  started : Chronicle.told log = [] ∨ ∃ rest,
    Chronicle.told log = .started w.pid w.command.display :: rest ∧ ∀ e ∈ rest, e.isStarted = false
  /-- The lines told are the lines that the reader handed out, in order and each once, up to those
  that are still on the agenda. -/
  lines : Chronicle.Representable log →
    Event.lines (Chronicle.told log) ++ Agenda.lines w.agenda = Chronicle.handed log
  /-- A prompt is told right behind its line. -/
  prompted : ∀ earlier text later,
    Chronicle.told log = earlier ++ .promptDetected text :: later → Prompted tuning earlier text
  /-- At any time no more answers were told than prompts. -/
  balanced : Balanced (Chronicle.told log)
  /-- From the decision on an outcome on, no prompt is told. -/
  quiet : ∀ before e after, log = before ++ e :: after → e.decision?.isSome = true →
    ∀ told ∈ Chronicle.told (e :: after), told.isPrompt = false
  /-- The outcome is not told before the run is over. -/
  unfinished : w.isDone = false → ∀ e ∈ Chronicle.told log, e.isFinished = false
  /-- A run that is over told its start first, one outcome last and every line in between, and the
  outcome is the one that it stored, once, and reports. -/
  finished : w.isDone = true → Chronicle.Representable log → ∃ middle outcome,
    Chronicle.told log =
        .started w.pid w.command.display :: middle ++ [.finished outcome] ∧
      (∀ e ∈ middle, e.isStarted = false ∧ e.isFinished = false) ∧
      Event.lines middle = Chronicle.handed log ∧ Chronicle.stored log = [outcome] ∧
      w.report = some ⟨outcome, w.pid, w.tail.lines⟩

omit [Sink σ] in
/-- What a run that is over told, between its start and its outcome. -/
theorem Opened.middle {w : Worker σ} {log : List (Deed σ)} (h : Opened w log)
    (hover : w.agenda = []) {earlier : List Event} {outcome : Outcome}
    (htold : Chronicle.told log = earlier ++ [.finished outcome])
    (hearlier : ∀ e ∈ earlier, e.isFinished = false) : ∃ middle,
      Chronicle.told log = .started w.pid w.command.display :: middle ++ [.finished outcome] ∧
        ∀ e ∈ middle, e.isStarted = false ∧ e.isFinished = false := by
  obtain ⟨rest, hstarted, hrest⟩ := h.begun (by rw [hover]; exact nofun)
  have hboth := htold.symm.trans hstarted
  cases earlier with
  | nil => exact absurd hboth nofun
  | cons first middle =>
    injection hboth with hfirst hmiddle
    -- the outcome closes what was told, and the start opens it
    refine ⟨middle, by rw [htold, hfirst], fun e he => ⟨hrest e ?_, hearlier e ?_⟩⟩
    · rw [← hmiddle]
      exact List.mem_append_left _ he
    · exact List.mem_cons_of_mem first he

omit [Sink σ] in
theorem Worker.isDone_iff {w : Worker σ} : w.isDone = true ↔ w.agenda = [] := List.isEmpty_iff

/-- **Every run tells its story**, whatever its process does and whoever answers or interrupts.  It
is told in one order: the start first, each prompt behind its line, and the outcome last. -/
theorem Chronicle.story_after (tuning : Tuning) (actions : List (Crew.Action σ)) :
    (after tuning actions).Every fun _ w log => Story tuning w log := by
  intro t w hstage
  have hopened := lasting_after (lasting_opened tuning) actions t w hstage
  have hending := lasting_after (lasting_ending tuning) actions t w hstage
  have hlines := lasting_after (lasting_lines tuning) actions t w hstage
  have hplaced := lasting_after (lasting_placed tuning) actions t w hstage
  constructor
  case handedOn => exact lasting_after (lasting_handedOn tuning) actions t w hstage
  case started =>
    by_cases hfresh : w.agenda = [.start, .listen]
    · exact .inl (hopened.fresh hfresh)
    · exact .inr (hopened.begun hfresh)
  case lines => exact hlines
  case prompted => exact hplaced.told
  case balanced => exact (lasting_after (lasting_covered tuning) actions t w hstage).balanced
  case quiet => exact (lasting_after (lasting_closed tuning) actions t w hstage).quiet
  case unfinished =>
    intro hdone
    exact hending.untold fun hover => absurd (Worker.isDone_iff.mpr hover) (by rw [hdone]; nofun)
  case finished =>
    intro hdone hrep
    have hover := Worker.isDone_iff.mp hdone
    obtain ⟨earlier, outcome, htold, hearlier, hstored, hreport⟩ := hending.ended hover hrep
    obtain ⟨middle, hmiddle, hplain⟩ := hopened.middle hover htold hearlier
    refine ⟨middle, outcome, hmiddle, hplain, ?_, hstored, hreport⟩
    have hall := hlines hrep
    rw [hover, hmiddle, Event.lines_append, lines_nil, List.append_nil] at hall
    -- neither the start nor the outcome is a line
    have hstart : Event.lines (.started w.pid w.command.display :: middle) = Event.lines middle := rfl
    have hfinish : Event.lines [.finished outcome] = [] := rfl
    rwa [hstart, hfinish, List.append_nil] at hall

/-- The story of a process that prints a line and ends. -/
example :
    Chronicle.told ((Chronicle.after (σ := Observer) .standard
      ([.reserve (.new "sh" ["hello.sh"]) (.ofSinks []), .announce 0 7 0, .attach 0,
          .arrive 0 (.bytes "hello\n".toUTF8.toList), .arrive 0 .ended] ++
        List.replicate 14 (.work 0 ⟨0, .exited 3, ⟨[], none⟩⟩))).log 0) =
      [.started 7 "sh hello.sh", .output "hello", .finished (.completed 3)] := by
  decide +kernel

end Overseer
