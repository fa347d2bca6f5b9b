import Overseer.Proofs.Reader.Digest
import Overseer.Proofs.Supervisor.Process
import Overseer.Proofs.Supervisor.Story

/-!
# What a Run Received

A run tells the lines of everything that its reader has taken, up to the fragment behind the last
newline.  The end of the output turns that fragment into a line; but a run that is completed because
its output stays open for too long leaves the fragment where it is.

- `Worker.digests_step`, `lasting_digested`: nothing is lost between the reader and the agenda
- `Chronicle.accounted_after`: what a run told, and what it left
- `Chronicle.not_readsAll_heldRun`: a run that never tells what it read
-/

namespace Overseer

open Agenda Reader

variable {σ : Type} [Sink σ] {tuning : Tuning}

/-! ## Section 1: What the steps of a worker take

Two tasks poll the reader, and one of them may take a fragment as a prompt.  For everything else the
reader is a thing that the worker carries along. -/

/-- The task polls the reader. -/
def Task.polls : Task → Bool
  | .poll _ | .drainPoll .. => true
  | _ => false

namespace Worker

/-- The next step polls the reader. -/
def polls (w : Worker σ) : Bool := w.agenda.head?.any Task.polls

/-- The next step takes the fragment of an idle reader, which is a prompt. -/
def takesPrompt (tuning : Tuning) (w : Worker σ) : Bool :=
  match w.agenda with
  | .poll _ :: _ =>
    w.reader.poll.1 == .idle && w.reader.poll.2.fragment?.any tuning.patterns.detects
  | _ => false

/-- The reader after the next step. -/
def readerAfter (tuning : Tuning) (w : Worker σ) : OutputReader :=
  if w.takesPrompt tuning then w.reader.poll.2.takeFragment.2
  else if w.polls then w.reader.poll.2
  else w.reader

/-- A task that does not poll leaves the reader alone. -/
theorem reader_perform (s : Supervisor) (w : Worker σ) (seen : Observation) {task : Task}
    (htask : task.polls = false) : (perform s w seen task).worker.reader = w.reader := by
  cases task with
  | poll _ | drainPoll _ _ _ => cases htask
  -- telling notices changes the sinks and the tail
  | flush => simp only [perform, foldl_tellNotice, tellAll]
  | checkEnd =>
    simp only [perform]
    rcases decideEnd_spec s w seen with hend | ⟨code, hend⟩ <;> rw [hend] <;> rfl
  | checkChild =>
    simp only [perform]
    split
    · rfl
    · split <;> rfl
  | openWait text =>
    simp only [perform]
    split
    · rfl
    · split <;> rfl
  | awaitEnd deadline outcome =>
    simp only [perform]
    split <;> split <;> rfl
  -- these look at the clock, the relay or the command, and leave the reader where it is
  | autoAnswer | checkStop | checkPrompt | checkTime | terminate _ | drainUntil _ _ =>
    simp only [perform]
    split <;> rfl
  | _ => rfl

/-- **What a step does to the reader.** Only two tasks poll it, one of them takes a fragment too,
and all others leave it alone. -/
theorem reader_step (s : Supervisor) (w : Worker σ) (seen : Observation) :
    (step s w seen).worker.reader = w.readerAfter s.tuning := by
  cases hagenda : w.agenda with
  | nil =>
    rw [step_over s seen hagenda]
    simp [readerAfter, takesPrompt, polls, hagenda]
  | cons task rest =>
    rw [step_cons hagenda]
    cases task with
    | poll deadline =>
      simp only [perform, pollReader, readerAfter, takesPrompt, polls, hagenda, only,
        List.head?_cons, Option.any_some, Task.polls]
      -- what the poll found decides whether the fragment is taken as well
      obtain ⟨found, hfound⟩ : ∃ found, w.reader.poll.1 = found := ⟨_, rfl⟩
      rw [hfound]
      cases found with
      -- nothing came in: a fragment that looks like a prompt is taken
      | idle =>
        by_cases hprompt : w.reader.poll.2.fragment?.any s.tuning.patterns.detects = true <;>
          simp [hprompt, first]
      | _ => rfl
    -- late output is taken by the same poll, and fragments are left alone
    | drainPoll deadline quantum outcome =>
      simp only [perform, readerAfter, takesPrompt, polls, hagenda, List.head?_cons,
        Option.any_some, Task.polls]
      split <;> rfl
    | _ =>
      rw [reader_perform s _ seen rfl]
      simp [readerAfter, takesPrompt, polls, hagenda, Task.polls]

omit [Sink σ] in
/-- The lines that a step hands out are those of the poll, and the prompt that it takes. -/
theorem handed_eq (tuning : Tuning) (w : Worker σ) :
    w.handed tuning = (if w.polls then w.reader.poll.1.texts else []) ++
      if w.takesPrompt tuning then w.reader.poll.2.takeFragment.1.toList else [] := by
  obtain ⟨poll, hpoll⟩ : ∃ poll, w.reader.poll.1 = poll := ⟨_, rfl⟩
  cases hagenda : w.agenda with
  | nil => simp [handed, polls, takesPrompt, hagenda]
  | cons task rest =>
    cases task with
    | poll deadline | drainPoll deadline quantum outcome =>
      cases poll <;>
        simp [handed, polls, takesPrompt, hagenda, found, hpoll, Poll.texts, Task.polls]
    | _ => simp [handed, polls, takesPrompt, hagenda, Task.polls]

omit [Sink σ] in
/-- A prompt is taken by a poll, and it is there to be taken. -/
theorem polls_of_takesPrompt {w : Worker σ} (h : w.takesPrompt tuning = true) :
    w.polls = true ∧ w.reader.poll.2.fragment?.isSome = true := by
  simp only [takesPrompt] at h
  split at h
  · next hagenda =>
    simp only [Bool.and_eq_true, Option.any_eq_true] at h
    obtain ⟨-, text, hfragment, -⟩ := h
    exact ⟨by rw [polls, hagenda]; rfl, by rw [hfragment]; rfl⟩
  · cases h

end Worker

namespace Deed

/-- The bytes that the reader of the run takes. -/
def received : Deed σ → List UInt8
  | .worked _ w _ => if w.polls then w.reader.taken else []
  | .answered .. => []

/-- The bytes that the reader takes, with a newline behind them if the fragment is taken as a
prompt. -/
def marked (e : Deed σ) : List UInt8 :=
  match e with
  | .worked s w _ => e.received ++ if w.takesPrompt s.tuning then [newline] else []
  | .answered .. => []

end Deed

namespace Chronicle

/-- All bytes that the reader of a run has taken, with a newline wherever the fragment was taken as
a prompt. -/
def marked (log : List (Deed σ)) : List UInt8 := log.flatMap Deed.marked

omit [Sink σ] in
@[simp] theorem marked_concat (log : List (Deed σ)) (e : Deed σ) :
    marked (log ++ [e]) = marked log ++ e.marked := by
  rw [marked, List.flatMap_append, List.flatMap_singleton, marked]

end Chronicle

/-! ## Section 2: Nothing is lost on the way

The bytes that a run has taken, with a newline wherever a prompt was taken before its own, are what
its lines are compared with. -/

/-- **One step** loses nothing of what it takes.  What the reader hands out goes to the agenda in
the same step. -/
theorem Worker.digests_step {s : Supervisor} {w : Worker σ} {bytes : List UInt8}
    {texts : List String} (h : w.reader.Digests bytes texts) (seen : Observation) :
    (step s w seen).worker.reader.Digests (bytes ++ (Deed.worked s w seen).marked)
      (texts ++ w.handed s.tuning) := by
  rw [reader_step, readerAfter, handed_eq, Deed.marked, Deed.received]
  -- the fragment is taken behind the poll, if it is taken at all
  cases hprompt : w.takesPrompt s.tuning with
  | true =>
    obtain ⟨hpolls, hfragment⟩ := polls_of_takesPrompt hprompt
    have hboth := h.poll.takeFragment
    rw [hfragment] at hboth
    simpa [hpolls] using hboth
  | false =>
    cases hpolls : w.polls with
    | true => simpa using h.poll
    | false => simpa using h

/-- **What the reader of a run took is told or left**: the bytes taken are digested into the lines
handed out and the fragment that is pending. -/
theorem lasting_digested (tuning : Tuning) :
    Lasting (σ := σ) tuning fun _ w log =>
      w.reader.Digests (Chronicle.marked log) (Chronicle.handed log) :=
  .ofLog
    { begins := fun w hfresh => by
        -- what came in before the first step waits in the queue, and nothing is taken yet
        obtain ⟨command, ticket, pid, now, fanout, arrivals, rfl⟩ := hfresh
        rw [Worker.foldl_arrive]
        show (arrivals.foldl OutputReader.arrive OutputReader.empty).Digests [] []
        have hempty := OutputReader.Digests.empty
        generalize OutputReader.empty = reader at hempty
        induction arrivals generalizing reader with
        | nil => exact hempty
        | cons arrival arrivals ih => exact ih _ (hempty.arrive arrival)
      works := fun s w log seen _ h => by
        rw [Chronicle.marked_concat, Chronicle.handed_concat]
        exact Worker.digests_step h seen
      arrives := fun w log arrival h => h.arrive arrival
      answers := fun relay w log answer replies _ h => by
        rw [Chronicle.marked_concat, Chronicle.handed_concat]
        -- an answer takes nothing out of the reader
        simpa [Deed.marked, Deed.handed] using h }

/-! ## Section 3: Runs that give up

A run that gives up tells no outcome at all.  It is left out of the account by this, and not by an
assumption. -/

omit [Sink σ] in
/-- Behind giving up nothing is told. -/
theorem Worker.published_of_givenUp {s : Supervisor} {w : Worker σ} (seen : Observation)
    (h : GivenUp w.agenda ∨ w.agenda = []) : published s w seen = [] := by
  rcases h with h | h
  · generalize hagenda : w.agenda = agenda at h
    cases h <;> exact published_cons hagenda
  · rw [published, h]

/-- The clock could show all moments of the run, or the run gave up and tells no outcome. -/
def Spoken (w : Worker σ) (log : List (Deed σ)) : Prop :=
  Chronicle.Representable log ∨
    (GivenUp w.agenda ∨ w.agenda = []) ∧ ∀ e ∈ Chronicle.told log, e.isFinished = false

/-- A run that gives up goes on to its end. -/
theorem Worker.givenUp_step {s : Supervisor} {w : Worker σ} (seen : Observation)
    (h : GivenUp w.agenda ∨ w.agenda = []) :
    GivenUp (step s w seen).worker.agenda ∨ (step s w seen).worker.agenda = [] := by
  rcases h with h | h
  · generalize hagenda : w.agenda = agenda at h
    -- the three tasks of a run that has collapsed, each in front of the next
    cases h with
    | detaching =>
      rw [step_cons hagenda]
      exact .inl .settling
    | settling =>
      rw [step_cons hagenda]
      exact .inl .collapsing
    | collapsing =>
      rw [step_cons hagenda]
      exact .inr rfl
  · rw [step_over s seen h]
    exact .inr h

/-- A step that the clock has no moment for gives up and tells nothing. -/
theorem Worker.givenUp_of_not_representable {s : Supervisor} {w : Worker σ} {seen : Observation}
    (h : ¬(Deed.worked s w seen).IsRepresentable) :
    w.agenda ≠ [] ∧ GivenUp (step s w seen).worker.agenda ∧ published s w seen = [] := by
  simp only [Deed.IsRepresentable, Classical.not_forall, Option.not_isSome_iff_eq_none] at h
  obtain ⟨text, hhead, hnone⟩ := h
  obtain ⟨rest, hagenda⟩ := List.head?_eq_some_iff.mp hhead
  refine ⟨by rw [hagenda]; exact List.cons_ne_nil _ _, ?_, published_cons hagenda⟩
  rw [step_cons hagenda]
  simp only [perform, hnone]
  exact .detaching

theorem Spoken.step {s : Supervisor} {w : Worker σ} {log : List (Deed σ)} (h : Spoken w log)
    (hending : Ending w log) (seen : Observation) :
    Spoken (w.step s seen).worker (log ++ [.worked s w seen]) := by
  rcases h with hrep | ⟨hdown, htold⟩
  · by_cases hlast : (Deed.worked s w seen).IsRepresentable
    · exact .inl (Chronicle.forall_mem_concat.mpr ⟨hrep, hlast⟩)
    · obtain ⟨hmore, hdown, hsilent⟩ := Worker.givenUp_of_not_representable hlast
      rw [Spoken, Chronicle.told_concat, Deed.told, hsilent, List.append_nil]
      exact .inr ⟨.inl hdown, hending.untold hmore⟩
  · rw [Spoken, Chronicle.told_concat, Deed.told, Worker.published_of_givenUp seen hdown,
      List.append_nil]
    exact .inr ⟨Worker.givenUp_step seen hdown, htold⟩

/-- **A run that tells an outcome never gave up**: the clock could show all its moments.  One that
gave up has no task left that tells an outcome. -/
theorem lasting_spoken (tuning : Tuning) :
    Lasting (σ := σ) tuning fun _ w log => Ending w log ∧ Spoken w log := by
  refine (lasting_ending tuning).beside ?begins ?works ?arrives ?answers
  case begins => exact fun w hfresh => .inl fun e he => absurd he List.not_mem_nil
  case works => exact fun s w log seen ha hending h => h.step hending seen
  case arrives => exact fun w log arrival h => h
  case answers =>
    intro relay w log answer replies h
    rw [Spoken, Chronicle.told_answered]
    exact h.imp_left fun hrep => Chronicle.forall_mem_concat.mpr ⟨hrep, trivial⟩

/-! ## Section 4: Runs that are completed

A completion is decided by one check, at a moment when the reader is closed or the grace period is
over.  From then on nothing is polled, so the reader stays as the check has left it. -/

/-- A run that brings itself to an end leaves its reader alone. -/
theorem Worker.finishing_step {s : Supervisor} {w : Worker σ} {outcome : Outcome}
    (h : w.agenda <:+ finishing outcome) (seen : Observation) :
    (step s w seen).worker.agenda <:+ finishing outcome ∧
      (step s w seen).worker.reader = w.reader := by
  simp only [finishing, List.suffix_cons_iff, List.suffix_nil] at h
  -- none of the tasks left polls
  have hpolls : w.polls = false ∧ w.takesPrompt s.tuning = false := by
    rcases h with h | h | h | h | h <;> simp [polls, takesPrompt, h, Task.polls]
  refine ⟨?_, by simp [reader_step, readerAfter, hpolls]⟩
  rcases h with h | h | h | h | h
  · rw [step_cons h]
    simp only [perform, foldl_tellNotice, tellAll]
    exact List.suffix_cons _ _
  · rw [step_cons h]
    exact (List.suffix_cons _ _).trans (List.suffix_cons _ _)
  · rw [step_cons h]
    exact ((List.suffix_cons _ _).trans (List.suffix_cons _ _)).trans (List.suffix_cons _ _)
  · rw [step_cons h]
    exact List.nil_suffix
  · rw [step_over s seen h, h]
    exact List.nil_suffix

/-- A run is completed by a check of its end; if the output is still open, the check says so. -/
theorem Worker.completed_step {s : Supervisor} {w : Worker σ} {seen : Observation} {code : Int}
    (hphase : Phase w.agenda)
    (h : (Deed.worked s w seen).decision? = some (.completed code)) :
    (step s w seen).worker.agenda = finishing (.completed code) ∧
      (step s w seen).worker.reader = w.reader ∧
        (w.reader.closed = false → published s w seen = [.warning pipeHeldText]) := by
  have hdecides := decides_of_decision hphase h
  generalize hbefore : w.agenda = before at hdecides
  generalize (step s w seen).worker.agenda = after at hdecides ⊢
  cases hdecides with
  -- of the tasks that decide, only the check of the end completes a run
  | completed _ noticed hexited hidle hend =>
    refine ⟨rfl, ?_, fun hopen => ?_⟩
    · simp [reader_step, readerAfter, polls, takesPrompt, hbefore, Task.polls]
    · -- the output is open, so it was the grace period that let the run end, and that is warned of
      have hgrace := hend.resolve_left (by rw [hopen]; exact Bool.false_ne_true)
      rw [published_cons hbefore]
      simp [narration, hexited, hidle, hopen, hgrace]

/-- A run that is completed, or about to be: the check that completed it, and what the reader has
left since then. -/
structure Completion (w : Worker σ) (log : List (Deed σ)) (code : Int) (check : Worker σ) :
    Prop where
  agenda : w.agenda <:+ Worker.finishing (.completed code)
  reader : check.reader.pending = w.reader.pending ∧ check.reader.closed = w.reader.closed
  /-- If the output is still open at the check, the check says so. -/
  checked : ∃ s seen, .worked s check seen ∈ log ∧
    (Deed.worked s check seen).decision? = some (.completed code) ∧
      (check.reader.closed = false →
        (Deed.worked s check seen).told = [.warning Worker.pipeHeldText])

/-- The run has decided on a completion, or told it. -/
def Completes (w : Worker σ) (log : List (Deed σ)) (code : Int) : Prop :=
  w.verdict? = some (.completed code) ∨ .finished (.completed code) ∈ Chronicle.told log

theorem Completion.step {s : Supervisor} {w check : Worker σ} {log : List (Deed σ)} {code : Int}
    (h : Completion w log code check) (seen : Observation) :
    Completion (w.step s seen).worker (log ++ [.worked s w seen]) code check := by
  obtain ⟨hagenda, hreader⟩ := Worker.finishing_step h.agenda seen (s := s)
  obtain ⟨s', seen', hmem, hdecision, htold⟩ := h.checked
  exact ⟨hagenda, hreader ▸ h.reader, s', seen', List.mem_append_left _ hmem, hdecision, htold⟩

/-- The step after which a run completes, but not before, is the one that decides on it. -/
theorem Worker.decision_of_completes {s : Supervisor} {w : Worker σ} {log : List (Deed σ)}
    {seen : Observation} {code : Int} (hphase : Phase w.agenda) (hbefore : ¬Completes w log code)
    (hafter : Completes (w.step s seen).worker (log ++ [.worked s w seen]) code) :
    (Deed.worked s w seen).decision? = some (.completed code) := by
  rw [Completes, not_or] at hbefore
  rcases hafter with hverdict | htold
  · refine Deed.decision?_worked_iff.mpr ⟨?_, hverdict⟩
    cases hother : w.verdict? with
    | none => rfl
    | some other =>
      have hmore : w.agenda ≠ [] := by
        intro hover
        rw [verdict?, hover] at hother
        cases hother
      -- what was decided before stays decided
      rcases (next_step s seen hphase hmore).course.outcome?_eq hother with hover | hkept
      · rw [verdict?, hover] at hverdict
        cases hverdict
      · rw [← hkept] at hother
        exact absurd (hother.trans hverdict) hbefore.1
  · rw [Chronicle.told_concat, List.mem_append] at htold
    have hpublished : .finished (.completed code) ∈ published s w seen :=
      htold.resolve_left hbefore.2
    cases hagenda : w.agenda with
    | nil =>
      rw [published, hagenda] at hpublished
      exact absurd hpublished List.not_mem_nil
    | cons task rest =>
      rw [published_cons hagenda] at hpublished
      cases eq_conclude_of_finished hpublished
      exact absurd (by rw [verdict?, hagenda]; rfl) hbefore.1

/-- **A completed run was completed by a check**, and its reader is as the check has left it.
Behind that check nothing is polled any more. -/
theorem lasting_completion (tuning : Tuning) :
    Lasting (σ := σ) tuning fun _ w log =>
      ∀ code, Completes w log code → ∃ check, Completion w log code check :=
  .ofLog
    { begins := fun w hfresh code h => by
        rcases h with h | h
        · -- a run that begins has no verdict on its agenda and has told nothing
          rw [Worker.verdict?, hfresh.agenda] at h
          cases h
        · exact absurd h List.not_mem_nil
      works := fun s w log seen ha h code hafter => by
        -- it was completed before, and a finishing run leaves its reader alone
        by_cases hbefore : Completes w log code
        · obtain ⟨check, hcheck⟩ := h code hbefore
          exact ⟨check, hcheck.step seen⟩
        · -- it is completed by this step, and the check is this step's
          have hdecision := Worker.decision_of_completes ha.phase hbefore hafter
          obtain ⟨hagenda, hreader, htold⟩ := Worker.completed_step ha.phase hdecision
          refine ⟨w, ?_, ?_, s, seen, ?_, hdecision, htold⟩
          · exact hagenda ▸ List.suffix_rfl
          · exact hreader ▸ ⟨rfl, rfl⟩
          · exact List.mem_append_right _ List.mem_cons_self
      arrives := fun w log arrival h code hcompletes => by
        obtain ⟨check, hagenda, hreader, hchecked⟩ := h code hcompletes
        -- what arrives is queued, and neither pending nor closed for that
        obtain ⟨hpending, hclosed⟩ := w.reader.pending_arrive arrival
        refine ⟨check, hagenda, ?_, hchecked⟩
        show check.reader.pending = (w.reader.arrive arrival).pending ∧
          check.reader.closed = (w.reader.arrive arrival).closed
        rw [hpending, hclosed]
        exact hreader
      answers := fun relay w log answer replies _ h code hcompletes => by
        rw [Completes, Chronicle.told_answered] at hcompletes
        obtain ⟨check, hagenda, hreader, s, seen, hmem, hchecked⟩ := h code hcompletes
        exact ⟨check, hagenda, hreader, s, seen, List.mem_append_left _ hmem, hchecked⟩ }

/-! ## Section 5: The account of every run

The condition under which all is told is exact: a reader that is closed has nothing left, and one
that is not may have a fragment. -/

namespace Chronicle

/-- What a run has told are the lines of all that its reader has taken, and nothing is left in the
reader. -/
def AllRead (w : Worker σ) (log : List (Deed σ)) : Prop :=
  Event.lines (told log) = streamLines (marked log) ∧ w.reader.pending = []

/-- What a run told of all that its reader has taken.  It is an equation between texts, so nothing
is told twice and nothing out of order. -/
structure Accounted (w : Worker σ) (log : List (Deed σ)) : Prop where
  /-- The lines told, those that are still to be told and the fragment that is pending are the lines
  of all that the reader has taken. -/
  account : Representable log →
    Event.lines (told log) ++ Agenda.lines w.agenda ++ OutputReader.lastText w.reader.pending =
      streamLines (marked log)
  /-- A run that is completed was completed by a check.  It leaves nothing in its reader exactly if
  the check found that all output was handed out, or no fragment pending; what it leaves is that
  fragment, and the check tells that the output is still open. -/
  completed : ∀ code, .finished (.completed code) ∈ told log → ∃ s check seen,
    .worked s check seen ∈ log ∧ (Deed.worked s check seen).decision? = some (.completed code) ∧
      (AllRead w log ↔ check.reader.closed = true ∨ check.reader.pending = []) ∧
      Event.lines (told log) ++ OutputReader.lastText check.reader.pending =
        streamLines (marked log) ∧
      (¬AllRead w log → (Deed.worked s check seen).told = [.warning Worker.pipeHeldText])

omit [Sink σ] in
/-- The fragment that is left is all that the lines told lack. -/
theorem allRead_iff {w : Worker σ} {log : List (Deed σ)}
    (h : Event.lines (told log) ++ OutputReader.lastText w.reader.pending =
      streamLines (marked log)) : AllRead w log ↔ w.reader.pending = [] := by
  refine ⟨And.right, fun hpending => ⟨?_, hpending⟩⟩
  rw [← h, hpending]
  exact (List.append_nil _).symm

/-- **The account of every run**, whatever its process does and whoever answers or interrupts.  What
is told and what is still to be told makes up what the reader has taken, also behind a decision to
stop. -/
theorem accounted_after (tuning : Tuning) (actions : List (Crew.Action σ)) :
    (after tuning actions).Every fun _ w log => Accounted w log := by
  intro t w hstage
  have hdigests := lasting_after (lasting_digested tuning) actions t w hstage
  have haccount : Representable ((after tuning actions).log t) → _ := fun hrep =>
    (congrArg (· ++ OutputReader.lastText w.reader.pending)
      (lasting_after (lasting_lines tuning) actions t w hstage hrep)).trans hdigests.account
  refine ⟨haccount, fun code hcode => ?_⟩
  obtain ⟨check, hagenda, ⟨hpending, hclosed⟩, s, seen, hmem, hdecision, htold⟩ :=
    lasting_after (lasting_completion tuning) actions t w hstage code (.inr hcode)
  have hrep : Representable ((after tuning actions).log t) := by
    refine (lasting_after (lasting_spoken tuning) actions t w hstage).2.resolve_right ?_
    rintro ⟨-, hsilent⟩
    exact absurd (hsilent _ hcode) nofun
  -- nothing is left on the agenda of a run that has told its outcome
  have hlines : Agenda.lines w.agenda = [] := by
    obtain ⟨front, hfront⟩ := hagenda
    have h := congrArg Agenda.lines hfront
    rw [lines_finishing, Agenda.lines, List.filterMap_append] at h
    exact (List.append_eq_nil_iff.mp h).2
  have hleft := haccount hrep
  rw [hlines, List.append_nil] at hleft
  have hiff := allRead_iff hleft
  have hopen : w.reader.closed = true → w.reader.pending = [] := hdigests.pending_of_closed
  refine ⟨s, check, seen, hmem, hdecision, ?_, ?_, fun hnot => htold ?_⟩
  · rw [hiff, hpending, hclosed]
    exact ⟨.inr, fun h => h.elim hopen id⟩
  · rw [hpending]
    exact hleft
  · rw [hclosed]
    cases hend : w.reader.closed with
    | false => rfl
    | true => exact absurd (hiff.mpr (hopen hend)) hnot

/-! ## Section 6: A fragment that nobody tells

The fragment below has no newline and never gets one.  The run takes its bytes and is completed
without it. -/

/-- Every run that is completed has told all that its reader has taken. -/
def ReadsAll (h : Chronicle σ) : Prop :=
  h.Every fun _ w log => ∀ code, .finished (.completed code) ∈ told log → AllRead w log

/-- A process writes half a line and ends, and something keeps its output open until the grace
period has passed. -/
def heldRun : List (Crew.Action Observer) :=
  [.reserve (.new "sh" ["half.sh"]) (.ofSinks []), .announce 0 7 0, .attach 0,
      .arrive 0 (.bytes "done".toUTF8.toList)] ++
    List.replicate 9 (.work 0 ⟨0, .exited 0, ⟨[], none⟩⟩) ++
    List.replicate 12 (.work 0 ⟨3000, .exited 0, ⟨[], none⟩⟩)

/-- **A fragment that nobody tells**: the reader took it, and the run is completed without it. -/
theorem not_readsAll_heldRun :
    told ((after .standard heldRun).log 0) =
        [.started 7 "sh half.sh", .warning Worker.pipeHeldText, .finished (.completed 0)] ∧
      marked ((after .standard heldRun).log 0) = "done".toUTF8.toList ∧
      ¬(after .standard heldRun).ReadsAll := by
  -- the run is short enough to be computed: the word is taken, and what is told has no line
  have htold : told ((after .standard heldRun).log 0) =
      [.started 7 "sh half.sh", .warning Worker.pipeHeldText, .finished (.completed 0)] := by
    decide +kernel
  have hmarked : marked ((after .standard heldRun).log 0) = "done".toUTF8.toList := by
    decide +kernel
  have hleft : (after .standard heldRun).hasLeft 0 = true := by decide +kernel
  obtain ⟨w, hstage, -⟩ := settled_of_hasLeft hleft
  refine ⟨htold, hmarked, fun hall => ?_⟩
  -- the theorem would have the word told, as the outcome says that the run was completed
  have hlines := (hall 0 w hstage 0 (by rw [htold]; decide)).1
  rw [htold, hmarked] at hlines
  exact absurd hlines (by decide +kernel)

end Chronicle

end Overseer
