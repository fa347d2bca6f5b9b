import Overseer.Proofs.Supervisor.Story

/-!
# The Newest Lines of a Run

A run keeps the newest lines of its output, as many as its tuning allows, and reports them when it
is over.  A task that tells a line pushes that line, and no other task touches the tail; so the
tail follows the lines told, whichever part of the run told them.

- `Tail.Newest`: the newest lines of an output
- `Tail.Newest.push`: one more line
- `Worker.tail_perform`, `Worker.tail_step`: what tasks and steps do to the tail
- `Chronicle.keepsNewest_after`: what every run keeps and reports
-/

namespace Overseer

/-! ## Section 1: Newest lines

The newest lines of an output are its last ones, as many as the limit allows.  A limit of zero keeps
nothing, and a push must not keep its own line either. -/

namespace Tail

/-- The kept lines are the newest of an output: they stand at its end in their order, and there are
as many of them as the limit allows.  With a limit of zero there are none. -/
structure Newest (limit : Nat) (output kept : List String) : Prop where
  suffix : kept <:+ output
  length_eq : kept.length = min limit output.length

@[simp] theorem limit_push (tail : Tail) (line : String) : (tail.push line).limit = tail.limit := by
  unfold push
  split
  · rfl
  · split <;> rfl

theorem limit_foldl_push (tail : Tail) (lines : List String) :
    (lines.foldl Tail.push tail).limit = tail.limit := by
  induction lines generalizing tail with
  | nil => rfl
  | cons line lines ih => rw [List.foldl_cons, ih, limit_push]

theorem newest_empty (limit : Nat) : Newest limit [] (empty limit).lines :=
  ⟨List.suffix_rfl, (Nat.min_zero limit).symm⟩

/-- **One more line** leaves the newest lines of an output that is one line longer. -/
theorem Newest.push {tail : Tail} {output : List String}
    (h : Newest tail.limit output tail.lines) (line : String) :
    Newest (tail.push line).limit (output ++ [line]) (tail.push line).lines := by
  obtain ⟨hsuffix, hlength⟩ := h
  rw [limit_push]
  unfold Tail.push
  split
  · next hroom =>
    -- the limit was not reached, so nothing of the output is missing yet
    have hall : tail.lines = output := hsuffix.eq_of_length (by omega)
    constructor
    · show tail.lines ++ [line] <:+ output ++ [line]
      exact ⟨[], congrArg (· ++ [line]) hall⟩
    · show (tail.lines ++ [line]).length = min tail.limit (output ++ [line]).length
      rw [hall] at hroom ⊢
      rw [List.length_append, List.length_singleton]
      omega
  · next hfull =>
    split
    · next hnone =>
      -- nothing is kept at all
      have hnil : tail.lines = [] := by
        apply List.eq_nil_of_length_eq_zero
        rw [hlength, hnone, Nat.zero_min]
      constructor
      · rw [hnil]
        exact List.nil_suffix
      · rw [hnil, hnone, Nat.zero_min, List.length_nil]
    · next hsome =>
      -- the oldest line makes room
      have hshorter : tail.lines.drop 1 <:+ output := (List.drop_suffix 1 tail.lines).trans hsuffix
      constructor
      · show tail.lines.drop 1 ++ [line] <:+ output ++ [line]
        obtain ⟨older, rfl⟩ := hshorter
        exact ⟨older, (List.append_assoc older _ _).symm⟩
      · show (tail.lines.drop 1 ++ [line]).length = min tail.limit (output ++ [line]).length
        simp only [List.length_append, List.length_drop, List.length_singleton]
        omega

theorem Newest.foldl_push {tail : Tail} {output : List String}
    (h : Newest tail.limit output tail.lines) (lines : List String) :
    Newest (lines.foldl Tail.push tail).limit (output ++ lines)
      (lines.foldl Tail.push tail).lines := by
  induction lines generalizing tail output with
  | nil =>
    rw [List.append_nil]
    exact h
  | cons line lines ih =>
    rw [List.foldl_cons, List.append_cons]
    exact ih (h.push line)

/-- Of three lines the last two are kept, and none where none may be kept. -/
example :
    (["a", "b", "c"].foldl Tail.push (.empty 2)).lines = ["b", "c"] ∧
      (["a", "b", "c"].foldl Tail.push (.empty 0)).lines = [] := by
  decide

end Tail

/-! ## Section 2: What a step keeps

Lines are told when they are complete, when a prompt is taken before its newline, and when the
output that is left is taken at the end.  Two tasks tell them, and both push the line that they
tell. -/

variable {σ : Type} [Sink σ] {tuning : Tuning}

namespace Worker

/-- **What a task keeps**: the line that it tells, if it tells one.  The two tasks that tell lines
keep them in the same way. -/
theorem tail_perform (s : Supervisor) (w : Worker σ) (seen : Observation) (task : Task) :
    (perform s w seen task).worker.tail = task.line?.toList.foldl Tail.push w.tail := by
  cases task with
  | poll deadline =>
    -- a poll puts its lines on the agenda; each of them is kept when it is told
    obtain ⟨reader, tasks, hpoll, -⟩ :=
      pollReader_spec s.tuning (w.only checks) (seen.now + s.tuning.pollInterval)
    simp only [perform, hpoll]
    rfl
  | flush =>
    -- notices are told but are no lines
    simp only [perform, foldl_tellNotice]
    rfl
  | checkEnd =>
    simp only [perform]
    rcases decideEnd_spec s w seen with hend | ⟨code, hend⟩ <;> rw [hend] <;> rfl
  | checkChild | openWait _ =>
    simp only [perform]
    split
    · rfl
    · split <;> rfl
  | awaitEnd deadline outcome =>
    simp only [perform]
    split <;> split <;> rfl
  -- from here on the tasks tell no line, whichever way they go
  | autoAnswer | checkStop | checkPrompt | checkTime | terminate _ | drainUntil _ _
  | drainPoll _ _ _ =>
    simp only [perform]
    split <;> rfl
  | _ => rfl

/-- **What a step keeps**: the lines that it tells, in their order. -/
theorem tail_step (s : Supervisor) (w : Worker σ) (seen : Observation) :
    (step s w seen).worker.tail = (Event.lines (published s w seen)).foldl Tail.push w.tail := by
  cases hagenda : w.agenda with
  | nil =>
    rw [step_over s seen hagenda, published, hagenda]
    rfl
  | cons task rest =>
    rw [step_cons hagenda, published_cons hagenda, lines_narration]
    exact tail_perform s { w with agenda := rest } seen task

end Worker

/-! ## Section 3: What a run keeps and reports

The lines of the report are compared with the lines that were told, so that whoever follows a run
and whoever reads its report see the same end of the output. -/

/-- At any time a run keeps the newest of the lines that it has told. -/
theorem lasting_newest (tuning : Tuning) :
    Lasting (σ := σ) tuning fun _ w log => w.tail.limit = tuning.tailLimit ∧
      Tail.Newest w.tail.limit (Event.lines (Chronicle.told log)) w.tail.lines :=
  .ofLog
    { begins := fun w hfresh => by
        -- what arrives before the first step is told later
        obtain ⟨command, ticket, pid, now, fanout, arrivals, rfl⟩ := hfresh
        rw [Worker.foldl_arrive]
        exact ⟨rfl, Tail.newest_empty tuning.tailLimit⟩
      works := fun s w log seen _ ⟨hlimit, hnewest⟩ => by
        have hpushed := hnewest.foldl_push (Event.lines (Worker.published s w seen))
        -- keeping the newest of what was told, the worker keeps the newest of this step's lines too
        rw [Worker.tail_step, Chronicle.told_concat, Event.lines_append]
        exact ⟨(Tail.limit_foldl_push _ _).trans hlimit, hpushed⟩
      arrives := fun w log arrival h => h
      answers := fun relay w log answer replies _ h => by
        -- an answer tells no line
        rw [Chronicle.told_answered]
        exact h }

/-- What a run keeps of its output, and what it reports. -/
structure KeepsNewest (tuning : Tuning) (w : Worker σ) (log : List (Deed σ)) : Prop where
  /-- The sinks of the run are handed what it tells, since any step of its worker. -/
  handedOn : ∀ before e after, log = before ++ e :: after → ∀ fanout, e.fanout? = some fanout →
    w.fanout = (Chronicle.told (e :: after)).foldl Fanout.publish fanout
  /-- At any time the tail holds the newest of the lines told. -/
  kept : Tail.Newest tuning.tailLimit (Event.lines (Chronicle.told log)) w.tail.lines
  /-- A run that is over has told every line that its reader handed out, and reports the newest of
  them. -/
  reported : w.isDone = true → Chronicle.Representable log → ∃ report, w.report = some report ∧
    Event.lines (Chronicle.told log) = Chronicle.handed log ∧
    Tail.Newest tuning.tailLimit (Event.lines (Chronicle.told log)) report.tail

/-- **Every run reports the newest lines of its output**, whichever part of the run told them, and
whatever its process does and whoever answers or interrupts. -/
theorem Chronicle.keepsNewest_after (tuning : Tuning) (actions : List (Crew.Action σ)) :
    (after tuning actions).Every fun _ w log => KeepsNewest tuning w log := by
  intro t w hstage
  obtain ⟨hlimit, hnewest⟩ := lasting_after (lasting_newest tuning) actions t w hstage
  rw [hlimit] at hnewest
  constructor
  case handedOn => exact lasting_after (lasting_handedOn tuning) actions t w hstage
  case kept => exact hnewest
  case reported =>
    intro hdone hrep
    have hover := Worker.isDone_iff.mp hdone
    have hending := lasting_after (lasting_ending tuning) actions t w hstage
    obtain ⟨earlier, outcome, -, -, -, hreport⟩ := hending.ended hover hrep
    refine ⟨⟨outcome, w.pid, w.tail.lines⟩, hreport, ?_, hnewest⟩
    -- no line is left on the agenda
    have hlines := lasting_after (lasting_lines tuning) actions t w hstage hrep
    rw [hover, Agenda.lines_nil, List.append_nil] at hlines
    exact hlines

/-- A process prints two lines and a half, and its run may keep two: it reports the second line and
the half one. -/
example :
    ((Chronicle.after (σ := Observer) { Tuning.standard with tailLimit := 2 }
      ([.reserve (.new "sh" ["count.sh"]) (.ofSinks []), .announce 0 7 0, .attach 0,
          .arrive 0 (.bytes "one\ntwo\nhalf".toUTF8.toList), .arrive 0 .ended] ++
        List.replicate 30 (.work 0 ⟨0, .exited 0, ⟨[], none⟩⟩))).crew.stages 0).map (fun
      | .working w _ => w.report.map (·.tail)
      | _ => none) = some (some ["two", "half"]) := by
  decide +kernel

end Overseer
