import Overseer.Supervisor.Worker

/-!
# What a Task Tells and Touches

Each task of a worker publishes a few events, changes little of what is shared and nothing of what
makes the run the one it is.  Everything else about workers is proved from these facts and not from
the tasks themselves.

- `Worker.narration`: the events that a task publishes
- `Worker.worker_perform`: a task publishes its narration and nothing else, and a run keeps its
  command, ticket, process and start
- `Worker.shared_perform`: only one task touches more than the relay
- `Worker.fanout_step`: what the sinks are handed in one step
-/

namespace Overseer

/-- What is told about an answer. -/
def Notice.event : Notice → Event
  | .sent answer => .answerSent answer
  | .failed answer reason => .error (Notice.failureText answer reason)

namespace Worker

variable {σ : Type} [Sink σ]

/-! ## Section 1: The narration of a task

What a task publishes depends on what it sees and not on the sinks.  The narration computes it
beside the task, and it is all that the later modules know of publishing. -/

/-- Publishes events one after the other. -/
def tellAll (w : Worker σ) (events : List Event) : Worker σ :=
  { w with fanout := events.foldl Fanout.publish w.fanout }

/-- The events that a task publishes. -/
def narration (s : Supervisor) (w : Worker σ) (seen : Observation) : Task → List Event
  | .start => [.started w.pid w.command.display]
  | .narrate line | .narrateLate line => [.output line]
  | .showPrompt text => [.promptDetected text]
  | .flush => s.relay.notices.map Notice.event
  | .checkPrompt =>
    match (s.relay.takeExpired seen.now).1 with
    | some wait => [.error (promptExpiredText wait.text w.command.promptTimeout)]
    | none => []
  | .checkTime =>
    if w.startedAt + w.command.timeout ≤ seen.now then
      [.error (timeExceededText w.command.timeout)]
    else []
  | .checkChild =>
    match w.exited, seen.child with
    | none, .unknown reason => [.error ("failed to poll child: " ++ reason)]
    | _, _ => []
  | .checkEnd =>
    match w.exited with
    | some (_, noticed) =>
      if s.relay.outstanding = false ∧ w.reader.closed = false ∧
          noticed + s.tuning.gracePeriod ≤ seen.now then [.warning pipeHeldText]
      else []
    | none => []
  | .conclude outcome => [.finished outcome]
  | _ => []

/-- The events that the next step publishes. -/
def published (s : Supervisor) (w : Worker σ) (seen : Observation) : List Event :=
  match w.agenda with
  | [] => []
  | task :: rest => narration s { w with agenda := rest } seen task

theorem foldl_tellNotice (notices : List Notice) (w : Worker σ) :
    notices.foldl tellNotice w = w.tellAll (notices.map Notice.event) := by
  induction notices generalizing w with
  | nil => rfl
  | cons notice notices ih =>
    rw [List.foldl_cons, ih]
    cases notice <;> rfl

/-! ## Section 2: Spec lemmas for the helpers

The tasks share two helpers, and each has one lemma that says all it does. -/

omit [Sink σ] in
/-- Polling changes the reader and puts pauses and narrations in front of the agenda. -/
theorem pollReader_spec (tuning : Tuning) (w : Worker σ) (deadline : Nat) :
    ∃ reader tasks, w.pollReader tuning deadline = { w with reader, agenda := tasks ++ w.agenda } ∧
      ∀ task ∈ tasks, task = .pause deadline ∨ ∃ line, task = .narrate line := by
  simp only [pollReader]
  split
  · next lines _ =>
    -- lines that were ready: each is told, and there is no pause
    refine ⟨_, lines.map .narrate, rfl, fun task htask => ?_⟩
    obtain ⟨line, -, rfl⟩ := List.mem_map.mp htask
    exact .inr ⟨line, rfl⟩
  · -- bytes came in, but no line is complete
    exact ⟨_, [], rfl, fun task htask => absurd htask List.not_mem_nil⟩
  · -- the output is at its end, and only the process is waited for
    exact ⟨_, [.pause deadline], rfl, fun task htask => .inl (List.mem_singleton.mp htask)⟩
  · -- nothing came in: a fragment that looks like a prompt is told as it is
    split
    · refine ⟨_, List.map .narrate _, rfl, fun task htask => ?_⟩
      obtain ⟨line, -, rfl⟩ := List.mem_map.mp htask
      exact .inr ⟨line, rfl⟩
    · exact ⟨_, [], rfl, fun task htask => absurd htask List.not_mem_nil⟩

/-- Deciding whether the run is over either listens on or begins to finish. -/
theorem decideEnd_spec (s : Supervisor) (w : Worker σ) (seen : Observation) :
    w.decideEnd s.tuning s.relay.outstanding seen.now =
        (w.tellAll (narration s w seen .checkEnd)).only [.listen] ∨
      ∃ code, w.decideEnd s.tuning s.relay.outstanding seen.now =
        (w.tellAll (narration s w seen .checkEnd)).only (finishing (.completed code)) := by
  simp only [decideEnd, narration]
  -- a process that is still there, or a prompt that waits, keeps the run in the loop
  cases w.exited with
  | none => exact .inl rfl
  | some ending =>
    obtain ⟨code, noticed⟩ := ending
    cases s.relay.outstanding with
    | true => exact .inl rfl
    | false =>
      cases w.reader.closed with
      | true => exact .inr ⟨code, rfl⟩
      -- the output is held open by somebody, and the grace period decides
      | false =>
        by_cases hgrace : noticed + s.tuning.gracePeriod ≤ seen.now
        · simp only [hgrace, and_self, if_true, Bool.false_eq_true, if_false]
          exact .inr ⟨code, rfl⟩
        · simp only [hgrace, and_false, if_false, Bool.false_eq_true]
          exact .inl rfl

/-! ## Section 3: Spec lemmas for tasks

By cases on the task, twice and no more: here for the worker, and then for what is shared. -/

/-- **What a task tells**: it publishes its narration and nothing else.  The command, the ticket,
the process and the start stay what they are. -/
theorem worker_perform (s : Supervisor) (w : Worker σ) (seen : Observation) (task : Task) :
    ∃ reader tail exited agenda report,
      (perform s w seen task).worker =
        { w.tellAll (narration s w seen task) with reader, tail, exited, agenda, report } := by
  -- in each case the branches of the task are taken, and then only the named fields differ
  cases task with
  | poll deadline =>
    obtain ⟨reader, tasks, hpoll, -⟩ :=
      pollReader_spec s.tuning (w.only checks) (seen.now + s.tuning.pollInterval)
    simp only [perform, hpoll]
    exact ⟨_, _, _, _, _, rfl⟩
  | openWait text =>
    simp only [perform]
    split
    · exact ⟨_, _, _, _, _, rfl⟩
    · split <;> exact ⟨_, _, _, _, _, rfl⟩
  | autoAnswer =>
    simp only [perform]
    split <;> exact ⟨_, _, _, _, _, rfl⟩
  | flush =>
    simp only [perform, foldl_tellNotice]
    exact ⟨_, _, _, _, _, rfl⟩
  | checkStop =>
    simp only [perform]
    split <;> exact ⟨_, _, _, _, _, rfl⟩
  | checkPrompt =>
    simp only [perform, narration]
    split
    · next hnone =>
      rw [hnone]
      exact ⟨_, _, _, _, _, rfl⟩
    · next hsome =>
      rw [hsome]
      exact ⟨_, _, _, _, _, rfl⟩
  | checkTime =>
    simp only [perform, narration]
    split <;> exact ⟨_, _, _, _, _, rfl⟩
  | checkChild =>
    simp only [perform, narration]
    cases w.exited with
    | some ending => exact ⟨_, _, _, _, _, rfl⟩
    | none => cases seen.child <;> exact ⟨_, _, _, _, _, rfl⟩
  | checkEnd =>
    simp only [perform]
    rcases decideEnd_spec s w seen with hend | ⟨code, hend⟩
    · rw [hend]
      exact ⟨_, _, _, _, _, rfl⟩
    · rw [hend]
      exact ⟨_, _, _, _, _, rfl⟩
  | terminate outcome =>
    simp only [perform]
    split <;> exact ⟨_, _, _, _, _, rfl⟩
  | awaitEnd deadline outcome =>
    simp only [perform]
    split <;> split <;> exact ⟨_, _, _, _, _, rfl⟩
  | drainUntil deadline outcome =>
    simp only [perform]
    split <;> exact ⟨_, _, _, _, _, rfl⟩
  | drainPoll deadline quantum outcome =>
    simp only [perform]
    split <;> exact ⟨_, _, _, _, _, rfl⟩
  | _ => exact ⟨_, _, _, _, _, rfl⟩

/-- **What a task shares**: only the settling of the outcome touches more than the relay.  So
invariants of the rest of the shared part look at one task. -/
theorem shared_perform (s : Supervisor) (w : Worker σ) (seen : Observation) (task : Task)
    (htask : ∀ outcome, task ≠ .settle outcome) :
    ∃ relay, (perform s w seen task).shared = { s with relay } := by
  cases task with
  | openWait text =>
    -- a wait that cannot be opened, and an answer that is not given, leave all as it was
    simp only [perform]
    split
    · exact ⟨s.relay, rfl⟩
    · exact ⟨_, rfl⟩
  | autoAnswer =>
    simp only [perform]
    split
    · exact ⟨s.relay, rfl⟩
    · exact ⟨_, rfl⟩
  | flush => exact ⟨_, rfl⟩
  | checkPrompt =>
    simp only [perform]
    split
    · exact ⟨s.relay, rfl⟩
    · exact ⟨_, rfl⟩
  -- from here on the task looks at the process and the clock, and shares nothing
  | checkChild =>
    simp only [perform]
    split
    · exact ⟨s.relay, rfl⟩
    · split <;> exact ⟨s.relay, rfl⟩
  | terminate outcome =>
    simp only [perform]
    split <;> exact ⟨s.relay, rfl⟩
  | awaitEnd deadline outcome =>
    simp only [perform]
    split <;> split <;> exact ⟨s.relay, rfl⟩
  | drainUntil deadline outcome =>
    simp only [perform]
    split <;> exact ⟨s.relay, rfl⟩
  | drainPoll deadline quantum outcome =>
    simp only [perform]
    split <;> exact ⟨s.relay, rfl⟩
  | detach => exact ⟨_, rfl⟩
  | settle outcome => exact absurd rfl (htask outcome)
  | _ => exact ⟨s.relay, rfl⟩

/-! ## Section 4: Spec lemmas for steps -/

theorem worker_step (s : Supervisor) (w : Worker σ) (seen : Observation) :
    ∃ reader tail exited agenda report,
      (step s w seen).worker =
        { w.tellAll (published s w seen) with reader, tail, exited, agenda, report } := by
  cases hagenda : w.agenda with
  | nil =>
    simp only [step, published, hagenda]
    exact ⟨_, _, _, _, _, rfl⟩
  | cons task rest =>
    simp only [step, published, hagenda]
    exact worker_perform s { w with agenda := rest } seen task

/-- **What a step tells**: the sinks are handed the events that the step publishes, in order.  Which
these are does not depend on the sinks. -/
theorem fanout_step (s : Supervisor) (w : Worker σ) (seen : Observation) :
    (step s w seen).worker.fanout = (published s w seen).foldl Fanout.publish w.fanout := by
  obtain ⟨reader, tail, exited, agenda, report, hworker⟩ := worker_step s w seen
  rw [hworker]
  rfl

/-- A step keeps the command, the ticket and the process of a run. -/
theorem identity_step (s : Supervisor) (w : Worker σ) (seen : Observation) :
    (step s w seen).worker.command = w.command ∧ (step s w seen).worker.ticket = w.ticket ∧
      (step s w seen).worker.pid = w.pid := by
  obtain ⟨reader, tail, exited, agenda, report, hworker⟩ := worker_step s w seen
  rw [hworker]
  exact ⟨rfl, rfl, rfl⟩

end Worker

end Overseer
