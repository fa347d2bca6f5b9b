import Overseer.Proofs.Supervisor.Narration

/-!
# Workers With Other Sinks

A worker hands events to the sinks of its run and never looks at them again.  Two workers that
differ in their sinks alone take the same steps: what they share, write and ask for is the same, and
they differ in their sinks alone behind it.

- `Worker.withFanout`: a worker with other sinks
- `Worker.perform_withFanout`: the same task
- `Worker.step_withFanout`: the same step
-/

namespace Overseer

namespace Worker

variable {σ : Type} [Sink σ]

/-- The worker with other sinks. -/
def withFanout (w : Worker σ) (fanout : Fanout σ) : Worker σ := { w with fanout }

section Fields

variable (w : Worker σ) (fanout : Fanout σ)

omit [Sink σ]

@[simp] theorem command_withFanout : (w.withFanout fanout).command = w.command := rfl

@[simp] theorem ticket_withFanout : (w.withFanout fanout).ticket = w.ticket := rfl

@[simp] theorem startedAt_withFanout : (w.withFanout fanout).startedAt = w.startedAt := rfl

@[simp] theorem reader_withFanout : (w.withFanout fanout).reader = w.reader := rfl

@[simp] theorem exited_withFanout : (w.withFanout fanout).exited = w.exited := rfl

@[simp] theorem agenda_withFanout : (w.withFanout fanout).agenda = w.agenda := rfl

end Fields

/-- The same step of a worker with other sinks. -/
def Stepped.withFanout (stepped : Stepped σ) (fanout : Fanout σ) : Stepped σ :=
  { stepped with worker := stepped.worker.withFanout fanout }

omit [Sink σ] in
theorem pollReader_withFanout (tuning : Tuning) (w : Worker σ) (fanout : Fanout σ)
    (deadline : Nat) :
    (w.withFanout fanout).pollReader tuning deadline =
      (w.pollReader tuning deadline).withFanout fanout := by
  rcases hpoll : w.reader.poll with ⟨found, reader⟩
  simp only [pollReader, reader_withFanout, hpoll]
  cases found with
  | idle => cases hprompt : reader.fragment?.any tuning.patterns.detects <;> rfl
  | _ => rfl

/-- The decision on the end of a run is the same with other sinks. -/
theorem decideEnd_withFanout (tuning : Tuning) (outstanding : Bool) (now : Nat) (w : Worker σ)
    (fanout : Fanout σ) :
    ∃ after, (w.withFanout fanout).decideEnd tuning outstanding now =
      (w.decideEnd tuning outstanding now).withFanout after := by
  simp only [decideEnd, exited_withFanout, reader_withFanout]
  -- no process end is known, a prompt waits, the output is closed, or it is held open: in each case
  -- the decision reads nothing of the sinks
  cases w.exited with
  | none => exact ⟨fanout, rfl⟩
  | some ending =>
    obtain ⟨code, noticed⟩ := ending
    by_cases houtstanding : outstanding = true
    · simp only [houtstanding, if_true]
      exact ⟨fanout, rfl⟩
    · by_cases hclosed : w.reader.closed = true
      · simp only [houtstanding, hclosed, if_true]
        exact ⟨fanout, rfl⟩
      · by_cases hgrace : noticed + tuning.gracePeriod ≤ now
        · -- only here something is told, the warning about the output that is held open
          simp only [houtstanding, hclosed, hgrace, if_true]
          exact ⟨_, rfl⟩
        · simp only [houtstanding, hclosed, hgrace, if_false]
          exact ⟨fanout, rfl⟩

/-- Whatever a task branches on is the same with other sinks, so that both workers take the same
branch. -/
theorem perform_withFanout (s : Supervisor) (w : Worker σ) (fanout : Fanout σ)
    (seen : Observation) (task : Task) :
    ∃ after, perform s (w.withFanout fanout) seen task =
      (perform s w seen task).withFanout after := by
  cases task with
  | poll deadline =>
    refine ⟨fanout, ?_⟩
    have hpoll := pollReader_withFanout s.tuning (w.only checks) fanout
      (seen.now + s.tuning.pollInterval)
    exact congrArg (fun worker : Worker σ => (⟨s, worker, [], none⟩ : Stepped σ)) hpoll
  -- it depends on the relay and on the command
  | openWait text =>
    simp only [perform, command_withFanout]
    cases s.relay.openWait? text seen.now w.command.promptTimeout with
    | none => exact ⟨_, rfl⟩
    | some opening =>
      obtain ⟨opened, relay⟩ := opening
      cases opened <;> exact ⟨_, rfl⟩
  | autoAnswer =>
    simp only [perform, command_withFanout]
    cases w.command.autoAnswer <;> exact ⟨_, rfl⟩
  | flush =>
    simp only [perform, foldl_tellNotice]
    exact ⟨_, rfl⟩
  | checkStop =>
    simp only [perform, ticket_withFanout]
    by_cases hstop : s.stopRequested w.ticket = true
    · simp only [hstop, if_true]
      exact ⟨_, rfl⟩
    · simp only [hstop]
      exact ⟨_, rfl⟩
  -- again the relay decides
  | checkPrompt =>
    simp only [perform, command_withFanout]
    rcases s.relay.takeExpired seen.now with ⟨expired, relay⟩
    cases expired <;> exact ⟨_, rfl⟩
  | checkTime =>
    -- the clock, against the start and the command
    simp only [perform, startedAt_withFanout, command_withFanout]
    by_cases htime : w.startedAt + w.command.timeout ≤ seen.now
    · simp only [htime, if_true]
      exact ⟨_, rfl⟩
    · simp only [htime, if_false]
      exact ⟨_, rfl⟩
  | checkChild =>
    -- what is known of the process
    simp only [perform, exited_withFanout]
    by_cases hexited : w.exited.isSome = true
    · simp only [hexited, if_true]
      exact ⟨_, rfl⟩
    · simp only [hexited]
      cases seen.child <;> exact ⟨_, rfl⟩
  | checkEnd =>
    obtain ⟨after, hafter⟩ :=
      decideEnd_withFanout s.tuning s.relay.outstanding seen.now w fanout
    simp only [perform, hafter]
    exact ⟨after, rfl⟩
  | terminate outcome =>
    -- behind the decision on an outcome: the process, the clock and the reader
    simp only [perform]
    cases seen.child <;> exact ⟨_, rfl⟩
  | awaitEnd deadline outcome =>
    simp only [perform]
    by_cases htime : seen.now < deadline
    · simp only [htime, if_true]
      cases seen.child <;> exact ⟨_, rfl⟩
    · simp only [htime, if_false]
      cases seen.child <;> exact ⟨_, rfl⟩
  | drainUntil deadline outcome =>
    simp only [perform]
    by_cases htime : seen.now < deadline
    · simp only [htime, if_true]
      exact ⟨_, rfl⟩
    · simp only [htime, if_false]
      exact ⟨_, rfl⟩
  | drainPoll deadline quantum outcome =>
    simp only [perform, reader_withFanout]
    cases w.reader.poll.1 <;> exact ⟨_, rfl⟩
  | _ => exact ⟨_, rfl⟩

/-- **The sinks of a run change nothing but themselves**: a worker with other sinks takes the same
step. -/
theorem step_withFanout (s : Supervisor) (w : Worker σ) (fanout : Fanout σ) (seen : Observation) :
    ∃ after, step s (w.withFanout fanout) seen = (step s w seen).withFanout after := by
  simp only [step, agenda_withFanout]
  cases hagenda : w.agenda with
  | nil => exact ⟨fanout, rfl⟩
  | cons task rest => exact perform_withFanout s { w with agenda := rest } fanout seen task

end Worker

end Overseer
