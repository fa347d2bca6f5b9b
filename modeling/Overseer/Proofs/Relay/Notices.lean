import Overseer.Proofs.Relay.History

/-!
# The Notices of a Relay

A supply that writes leaves one notice of what came of it, and the run takes the notices to tell
them.  As long as no other input is attached, no notice is lost, invented, doubled or moved: those
that were taken and those that are still to be taken are, in order, one for each supply that wrote,
and each says what that supply said to its caller.

- `Relay.notices_supply`: the notice of a supply
- `History.notices_step`: one call keeps the account
- `History.conserves_notices`: so do all calls but an attachment
-/

namespace Overseer.Relay

/-! ## Section 1: The notice of a supply

What a caller learns and what the run is told come from the same write, and agree: the notice of a
failure has the reason that the caller is told.  A refusal is between the relay and the caller. -/

/-- What a supply of an answer is to be told as, by what its caller learns.  Of a supply that is
refused nothing is told. -/
def Supplied.notice? (supplied : Supplied) (answer : Answer) : Option Notice :=
  match supplied.result with
  | .ok _ => some (.sent answer)
  | .error (.unwritten reason) => some (.failed answer reason)
  | .error _ => none

/-- A supply tells something exactly if it finds a prompt that waits. -/
theorem isSome_notice?_supply (r : Relay) (answer : Answer) (replies : PipeReplies) :
    ((r.supply answer replies).notice? answer).isSome = r.outstanding := by
  cases hwait : r.wait with
  -- nobody waits, the wait has its answer, or the supply settles it and says what came of it
  | none =>
    rw [supply_noPrompt hwait, outstanding, hwait]
    rfl
  | some w =>
    cases hresolved : w.isResolved with
    | true =>
      rw [supply_alreadyAnswered hwait hresolved, outstanding, hwait, Option.any_some, hresolved]
      rfl
    | false =>
      rw [outstanding, hwait, Option.any_some, hresolved]
      simp only [supply, hwait, hresolved, Bool.false_eq_true, if_false]
      cases (r.writeAnswer answer replies).failure <;> rfl

/-- **A supply adds its notice** to those that are still to be told. -/
theorem notices_supply (r : Relay) (answer : Answer) (replies : PipeReplies) :
    (r.supply answer replies).relay.notices =
      r.notices ++ ((r.supply answer replies).notice? answer).toList := by
  unfold supply
  split
  · exact (List.append_nil _).symm
  · split
    · exact (List.append_nil _).symm
    · -- the answer is written, and the writing succeeds or fails
      dsimp only
      split <;> rfl

theorem notices_takeExpired (r : Relay) (now : Nat) :
    (r.takeExpired now).2.notices = r.notices := by
  unfold takeExpired
  split
  · rfl
  · split <;> rfl

/-! ## Section 2: One call

The books of one call: the notices before, with the one that the call adds, are those that it takes
and those that it leaves. -/

/-- What is to be told of a supply. -/
def Attempt.notice? (s : Attempt) : Option Notice := s.made.notice? s.answer

/-- The notices that a call takes. -/
def Call.taken (r : Relay) : Call → List Notice
  | .takeNotices => r.takeNotices.1
  | _ => []

namespace History

variable {h : History} {call : Call}

/-- The supply that a call makes. -/
def attempt? (h : History) : Call → Option Attempt
  | .supply answer replies => some (h.attempt answer replies)
  | _ => none

theorem supplies_step (h : History) (call : Call) :
    (h.step call).supplies = h.supplies ++ (h.attempt? call).toList := by
  cases call with
  | openWait text now timeout =>
    rcases step_openWait text now timeout with hstep | hstep <;> rw [hstep]
    · exact (List.append_nil _).symm
    · exact (List.append_nil _).symm
  | supply answer replies => rfl
  | _ => exact (List.append_nil _).symm

/-- **One call keeps the account** of the notices, unless it attaches another input. -/
theorem notices_step (hcall : call ≠ .attach) :
    call.taken h.relay ++ (h.step call).relay.notices =
      h.relay.notices ++ (h.attempt? call).toList.filterMap Attempt.notice? := by
  cases call with
  | attach => exact absurd rfl hcall
  | detach => exact (List.append_nil _).symm
  | openWait text now timeout =>
    rcases step_openWait text now timeout with hstep | hstep <;> rw [hstep]
    · exact (List.append_nil _).symm
    · exact (List.append_nil _).symm
  | supply answer replies =>
    show (h.relay.supply answer replies).relay.notices =
      h.relay.notices ++ [h.attempt answer replies].filterMap Attempt.notice?
    rw [notices_supply, List.filterMap_cons]
    -- the notice of the one supply is there or is not
    unfold Attempt.notice? attempt
    cases (h.relay.supply answer replies).notice? answer <;> rfl
  | takeExpired now =>
    show (h.relay.takeExpired now).2.notices = h.relay.notices ++ []
    rw [notices_takeExpired, List.append_nil]
  | takeNotices => rfl

/-! ## Section 3: Any calls

An attachment throws away what was not taken, so it stands apart; between two of them, which is one
run, the account is kept over any calls. -/

/-- All notices that calls take, in order. -/
def taken : History → List Call → List Notice
  | _, [] => []
  | h, call :: calls => call.taken h.relay ++ taken (h.step call) calls

/-- All supplies that calls make, in order. -/
def attempts : History → List Call → List Attempt
  | _, [] => []
  | h, call :: calls => (h.attempt? call).toList ++ attempts (h.step call) calls

theorem supplies_foldl (h : History) (calls : List Call) :
    (calls.foldl step h).supplies = h.supplies ++ h.attempts calls := by
  induction calls generalizing h with
  | nil => exact (List.append_nil _).symm
  | cons call calls ih =>
    rw [List.foldl_cons, ih, supplies_step, List.append_assoc]
    rfl

theorem notices_foldl {calls : List Call} (hcalls : .attach ∉ calls) :
    h.taken calls ++ (calls.foldl step h).relay.notices =
      h.relay.notices ++ (h.attempts calls).filterMap Attempt.notice? := by
  induction calls generalizing h with
  | nil => exact (List.append_nil _).symm
  | cons call calls ih =>
    obtain ⟨hcall, hrest⟩ : .attach ≠ call ∧ .attach ∉ calls := by
      simpa only [List.mem_cons, not_or] using hcalls
    -- what the other calls leave begins with what this call leaves
    calc h.taken (call :: calls) ++ ((call :: calls).foldl step h).relay.notices
        = call.taken h.relay ++
            ((h.step call).taken calls ++ (calls.foldl step (h.step call)).relay.notices) :=
          List.append_assoc ..
      _ = call.taken h.relay ++ (h.step call).relay.notices ++
            ((h.step call).attempts calls).filterMap Attempt.notice? := by
          rw [ih hrest, List.append_assoc]
      _ = h.relay.notices ++ (h.attempts (call :: calls)).filterMap Attempt.notice? := by
          rw [notices_step (Ne.symm hcall), List.append_assoc, ← List.filterMap_append]
          rfl

/-- Each supply is that of an answer to the relay that it found. -/
theorem exists_supply_of_mem_attempts {calls : List Call} {s : Attempt}
    (hs : s ∈ h.attempts calls) : ∃ replies, s.made = s.found.supply s.answer replies := by
  induction calls generalizing h with
  | nil => exact absurd hs List.not_mem_nil
  | cons call calls ih =>
    rcases List.mem_append.mp hs with hs | hs
    · cases call with
      | supply answer replies =>
        cases List.mem_singleton.mp hs
        exact ⟨replies, rfl⟩
      | _ => exact absurd hs List.not_mem_nil
    · exact ih hs

/-- What became of the notices in a number of calls. -/
structure Conserves (h : History) (calls : List Call) : Prop where
  /-- The notices that were taken and those that are still to be taken are, in order, those that
  were there and those of the supplies. -/
  account : h.taken calls ++ (calls.foldl step h).relay.notices =
    h.relay.notices ++ (h.attempts calls).filterMap Attempt.notice?
  /-- The supplies are those that the history notes. -/
  supplied : (calls.foldl step h).supplies = h.supplies ++ h.attempts calls
  /-- A supply has a notice exactly if it found a prompt to write the answer of. -/
  written : ∀ s ∈ h.attempts calls, s.notice?.isSome = s.writes

/-- **Notices are conserved** by any calls that attach no other input.  Taking them moves them from
the relay to whoever tells them, and nothing else takes any away. -/
theorem conserves_notices (h : History) (calls : List Call) (hcalls : .attach ∉ calls) :
    h.Conserves calls := by
  constructor
  case account => exact notices_foldl hcalls
  case supplied => exact supplies_foldl h calls
  case written =>
    intro s hs
    obtain ⟨replies, hmade⟩ := exists_supply_of_mem_attempts hs
    unfold Attempt.notice? Attempt.writes
    rw [hmade]
    exact isSome_notice?_supply s.found s.answer replies

/-- A prompt is answered twice, and behind the end of the run another prompt once. -/
def lateCalls : List Call :=
  [.openWait "ok?" 0 1000, .supply .yes ⟨[.accepts 1], none⟩, .supply .no ⟨[], none⟩, .takeNotices,
    .openWait "sure?" 5 1000, .takeExpired 2000, .detach, .openWait "sure?" 3000 1000,
    .supply .no ⟨[], none⟩]

/-- The notice of the first answer is taken, the second answer has none, and that of the third says
that there was no input. -/
theorem conserves_lateCalls :
    .attach ∉ lateCalls ∧ (start.step .attach).Conserves lateCalls ∧
      (start.step .attach).taken lateCalls = [.sent .yes] ∧
      (lateCalls.foldl step (start.step .attach)).relay.notices = [.failed .no closedReason] := by
  have hcalls : .attach ∉ lateCalls := by simp [lateCalls]
  exact ⟨hcalls, conserves_notices _ lateCalls hcalls, by decide +kernel, by decide +kernel⟩

end History

end Overseer.Relay
