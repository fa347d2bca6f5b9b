import Overseer.Relay

/-!
# What Supplying an Answer Does

A supply is one of three things: it finds no wait, it finds a wait that has its answer, or it
finds a wait without one and writes.  Only the last changes anything, and whatever the pipe does,
what arrives is the start of the answer's line.

- `PipeReplies.write_begins`, `PipeReplies.write_whole`: what arrives of a write
- `Relay.supply_noPrompt`, `Relay.supply_alreadyAnswered`: supplies that change nothing
- `Relay.supply_outstanding`: the supply that writes
-/

namespace Overseer

/-! ## Section 1: Writing into a pipe

A pipe answers each of the writes that delivering a line takes: it may take some of the bytes,
interrupt, or break.  The write goes on until everything is delivered or the pipe breaks, so what
arrives is always a beginning. -/

/-- A write that went well delivers everything. -/
theorem writeAll_whole (replies : List WriteReply) (bytes : List UInt8)
    (h : (writeAll replies bytes).failure = none) : (writeAll replies bytes).arrived = bytes := by
  fun_induction writeAll replies bytes with
  | case1 => rfl
  | case2 => rfl
  | case3 _ _ _ ih => exact ih h
  | case4 => cases h
  | case5 => cases h
  | case6 count replies bytes _ later ih =>
    -- the bytes of this call, and then those of the later calls
    rw [ih h, List.take_append_drop]

namespace PipeReplies

theorem write_arrived (replies : PipeReplies) (bytes : List UInt8) :
    (replies.write bytes).arrived = (writeAll replies.writes bytes).arrived := by
  simp only [write]
  split <;> rfl

theorem write_begins (replies : PipeReplies) (bytes : List UInt8) :
    (replies.write bytes).arrived <+: bytes := by
  rw [write_arrived]
  exact writeAll_arrived_prefix replies.writes bytes

theorem write_whole (replies : PipeReplies) (bytes : List UInt8)
    (h : (replies.write bytes).failure = none) : (replies.write bytes).arrived = bytes := by
  rw [write_arrived]
  refine writeAll_whole replies.writes bytes ?_
  simp only [write] at h
  split at h
  · next reason hfailed => exact absurd (hfailed.symm.trans h) nofun
  · next hwritten => exact hwritten

end PipeReplies

/-! ## Section 2: Supplying an answer

Each lemma is one of the cases of a supply with all that it does, so that what uses a supply never
opens its definition. -/

namespace Relay

variable {r : Relay} {answer : Answer} {replies : PipeReplies} {w : PromptWait}

/-- The bytes of an answer as they are written. -/
def lineBytes (answer : Answer) : List UInt8 := answer.line.toUTF8.toList

theorem outstanding_iff : r.outstanding = true ↔ ∃ w, r.wait = some w ∧ w.isResolved = false := by
  simp only [outstanding, Option.any_eq_true, Bool.not_eq_true']

theorem writeAnswer_begins : (r.writeAnswer answer replies).arrived <+: lineBytes answer := by
  simp only [writeAnswer]
  split
  · exact replies.write_begins _
  · exact List.nil_prefix

theorem writeAnswer_whole (h : (r.writeAnswer answer replies).failure = none) :
    (r.writeAnswer answer replies).arrived = lineBytes answer := by
  simp only [writeAnswer] at h ⊢
  split at h
  · next hattached =>
    rw [if_pos hattached]
    exact replies.write_whole _ h
  · exact absurd h nofun

theorem writeAnswer_detached (h : r.attached = false) :
    (r.writeAnswer answer replies).arrived = [] := by
  simp only [writeAnswer, h, Bool.false_eq_true, if_false]

theorem supply_noPrompt (h : r.wait = none) :
    r.supply answer replies = ⟨r, .error .noPrompt, []⟩ := by
  simp only [supply, h]

theorem supply_alreadyAnswered (h : r.wait = some w) (hw : w.isResolved = true) :
    r.supply answer replies = ⟨r, .error .alreadyAnswered, []⟩ := by
  simp only [supply, h, hw, if_true]

/-- The supply that writes: it settles the wait and tells what came of it, and what the caller
learns fits what arrived. -/
theorem supply_outstanding (answer : Answer) (replies : PipeReplies) (h : r.wait = some w)
    (hw : w.isResolved = false) :
    ∃ notice result,
      r.supply answer replies =
        ⟨{ r with wait := some { w with answer := some answer }, notices := r.notices ++ [notice] },
          result, (r.writeAnswer answer replies).arrived⟩ ∧
      (∀ acknowledged, result = .ok acknowledged →
        acknowledged = answer ∧ (r.writeAnswer answer replies).arrived = lineBytes answer) := by
  simp only [supply, h, hw, Bool.false_eq_true, if_false]
  -- what was written as a whole is acknowledged, and otherwise the reason is told
  cases hfailure : (r.writeAnswer answer replies).failure with
  | none =>
    refine ⟨.sent answer, .ok answer, rfl, fun acknowledged hok => ?_⟩
    exact ⟨(Except.ok.inj hok).symm, writeAnswer_whole hfailure⟩
  | some reason => exact ⟨.failed answer reason, .error (.unwritten reason), rfl, nofun⟩

/-- A supply that finds nothing outstanding leaves everything as it was. -/
theorem supply_idle (h : r.outstanding = false) :
    (r.supply answer replies).relay = r ∧ (r.supply answer replies).arrived = [] := by
  cases hwait : r.wait with
  | none => simp only [supply_noPrompt hwait, and_self]
  | some w =>
    have hw : w.isResolved = true := by simpa [outstanding, hwait] using h
    simp only [supply_alreadyAnswered hwait hw, and_self]

/-- Nothing arrives where no input is attached. -/
theorem supply_detached (h : r.attached = false) : (r.supply answer replies).arrived = [] := by
  cases hidle : r.outstanding with
  | false => exact (supply_idle hidle).2
  | true =>
    obtain ⟨w, hwait, hw⟩ := outstanding_iff.mp hidle
    obtain ⟨notice, result, hsupply, -⟩ :=
      supply_outstanding answer replies hwait hw
    rw [hsupply]
    exact writeAnswer_detached h

/-- After a supply nothing is outstanding. -/
theorem supply_settles : (r.supply answer replies).relay.outstanding = false := by
  cases hidle : r.outstanding with
  | false => rw [(supply_idle hidle).1, hidle]
  | true =>
    obtain ⟨w, hwait, hw⟩ := outstanding_iff.mp hidle
    obtain ⟨notice, result, hsupply, -⟩ :=
      supply_outstanding answer replies hwait hw
    rw [hsupply]
    rfl

theorem supply_attached : (r.supply answer replies).relay.attached = r.attached := by
  cases hidle : r.outstanding with
  | false => rw [(supply_idle hidle).1]
  | true =>
    obtain ⟨w, hwait, hw⟩ := outstanding_iff.mp hidle
    obtain ⟨notice, result, hsupply, -⟩ :=
      supply_outstanding answer replies hwait hw
    rw [hsupply]

end Relay

end Overseer
