/-!
# Writing Into a Pipe

A writer hands bytes to the other end of a pipe in as many calls as the other end needs.  The
other end answers each call: it accepts some bytes, asks to be called again or fails.

A write is given the answers to its calls beforehand.  So a statement about all writes is one about
all lists of answers, among them those that no pipe of the machine ever gives.
-/

namespace Overseer

/-- The answer to one write call.  A call may accept fewer bytes than it was given, and then the
rest is written by another call. -/
inductive WriteReply where
  | accepts (count : Nat)
  | again
  | fails (reason : String)
deriving DecidableEq

/-- How the other end answers the calls of one write and the flush after it.  Calls past the end
of the list are accepted whole. -/
structure PipeReplies where
  writes : List WriteReply
  flush : Option String
deriving DecidableEq

/-- What came of a write: the bytes that arrived, and why the others did not.  Bytes may have
arrived although the write has failed. -/
structure Written where
  arrived : List UInt8
  failure : Option String
deriving DecidableEq

/-- The reason given when a call accepts nothing. -/
def stuckReason : String := "failed to write whole buffer"

/-- Writes all bytes, one call after the other.  A call that is to be made again loses nothing, and
one that accepts nothing ends the write. -/
def writeAll : List WriteReply → List UInt8 → Written
  | _, [] => ⟨[], none⟩
  | [], bytes => ⟨bytes, none⟩
  | .again :: replies, bytes => writeAll replies bytes
  | .fails reason :: _, _ => ⟨[], some reason⟩
  | .accepts 0 :: _, _ => ⟨[], some stuckReason⟩
  | .accepts (count + 1) :: replies, bytes =>
    let later := writeAll replies (bytes.drop (count + 1))
    ⟨bytes.take (count + 1) ++ later.arrived, later.failure⟩

/-- Writes all bytes and, if that went well, flushes them. -/
def PipeReplies.write (replies : PipeReplies) (bytes : List UInt8) : Written :=
  let written := writeAll replies.writes bytes
  match written.failure with
  | some _ => written
  | none => ⟨written.arrived, replies.flush⟩

/-- The bytes that arrive are the first ones of those written. -/
theorem writeAll_arrived_prefix (replies : List WriteReply) (bytes : List UInt8) :
    (writeAll replies bytes).arrived <+: bytes := by
  fun_induction writeAll replies bytes with
  | case1 => exact List.prefix_rfl
  | case2 => exact List.prefix_rfl
  | case3 _ _ _ ih => exact ih
  | case4 => exact List.nil_prefix
  | case5 => exact List.nil_prefix
  | case6 count replies bytes _ later ih =>
    obtain ⟨rest, h⟩ := ih
    exact ⟨rest, by rw [List.append_assoc, h, List.take_append_drop]⟩

/-- A pipe that answers every call in the same way. -/
inductive Pipe where
  /-- Everything is accepted. -/
  | sound
  /-- Every call fails. -/
  | broken (reason : String)
  /-- No call accepts a byte. -/
  | stuck
  /-- Each call accepts one byte. -/
  | narrow
  /-- Everything is accepted and no flush succeeds. -/
  | unflushable (reason : String)
deriving DecidableEq

/-- The answers of a pipe to the calls that write `count` bytes. -/
def Pipe.replies (count : Nat) : Pipe → PipeReplies
  | .sound => ⟨[], none⟩
  | .broken reason => ⟨[.fails reason], none⟩
  | .stuck => ⟨[.accepts 0], none⟩
  | .narrow => ⟨List.replicate count (.accepts 1), none⟩
  | .unflushable reason => ⟨[], some reason⟩

/-- Writes bytes into a pipe and flushes them. -/
def Pipe.write (pipe : Pipe) (bytes : List UInt8) : Written :=
  (pipe.replies bytes.length).write bytes

end Overseer
