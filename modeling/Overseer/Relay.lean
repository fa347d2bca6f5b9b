import Overseer.Answer
import Overseer.Pipe

/-!
# Relaying Answers

The relay hands an answer to the process that waits for it.  It knows at most one wait: the prompt
that waits or the last one that was answered.  An answer is taken for a wait once, whether or not
it can be written, and what came of it is noted for the run to tell.

A wait that has its answer stays in the relay until the next prompt or the next run, so that a
second answer can be told from one that nobody asked for.  Attaching an input forgets everything
about the run before.
-/

namespace Overseer

/-- A prompt and what came of it.  It has its answer as soon as one was taken for it, even if that
could not be written.  Times are milliseconds. -/
structure PromptWait where
  text : String
  detectedAt : Nat
  expiresAt : Nat
  answer : Option Answer
deriving DecidableEq

/-- Whether the prompt has its answer. -/
def PromptWait.isResolved (w : PromptWait) : Bool := w.answer.isSome

/-- What came of an answer, as the run is to tell it.  Every answer that was taken has one notice.
-/
inductive Notice where
  | sent (answer : Answer)
  | failed (answer : Answer) (reason : String)
deriving DecidableEq

/-- What an observer reads about an answer that could not be sent. -/
def Notice.failureText (answer : Answer) (reason : String) : String :=
  "failed to send answer '" ++ answer.letter ++ "': " ++ reason

/-- The state of the relay.  It holds the only wait there is and the notices that the run has not
told yet. -/
structure Relay where
  /-- Whether the input of a process is attached. -/
  attached : Bool
  wait : Option PromptWait
  /-- What is still to be told, oldest first. -/
  notices : List Notice
deriving DecidableEq

namespace Relay

/-- A relay before any run. -/
def empty : Relay := ⟨false, none, []⟩

/-- Begins a run: everything about the run before is forgotten. -/
def attach (_ : Relay) : Relay := ⟨true, none, []⟩

/-- Whether a prompt waits for an answer.  While one does, no other is opened and the run does not
end by itself. -/
def outstanding (r : Relay) : Bool := r.wait.any fun w => !w.isResolved

/-- Ends a run.  A prompt without an answer is forgotten; an answered one is kept, so that a late
answer learns that it comes second. -/
def detach (r : Relay) : Relay :=
  -- No answer can reach the process any more.
  { r with attached := false, wait := if r.outstanding then none else r.wait }

/-- The times that a clock can show end here; later ones cannot be told apart from none. -/
def clockLimit : Nat := Nat.pow 2 63 * 1000

/-- Opens a wait for a prompt that was found at `now`.  The prompt that waits already is left
alone, and then the answer is `false`.  Nothing is opened when the clock cannot show the time at
which the wait would expire. -/
def openWait? (r : Relay) (text : String) (now timeout : Nat) : Option (Bool × Relay) :=
  if r.outstanding then some (false, r)
  else if now + timeout < clockLimit then
    some (true, { r with wait := some ⟨text, now, now + timeout, none⟩ })
  else none

/-- What came of supplying an answer: the relay after it, what the caller learns, and the bytes
that reached the process. -/
structure Supplied where
  relay : Relay
  result : Except AnswerError Answer
  arrived : List UInt8

/-- The reason given when no input is attached. -/
def closedReason : String := "child stdin is closed"

/-- Writes an answer to the attached input, which answers the calls as `replies` says.  Without an
input nothing is written, and the write fails. -/
def writeAnswer (r : Relay) (answer : Answer) (replies : PipeReplies) : Written :=
  if r.attached then replies.write answer.line.toUTF8.toList else ⟨[], some closedReason⟩

/-- Supplies an answer to the prompt that waits.  The wait gets the answer before it is known
whether it can be written, so that no second answer is written for the same prompt. -/
def supply (r : Relay) (answer : Answer) (replies : PipeReplies) : Supplied :=
  match r.wait with
  | none => ⟨r, .error .noPrompt, []⟩
  | some w =>
    if w.isResolved then ⟨r, .error .alreadyAnswered, []⟩
    else
      let written := r.writeAnswer answer replies
      -- This stands also when the write fails: bytes may have arrived by then.
      let wait := some { w with answer := some answer }
      match written.failure with
      | none =>
        ⟨{ r with wait, notices := r.notices ++ [.sent answer] }, .ok answer, written.arrived⟩
      | some reason =>
        ⟨{ r with wait, notices := r.notices ++ [.failed answer reason] },
          .error (.unwritten reason), written.arrived⟩

/-- Takes the prompt that waits if its time has run out.  A prompt with its answer does not expire.
-/
def takeExpired (r : Relay) (now : Nat) : Option PromptWait × Relay :=
  match r.wait with
  | none => (none, r)
  | some w =>
    if !w.isResolved && w.expiresAt ≤ now then (some w, { r with wait := none }) else (none, r)

/-- Takes what is to be told.  Each notice is taken once. -/
def takeNotices (r : Relay) : List Notice × Relay := (r.notices, { r with notices := [] })

end Relay

end Overseer
