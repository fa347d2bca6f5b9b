import Overseer.Text.Quoted

/-!
# Answers

The answers that a confirmation prompt takes, and why an answer can be refused.

A text is an answer only when it is one of the two letters, without a blank or a newline; what is
written to the process has a newline behind the letter.  The errors are those that a caller may be
shown, with the texts that it is shown.
-/

namespace Overseer

/-- An answer to a prompt. -/
inductive Answer where
  | yes
  | no
deriving DecidableEq

/-- Why an answer was not handed on. -/
inductive AnswerError where
  /-- No prompt was ever open since the run began. -/
  | noPrompt
  /-- The last prompt has its answer. -/
  | alreadyAnswered
  /-- The text is no answer. -/
  | invalid (text : String)
  /-- The answer could not be written to the process. -/
  | unwritten (reason : String)
deriving DecidableEq

namespace Answer

/-- The letter of an answer. -/
def letter : Answer → String
  | .yes => "y"
  | .no => "n"

/-- The answer with a letter.  The text is compared as it is: a blank or a capital makes it no
answer. -/
def ofText (text : String) : Except AnswerError Answer :=
  if text = "y" then .ok .yes
  else if text = "n" then .ok .no
  else .error (.invalid text)

/-- What is written to a process that waits for the answer. -/
def line (a : Answer) : String := a.letter ++ "\n"

end Answer

/-- The text of an error. -/
def AnswerError.message : AnswerError → String
  | .noPrompt => "no prompt is waiting for an answer"
  | .alreadyAnswered => "the prompt was already answered"
  | .invalid text => "invalid answer " ++ Text.quoted text ++ ": expected \"y\" or \"n\""
  | .unwritten reason => "failed to write answer to the child: " ++ reason

end Overseer
