/-!
# Digits

Numbers as digits write them, in any base up to thirty-six.
-/

namespace Overseer.Text

/-- The value of a character as a digit; the case of a letter does not matter.  What is no digit
has a value that no base reaches. -/
def digitValue (c : Char) : Nat :=
  if c.isDigit then c.toNat - '0'.toNat
  else if c.isLower then c.toNat - 'a'.toNat + 10
  else if c.isUpper then c.toNat - 'A'.toNat + 10
  else 36

/-- Whether a character is a digit in a base. -/
def isDigitIn (base : Nat) (c : Char) : Bool := digitValue c < base

/-- The number that digits write in a base, the most significant digit first. -/
def numberIn (base : Nat) (digits : List Char) : Nat :=
  digits.foldl (fun n c => n * base + digitValue c) 0

/-- The number that a text of decimal digits alone writes. -/
def decimal? (s : List Char) : Option Nat :=
  if !s.isEmpty && s.all Char.isDigit then some (numberIn 10 s) else none

/-- The number that digits write at the start of a text, at most `count` of them, and the text
behind them. -/
def takeNumber? (base count : Nat) (s : List Char) : Option (Nat × List Char) :=
  let digits := (s.take count).takeWhile (isDigitIn base)
  if digits.isEmpty then none else some (numberIn base digits, s.drop digits.length)

/-- One more digit behind the others is the least significant one. -/
theorem numberIn_append_singleton (base : Nat) (digits : List Char) (c : Char) :
    numberIn base (digits ++ [c]) = numberIn base digits * base + digitValue c := by
  simp [numberIn]

end Overseer.Text
