import Overseer.Text.Digits
import Overseer.Toml.Basic

/-!
# TOML Scalars

The values that are written without quotes or brackets: truth values, integers in four bases,
floats, dates and times.

The kind of a value decides whether a setting can take it, so floats and times have to be recognized
although no setting is one.
-/

namespace Overseer.Toml

/-- Digits without the single underscores between them.  `behind` tells whether a digit stands
right before. -/
def dropUnderscores (base : Nat) : Bool → List Char → Option (List Char)
  | behind, [] => if behind then some [] else none
  | behind, '_' :: s => if behind then dropUnderscores base false s else none
  | _, c :: s =>
    if Text.isDigitIn base c then (dropUnderscores base true s).map (c :: ·) else none

/-- The number that digits in a base write, single underscores between them allowed. -/
def number? (base : Nat) (s : List Char) : Option Nat :=
  (dropUnderscores base false s).map (Text.numberIn base)

/-- The number that decimal digits without a needless zero write. -/
def decimal? (s : List Char) : Option Nat :=
  if s.head? == some '0' && s.length > 1 then none else number? 10 s

/-- A sign and what follows it. -/
def splitSign : List Char → Option Bool × List Char
  | '+' :: s => (some false, s)
  | '-' :: s => (some true, s)
  | s => (none, s)

/-- The greatest size of an integer: all integers of 128 bits fit. -/
def integerLimit : Nat := Nat.pow 2 128

/-- An integer in any base.  Only decimal ones have a sign. -/
def integer? (s : List Char) : Option Int := do
  let (sign, digits) := splitSign s
  let size ← match sign, digits with
    | none, '0' :: 'x' :: s => number? 16 s
    | none, '0' :: 'o' :: s => number? 8 s
    | none, '0' :: 'b' :: s => number? 2 s
    | _, s => decimal? s
  if size < integerLimit then some (if sign == some true then -(size : Int) else size) else none

/-- Whether a text is an exponent after its letter. -/
def isExponent (s : List Char) : Bool := (number? 10 (splitSign s).2).isSome

/-- Whether a text writes a float: digits with a fraction, an exponent or both, or one of the
words for what is no number. -/
def isFloat (s : List Char) : Bool :=
  let s := (splitSign s).2
  if s == "inf".toList || s == "nan".toList then true
  else
    let isMark := fun c => c == 'e' || c == 'E'
    let mantissa := s.takeWhile fun c => !isMark c
    let exponent := s.drop mantissa.length
    let whole := mantissa.takeWhile (· != '.')
    let fraction := mantissa.drop whole.length
    (decimal? whole).isSome && !(fraction.isEmpty && exponent.isEmpty) &&
      (fraction.isEmpty || (number? 10 (fraction.drop 1)).isSome) &&
      (exponent.isEmpty || isExponent (exponent.drop 1))

/-! ## Dates and times -/

/-- The number of exactly `count` digits at the start of a text. -/
def fixedDigits? (count : Nat) (s : List Char) : Option (Nat × List Char) :=
  let digits := s.take count
  if digits.length = count && digits.all Char.isDigit then
    some (Text.numberIn 10 digits, s.drop count)
  else none

/-- How many days a month has. -/
def daysIn (year month : Nat) : Nat :=
  if month = 2 then
    if year % 4 = 0 && (year % 100 != 0 || year % 400 = 0) then 29 else 28
  else if [4, 6, 9, 11].contains month then 30
  else 31

/-- What follows a date at the start of a text. -/
def afterDate? (s : List Char) : Option (List Char) := do
  let (year, s) ← fixedDigits? 4 s
  match s with
  | '-' :: s => do
    let (month, s) ← fixedDigits? 2 s
    match s with
    | '-' :: s => do
      let (day, s) ← fixedDigits? 2 s
      if 1 ≤ month && month ≤ 12 && 1 ≤ day && day ≤ daysIn year month then some s else none
    | _ => none
  | _ => none

/-- What follows the fraction of a second. -/
def afterFraction? : List Char → Option (List Char)
  | '.' :: s =>
    let digits := s.takeWhile Char.isDigit
    if digits.isEmpty then none else some (s.drop digits.length)
  | s => some s

/-- What follows a time of day at the start of a text. -/
def afterTime? (s : List Char) : Option (List Char) := do
  let (hour, s) ← fixedDigits? 2 s
  match s with
  | ':' :: s => do
    let (minute, s) ← fixedDigits? 2 s
    if hour ≤ 23 && minute ≤ 59 then
      match s with
      | ':' :: s => do
        let (second, s) ← fixedDigits? 2 s
        if second ≤ 60 then afterFraction? s else none
      | s => some s
    else none
  | _ => none

/-- Whether a text is empty or the distance of a time from the zero meridian. -/
def isOffset : List Char → Bool
  | [] => true
  | ['Z'] | ['z'] => true
  | c :: s =>
    (c == '+' || c == '-') &&
      match fixedDigits? 2 s with
      | some (hour, ':' :: s) =>
        match fixedDigits? 2 s with
        | some (minute, []) => hour ≤ 23 && minute ≤ 59
        | _ => false
      | _ => false

/-- Whether a text writes a date, a time or both. -/
def isTime (s : List Char) : Bool :=
  match afterDate? s with
  | some [] => true
  | some (c :: s) =>
    (c == 'T' || c == 't' || c == ' ') && (afterTime? s).any isOffset
  | none => afterTime? s == some []

/-- Whether a character may stand in a scalar. -/
def isScalarChar (c : Char) : Bool := c.isAlphanum || "+-_.:".toList.contains c

/-- The text of a scalar at the start of a text, and the rest.  A date and a time may stand on
both sides of a blank. -/
def scalarText (s : List Char) : List Char × List Char :=
  let word := s.takeWhile isScalarChar
  match afterDate? word, s.drop word.length with
  | some [], ' ' :: c :: rest =>
    if c.isDigit then
      let more := (c :: rest).takeWhile isScalarChar
      (word ++ ' ' :: more, (c :: rest).drop more.length)
    else (word, ' ' :: c :: rest)
  | _, rest => (word, rest)

/-- The value of a scalar. -/
def scalar? (s : List Char) : Option Toml :=
  if s == "true".toList then some (.boolean true)
  else if s == "false".toList then some (.boolean false)
  else
    match integer? s with
    | some n => some (.integer n)
    | none => if isFloat s then some .float else if isTime s then some .time else none

end Overseer.Toml
