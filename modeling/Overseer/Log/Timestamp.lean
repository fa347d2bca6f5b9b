/-!
# Timestamps

A moment as the clock of a place shows it: a date and a time of day in the proleptic Gregorian
calendar, and how far the clock there is ahead of the one at the zero meridian.

A moment is a number of milliseconds since the epoch together with the difference of the clocks,
because the same moment is written in another way at another place.
-/

namespace Overseer.Log

/-- A moment at a place.  It is `sinceEpoch` milliseconds behind the beginning of 1970, and the
clock there is `offset` seconds ahead, or behind if that is negative. -/
structure Moment where
  sinceEpoch : Int
  offset : Int
deriving DecidableEq

/-- A bare number of milliseconds is a moment at the zero meridian. -/
instance : Coe Int Moment := ⟨fun milliseconds => ⟨milliseconds, 0⟩⟩

/-- A date and a time of day, to the millisecond, and how many seconds the clock that shows them is
ahead.  Years are those of the common era, with a year zero. -/
structure Timestamp where
  year : Int
  month : Nat
  day : Nat
  hour : Nat
  minute : Nat
  second : Nat
  millisecond : Nat
  offset : Int
deriving DecidableEq

namespace Timestamp

/-- The date of a day that is counted from the first of January 1970.  Years are counted from
March on, so that a leap day is the last of its year, and four hundred years make an era. -/
def dateOf (day : Int) : Int × Nat × Nat :=
  let shifted := day + 719468
  let era := shifted / 146097
  let dayOfEra := (shifted % 146097).toNat
  let yearOfEra := (dayOfEra - dayOfEra / 1460 + dayOfEra / 36524 - dayOfEra / 146096) / 365
  let dayOfYear := dayOfEra - (365 * yearOfEra + yearOfEra / 4 - yearOfEra / 100)
  let monthFromMarch := (5 * dayOfYear + 2) / 153
  let dayOfMonth := dayOfYear - (153 * monthFromMarch + 2) / 5 + 1
  let month := if monthFromMarch < 10 then monthFromMarch + 3 else monthFromMarch - 9
  let year := era * 400 + yearOfEra
  (if month ≤ 2 then year + 1 else year, month, dayOfMonth)

/-- The timestamp of a moment, as the clock of its place shows it. -/
def ofMoment (moment : Moment) : Timestamp :=
  let shown := moment.sinceEpoch + 1000 * moment.offset
  let (year, month, day) := dateOf (shown / 86400000)
  let rest := (shown % 86400000).toNat
  ⟨year, month, day, rest / 3600000, rest / 60000 % 60, rest / 1000 % 60, rest % 1000,
    moment.offset⟩

/-- A number with zeros in front, up to a width. -/
def padded (width : Nat) (n : Nat) : String :=
  let digits := (toString n).toList
  String.ofList (List.replicate (width - digits.length) '0' ++ digits)

/-- The digits of the year, four at least.  A year that does not fit into four digits has its sign
in front, so that a reader can tell where it ends. -/
def yearText (t : Timestamp) : String :=
  let digits := padded 4 t.year.natAbs
  if t.year < 0 then "-" ++ digits else if t.year ≤ 9999 then digits else "+" ++ digits

/-- The date with its parts joined by `mark`. -/
def dateText (mark : String) (t : Timestamp) : String :=
  t.yearText ++ mark ++ padded 2 t.month ++ mark ++ padded 2 t.day

/-- The time of day with its parts joined by `mark`. -/
def timeText (mark : String) (t : Timestamp) : String :=
  padded 2 t.hour ++ mark ++ padded 2 t.minute ++ mark ++ padded 2 t.second

/-- How far the clock is ahead or behind, in hours and minutes; half a minute counts as one. -/
def offsetText (t : Timestamp) : String :=
  let minutes := (t.offset.natAbs + 30) / 60
  (if t.offset < 0 then "-" else "+") ++ padded 2 (minutes / 60) ++ ":" ++ padded 2 (minutes % 60)

/-- The timestamp as it stands in a log for people. -/
def plainText (t : Timestamp) : String :=
  t.dateText "-" ++ " " ++ t.timeText ":" ++ "." ++ padded 3 t.millisecond

/-- The timestamp as it stands in a structured log. -/
def recordText (t : Timestamp) : String :=
  t.dateText "-" ++ "T" ++ t.timeText ":" ++ "." ++ padded 3 t.millisecond ++ t.offsetText

/-- The timestamp as it stands in the name of a file.  There are no milliseconds in it, so two logs
that are opened within a second have one name. -/
def nameText (t : Timestamp) : String := t.dateText "" ++ "-" ++ t.timeText ""

end Timestamp

end Overseer.Log
