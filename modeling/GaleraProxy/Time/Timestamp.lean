/-!
# Points in time

A timestamp counts the seconds since 1970 in universal time, without leap seconds; more than a
second's worth of nanoseconds marks a leap second. `Timestamp.text` is its date and time of day to
the second.
-/

namespace GaleraProxy

/-- A point in universal time. -/
structure Timestamp where
  seconds : Int
  nanos : Nat
  deriving DecidableEq, Repr

namespace Timestamp

/-- The year, month and day of a day counted from 1970. The year is taken to begin in March, so that
the leap day is its last day. -/
def civilDate (day : Int) : Int × Nat × Nat :=
  let shifted := day + 719468
  let era := shifted.fdiv 146097
  let dayOfEra := (shifted.fmod 146097).toNat
  let yearOfEra := (dayOfEra - dayOfEra / 1460 + dayOfEra / 36524 - dayOfEra / 146096) / 365
  let dayOfYear := dayOfEra - (365 * yearOfEra + yearOfEra / 4 - yearOfEra / 100)
  let marchMonth := (5 * dayOfYear + 2) / 153
  let dayOfMonth := dayOfYear - (153 * marchMonth + 2) / 5 + 1
  let month := if marchMonth < 10 then marchMonth + 3 else marchMonth - 9
  let year := (yearOfEra : Int) + era * 400 + (if month ≤ 2 then 1 else 0)
  (year, month, dayOfMonth)

/-- A number with at least `width` digits. -/
def padded (width n : Nat) : String :=
  let digits := Nat.toDigits 10 n
  String.ofList (List.replicate (width - digits.length) '0' ++ digits)

/-- The text of a year: four digits, with a sign outside of four digits. -/
def yearText (year : Int) : String :=
  if year < 0 then "-" ++ padded 4 year.natAbs
  else if 9999 < year then "+" ++ padded 4 year.natAbs
  else padded 4 year.natAbs

/-- The date and time of day up to the second. -/
def upToSecond (t : Timestamp) : String :=
  let (year, month, day) := civilDate (t.seconds.fdiv 86400)
  let second := (t.seconds.fmod 86400).toNat
  let leap := if 1000000000 ≤ t.nanos then 1 else 0
  yearText year ++ "-" ++ padded 2 month ++ "-" ++ padded 2 day ++ "T"
    ++ padded 2 (second / 3600) ++ ":" ++ padded 2 (second / 60 % 60) ++ ":"
    ++ padded 2 (second % 60 + leap)

/-- The date and time of day. -/
def text (t : Timestamp) : String := t.upToSecond ++ "Z"

/-- The date and time of day with microseconds. -/
def microText (t : Timestamp) : String :=
  t.upToSecond ++ "." ++ padded 6 (t.nanos % 1000000000 / 1000) ++ "Z"

end Timestamp

end GaleraProxy
