/-!
# Calendar time

The date and the time of day of an instant, given in milliseconds from the start of 1970 (UTC), in
the calendar of today carried back and forward without a break.
-/

namespace Outbox

/-- A date and a time of day. -/
structure CivilTime where
  year : Int
  month : Nat
  day : Nat
  hour : Nat
  minute : Nat
  second : Nat
  millisecond : Nat
  deriving DecidableEq, Repr

namespace CivilTime

/-- The years that have a calendar date: from the first one to the last one. -/
def firstYear : Int := -262143

/-- The last year that has a calendar date. -/
def lastYear : Int := 262142

/-- The year, month and day that lie `days` days after the first of January 1970. A count of days
from the first of March of a year divisible by 400 is split into eras of 400 years. -/
def dateOfDays (days : Int) : Int × Nat × Nat :=
  let z := days + 719468
  let era := z / 146097
  let dayOfEra := (z % 146097).toNat
  let yearOfEra :=
    (dayOfEra - dayOfEra / 1460 + dayOfEra / 36524 - dayOfEra / 146096) / 365
  let dayOfYear := dayOfEra - (365 * yearOfEra + yearOfEra / 4 - yearOfEra / 100)
  let shifted := (5 * dayOfYear + 2) / 153
  let day := dayOfYear - (153 * shifted + 2) / 5 + 1
  let month := if shifted < 10 then shifted + 3 else shifted - 9
  (yearOfEra + era * 400 + (if month ≤ 2 then 1 else 0), month, day)

/-- The calendar time of an instant, if its year has calendar dates. -/
def ofMillis? (instant : Int) : Option CivilTime :=
  let (year, month, day) := dateOfDays (instant / 86400000)
  let ms := (instant % 86400000).toNat
  if firstYear ≤ year ∧ year ≤ lastYear then
    some ⟨year, month, day, ms / 3600000, ms / 60000 % 60, ms / 1000 % 60, ms % 1000⟩
  else none

/-- A number with zeros in front up to the width. -/
def padded (width n : Nat) : String :=
  let digits := Nat.toDigits 10 n
  String.ofList (List.replicate (width - digits.length) '0' ++ digits)

/-- A year of at least four digits, with a sign outside of 0 to 9999. -/
def yearText (year : Int) : String :=
  if 0 ≤ year ∧ year ≤ 9999 then padded 4 year.toNat
  else (if year < 0 then "-" else "+") ++ padded 4 year.natAbs

/-- The date, as year, month and day with dashes. -/
def dateText (t : CivilTime) : String :=
  yearText t.year ++ "-" ++ padded 2 t.month ++ "-" ++ padded 2 t.day

/-- The time of day to the second. -/
def clockText (t : CivilTime) : String :=
  padded 2 t.hour ++ ":" ++ padded 2 t.minute ++ ":" ++ padded 2 t.second

/-- Date and time with a blank between them. -/
def plainText (t : CivilTime) : String := dateText t ++ " " ++ clockText t

/-- Date and time in the form of the internet standard; milliseconds only where there are any. -/
def standardText (t : CivilTime) : String :=
  dateText t ++ "T" ++ clockText t ++
    (if t.millisecond = 0 then "" else "." ++ padded 3 t.millisecond) ++ "+00:00"

end CivilTime

end Outbox
