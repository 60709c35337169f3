import Leasehold.LeaseTime
import Leasehold.Text.Decimal

/-!
# Points in time as text

A point in time is printed as a date and a time of day in the universal time zone, to the second.
The zone is written either as a letter or as an offset. Years beyond four digits carry a plus sign.
-/
namespace Leasehold.Timestamp

/-- A day of the calendar. -/
structure Date where
  /-- The year. -/
  year : Nat
  /-- The month, from 1 to 12. -/
  month : Nat
  /-- The day of the month, from 1. -/
  day : Nat
deriving DecidableEq, Repr

/-- The day that lies a number of days after the first of 1970. Days are counted from the first of
March of the year 0, so that a leap day ends its year and every 400 years have the same days. -/
def dateOf (days : Nat) : Date :=
  let sinceMarch := days + 719468
  let era := sinceMarch / 146097
  let dayOfEra := sinceMarch % 146097
  let yearOfEra := (dayOfEra - dayOfEra / 1460 + dayOfEra / 36524 - dayOfEra / 146096) / 365
  let dayOfYear := dayOfEra - (365 * yearOfEra + yearOfEra / 4 - yearOfEra / 100)
  let shifted := (5 * dayOfYear + 2) / 153
  let day := dayOfYear - (153 * shifted + 2) / 5 + 1
  let month := if shifted < 10 then shifted + 3 else shifted - 9
  let year := yearOfEra + 400 * era + (if month ≤ 2 then 1 else 0)
  ⟨year, month, day⟩

/-- The year in at least four digits. -/
def yearText (year : Nat) : List Char :=
  if year ≤ 9999 then Text.Decimal.padded 4 year else '+' :: Text.Decimal.digits year

/-- The date and the time of day, without a zone. -/
def clockText (time : Instant) : List Char :=
  let total := inSeconds time
  let date := dateOf (total / 86400)
  let two := Text.Decimal.padded 2
  yearText date.year ++ '-' :: two date.month ++ '-' :: two date.day ++ 'T' ::
    two (total / 3600 % 24) ++ ':' :: two (total / 60 % 60) ++ ':' :: two (total % 60)

/-- The text of a point in time whose zone is a letter. -/
def zulu (time : Instant) : String := String.ofList (clockText time ++ ['Z'])

/-- The text of a point in time whose zone is an offset. -/
def offset (time : Instant) : String := String.ofList (clockText time ++ "+00:00".toList)

end Leasehold.Timestamp
