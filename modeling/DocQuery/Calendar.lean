import DocQuery.Text.Numeral

/-!
# Points in time

A point in time is a count of milliseconds since the beginning of 1970. Its date is that of the
Gregorian calendar, extended to all years, without time zones and leap seconds. Days are counted
from the first of March of year 0, so that a leap day is the last day of its year.
-/

namespace DocQuery

/-- Milliseconds since 1970-01-01. -/
structure DateTime where
  millis : Int64
deriving DecidableEq, Repr

namespace Calendar

/-- A day of the Gregorian calendar. -/
structure Date where
  year : Int
  month : Nat
  day : Nat
deriving DecidableEq, Repr

/-- The date that lies `n` days after 1970-01-01. -/
def Date.ofDayNumber (n : Int) : Date :=
  -- Four hundred years have 146097 days, and 1970 begins 719468 days after the first of March, 0.
  let shifted := n + 719468
  let era := Int.fdiv shifted 146097
  let dayOfEra := (Int.fmod shifted 146097).toNat
  let yearOfEra := (dayOfEra - dayOfEra / 1460 + dayOfEra / 36524 - dayOfEra / 146096) / 365
  let dayOfYear := dayOfEra - (365 * yearOfEra + yearOfEra / 4 - yearOfEra / 100)
  -- Five months from March on have 153 days, wherever one starts to count.
  let monthIndex := (5 * dayOfYear + 2) / 153
  let day := dayOfYear - (153 * monthIndex + 2) / 5 + 1
  let year := era * 400 + yearOfEra
  if monthIndex < 10 then ⟨year, monthIndex + 3, day⟩ else ⟨year + 1, monthIndex - 9, day⟩

example : Date.ofDayNumber 0 = ⟨1970, 1, 1⟩ := by decide

example : Date.ofDayNumber 11016 = ⟨2000, 2, 29⟩ := by decide

example : Date.ofDayNumber (-719529) = ⟨-1, 12, 31⟩ := by decide

end Calendar

namespace DateTime

def dayLength : Int := 86400000

def date (t : DateTime) : Calendar.Date :=
  .ofDayNumber (Int.fdiv t.millis.toInt dayLength)

/-- Milliseconds since midnight. -/
def timeOfDay (t : DateTime) : Nat :=
  (Int.fmod t.millis.toInt dayLength).toNat

def hour (t : DateTime) : Nat := t.timeOfDay / 3600000

def minute (t : DateTime) : Nat := t.timeOfDay / 60000 % 60

def second (t : DateTime) : Nat := t.timeOfDay / 1000 % 60

/-- The decimal digits of the fraction of a second, without trailing zeros. -/
def fractionDigits (t : DateTime) : List Char :=
  ((Text.Numeral.padded 3 (t.timeOfDay % 1000)).reverse.dropWhile (· = '0')).reverse

/-- The year of a date in at least four digits; from five digits on it always carries a sign. -/
def yearChars (year : Int) : List Char :=
  if year.natAbs < 10000 then
    (if year < 0 then ['-'] else []) ++ Text.Numeral.padded 4 year.natAbs
  else (if year < 0 then '-' else '+') :: Text.Numeral.digits year.natAbs

private def monthAndDay (date : Calendar.Date) : List Char :=
  '-' :: Text.Numeral.padded 2 date.month ++ '-' :: Text.Numeral.padded 2 date.day

private def minuteAndSecond (t : DateTime) : List Char :=
  ':' :: Text.Numeral.padded 2 t.minute ++ ':' :: Text.Numeral.padded 2 t.second

/-- Whether the year of the point in time has at most six digits. -/
def hasText (t : DateTime) : Bool :=
  t.date.year.natAbs ≤ 999999

/-- Date, time and offset as they are shown to people: the hour unpadded, the fraction of a second
with at least one digit. A point in time with a year of more digits is shown as its count of
milliseconds. -/
def text (t : DateTime) : String :=
  if t.hasText then
    let fraction := if t.fractionDigits = [] then ['0'] else t.fractionDigits
    String.ofList (yearChars t.date.year ++ monthAndDay t.date ++ ' ' ::
      Text.Numeral.digits t.hour ++ minuteAndSecond t ++ '.' :: fraction) ++ " +00:00:00"
  else Text.Numeral.ofInt t.millis.toInt

/-- Whether the point in time has a text of the internet profile that sorts like the time itself:
it is not before 1970, and its year has four digits. -/
def hasTimestamp (t : DateTime) : Bool :=
  0 ≤ t.millis && t.date.year ≤ 9999

/-- Date and time with a `T` between them and a final `Z`; the fraction of a second is left out if
it is zero. -/
def timestamp (t : DateTime) : String :=
  let fraction := if t.fractionDigits = [] then [] else '.' :: t.fractionDigits
  String.ofList (Text.Numeral.padded 4 t.date.year.natAbs ++ monthAndDay t.date ++
    'T' :: Text.Numeral.padded 2 t.hour ++ minuteAndSecond t ++ fraction ++ ['Z'])

end DateTime

end DocQuery
