import MessageBroker.Number.Decimal

/-!
# Points in time

A point in time as a date and time of day in UTC, in the Gregorian calendar extended to all years.
A minute may have a sixtieth second. It is written with the fewest fraction digits of 0, 3, 6 and 9
that are exact; a year outside 0 to 9999 has a sign.
-/

set_option autoImplicit false

namespace MessageBroker

/-- A day of the calendar. -/
structure Date where
  year : Int
  month : Nat
  day : Nat
  deriving DecidableEq, Repr

namespace Date

/-- Leap years. -/
def isLeap (year : Int) : Bool := year % 4 == 0 && (year % 100 != 0 || year % 400 == 0)

/-- Days of a month. -/
def daysIn (year : Int) (month : Nat) : Nat :=
  if month = 2 then if isLeap year then 29 else 28
  else if month = 4 ∨ month = 6 ∨ month = 9 ∨ month = 11 then 30
  else 31

/-- First and last year a point in time can have. -/
def yearRange : Int × Int := (-262143, 262142)

/-- True of the days that exist and can be represented. -/
def isValid (date : Date) : Bool :=
  yearRange.1 ≤ date.year && date.year ≤ yearRange.2 && 1 ≤ date.month && date.month ≤ 12 &&
    1 ≤ date.day && date.day ≤ daysIn date.year date.month

/-- The day after. -/
def next (date : Date) : Date :=
  if date.day < daysIn date.year date.month then { date with day := date.day + 1 }
  else if date.month < 12 then ⟨date.year, date.month + 1, 1⟩
  else ⟨date.year + 1, 1, 1⟩

/-- The day before. -/
def previous (date : Date) : Date :=
  if 1 < date.day then { date with day := date.day - 1 }
  else if 1 < date.month then ⟨date.year, date.month - 1, daysIn date.year (date.month - 1)⟩
  else ⟨date.year - 1, 12, 31⟩

end Date

/-- A date and time of day in UTC. -/
structure Timestamp where
  date : Date
  hour : Nat
  minute : Nat
  second : Nat
  nanosecond : Nat
  deriving DecidableEq, Repr

namespace Timestamp

/-- True of the times of day that exist. -/
def isValid (t : Timestamp) : Bool :=
  t.date.isValid && t.hour ≤ 23 && t.minute ≤ 59 && t.second ≤ 60 && t.nanosecond < Nat.pow 10 9

/-- The point in time that a clock shows `offset` minutes ahead of UTC, less than a day. -/
def ofLocal (t : Timestamp) (offset : Int) : Timestamp :=
  let minutes : Int := 60 * t.hour + t.minute - offset
  let date :=
    if minutes < 0 then t.date.previous else if 1440 ≤ minutes then t.date.next else t.date
  let minuteOfDay := (minutes % 1440).toNat
  { t with date, hour := minuteOfDay / 60, minute := minuteOfDay % 60 }

/-- Year of a date. -/
def yearChars (year : Int) : List Char :=
  if 0 ≤ year ∧ year ≤ 9999 then Decimal.padded 4 year.toNat
  else (if year < 0 then '-' else '+') :: Decimal.padded 4 year.natAbs

/-- Fraction of a second. -/
def fractionChars (nanosecond : Nat) : List Char :=
  if nanosecond = 0 then []
  else if nanosecond % 1000000 = 0 then '.' :: Decimal.padded 3 (nanosecond / 1000000)
  else if nanosecond % 1000 = 0 then '.' :: Decimal.padded 6 (nanosecond / 1000)
  else '.' :: Decimal.padded 9 nanosecond

/-- Written form. -/
def chars (t : Timestamp) : List Char :=
  yearChars t.date.year ++ '-' :: Decimal.padded 2 t.date.month ++ '-' ::
    Decimal.padded 2 t.date.day ++ 'T' :: Decimal.padded 2 t.hour ++ ':' ::
    Decimal.padded 2 t.minute ++ ':' :: Decimal.padded 2 t.second ++
    fractionChars t.nanosecond ++ ['Z']

/-- Written form as a text. -/
def text (t : Timestamp) : String := String.ofList t.chars

end Timestamp

end MessageBroker
