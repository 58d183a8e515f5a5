import Sparql.Text.Basic

/-!
# Dates and times

Days of the civil calendar from year 1 to 9999, times of day to the microsecond, and moments that join the
two, with an optional distance from universal time.
-/

namespace Sparql

/-- A day of the calendar. -/
structure Date where
  year : Nat
  month : Nat
  day : Nat
deriving DecidableEq, Repr

/-- A time of day, with its distance from universal time in microseconds if it is known. -/
structure TimeOfDay where
  hour : Nat
  minute : Nat
  second : Nat := 0
  microsecond : Nat := 0
  offset : Option Int := none
deriving DecidableEq, Repr

/-- A time of day on a day. -/
structure Moment where
  date : Date
  time : TimeOfDay
deriving DecidableEq, Repr

namespace Calendar

/-- A year with a 29th of February. -/
def isLeap (year : Nat) : Bool := year % 4 == 0 && (year % 100 != 0 || year % 400 == 0)

/-- The days of a month. -/
def monthLength (year month : Nat) : Nat :=
  if month = 2 then (if isLeap year then 29 else 28)
  else if month = 4 ∨ month = 6 ∨ month = 9 ∨ month = 11 then 30 else 31

/-- The date with the given parts, if the calendar has it. -/
def date? (year month day : Nat) : Option Date :=
  if 1 ≤ year ∧ year ≤ 9999 ∧ 1 ≤ month ∧ month ≤ 12 ∧ 1 ≤ day ∧ day ≤ monthLength year month then
    some ⟨year, month, day⟩
  else none

/-- The time with the given parts, if a day has it. -/
def time? (hour minute second microsecond : Nat) (offset : Option Int) : Option TimeOfDay :=
  if hour < 24 ∧ minute < 60 ∧ second < 60 then some ⟨hour, minute, second, microsecond, offset⟩ else none

/-- The days before the first of January of a year. -/
def daysBeforeYear (year : Nat) : Nat :=
  let past := year - 1
  past * 365 + past / 4 - past / 100 + past / 400

/-- The month and day that lie `remaining` days after the first of the given month. -/
def monthDay (year : Nat) : Nat → Nat → Nat → Nat × Nat
  | 0, month, remaining => (month, remaining + 1)
  | months + 1, month, remaining =>
    if remaining < monthLength year month then (month, remaining + 1)
    else monthDay year months (month + 1) (remaining - monthLength year month)

/-- The day `ordinal` days after the first of January of a year, which may lie in the next one. -/
def dayOfYear? (year ordinal : Nat) : Option Date :=
  let length := if isLeap year then 366 else 365
  let (year, ordinal) := if ordinal < length then (year, ordinal) else (year + 1, ordinal - length)
  let (month, day) := monthDay year 11 1 ordinal
  date? year month day

/-- The day with the given number, Monday being 1, of a week of a year. The first week is the one with the
year's first Thursday. -/
def weekDate? (year week day : Nat) : Option Date :=
  if year = 0 ∨ week = 0 ∨ day = 0 ∨ 7 < day then none
  else
    let firstWeekday := daysBeforeYear year % 7
    let isLong := firstWeekday = 3 ∨ (firstWeekday = 2 ∧ isLeap year)
    if week > 53 ∨ (week = 53 ∧ ¬ isLong) then none
    else
      let weekStart : Int := if firstWeekday > 3 then 7 - firstWeekday else -(firstWeekday : Int)
      let ordinal : Int := weekStart + ((week - 1) * 7 + (day - 1) : Nat)
      if 0 ≤ ordinal then dayOfYear? year ordinal.toNat
      else
        let before := year - 1
        if before = 0 then none
        else dayOfYear? before (((if isLeap before then 366 else 365 : Nat) : Int) + ordinal).toNat

/-- A number with zeros before it, up to a width. -/
def padded (width value : Nat) : List Char :=
  let digits := Nat.toDigits 10 value
  List.replicate (width - digits.length) '0' ++ digits

/-- Microseconds in a second. -/
def perSecond : Nat := 1000000

/-- The microseconds from midnight to a time of day, whatever its offset. -/
def sinceMidnight (t : TimeOfDay) : Nat :=
  ((t.hour * 60 + t.minute) * 60 + t.second) * perSecond + t.microsecond

/-- The days from the first of January of year 1 to a day. -/
def dayNumber (d : Date) : Nat :=
  let months := (List.range (d.month - 1)).map fun month => monthLength d.year (month + 1)
  daysBeforeYear d.year + months.foldl (· + ·) 0 + (d.day - 1)

/-- A distance from universal time; seconds and their decimals are left out if they are zero. -/
def offsetText (offset : Int) : List Char :=
  let seconds := offset.natAbs / perSecond
  let micros := offset.natAbs % perSecond
  let sign := if offset < 0 then '-' else '+'
  let decimals := if micros = 0 then [] else '.' :: padded 6 micros
  let tail := if seconds % 60 = 0 ∧ micros = 0 then [] else ':' :: padded 2 (seconds % 60) ++ decimals
  sign :: padded 2 (seconds / 3600) ++ ':' :: padded 2 (seconds / 60 % 60) ++ tail

end Calendar

open Calendar

/-- Whether two times are the same time: without offsets if neither has one, else in universal time. -/
def TimeOfDay.same (a b : TimeOfDay) : Bool :=
  match a.offset, b.offset with
  | none, none => sinceMidnight a == sinceMidnight b
  | some x, some y => (sinceMidnight a : Int) - x == (sinceMidnight b : Int) - y
  | _, _ => false

/-- Microseconds in a day. -/
def Calendar.perDay : Nat := 86400 * perSecond

/-- The microseconds to a moment from the beginning of the calendar, whatever its offset. -/
def Moment.sinceStart (m : Moment) : Nat := dayNumber m.date * perDay + sinceMidnight m.time

/-- Whether two moments are the same: without offsets if neither has one, else in universal time. -/
def Moment.same (a b : Moment) : Bool :=
  match a.time.offset, b.time.offset with
  | none, none => a.sinceStart == b.sinceStart
  | some x, some y => (a.sinceStart : Int) - x == (b.sinceStart : Int) - y
  | _, _ => false

/-- `2024-01-02`. -/
def Date.chars (d : Date) : List Char :=
  padded 4 d.year ++ '-' :: padded 2 d.month ++ '-' :: padded 2 d.day

/-- `03:04:05`, with six decimals unless they are zero, and the offset if there is one. -/
def TimeOfDay.chars (t : TimeOfDay) : List Char :=
  padded 2 t.hour ++ ':' :: padded 2 t.minute ++ ':' :: padded 2 t.second
    ++ (if t.microsecond = 0 then [] else '.' :: padded 6 t.microsecond)
    ++ (match t.offset with
      | none => []
      | some offset => offsetText offset)

/-- A date and a time with the given character between them. -/
def Moment.chars (separator : Char) (m : Moment) : List Char :=
  m.date.chars ++ separator :: m.time.chars

/-- The text of a day. -/
def Date.toText (d : Date) : String := String.ofList d.chars

/-- The text of a time of day. -/
def TimeOfDay.toText (t : TimeOfDay) : String := String.ofList t.chars

/-- The text of a moment, with a `T` between day and time. -/
def Moment.toText (m : Moment) : String := String.ofList (m.chars 'T')

end Sparql
