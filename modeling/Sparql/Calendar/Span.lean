import Sparql.Calendar.Reading
import Sparql.Number.Reading

/-!
# Spans of time

Spans of days, hours, minutes and seconds, kept as a signed number of microseconds, and spans that also have
years and months, which are no fixed number of days. Their text uses the largest units that fit: 36 hours are
one day and twelve hours, and 14 months are one year and two months.
-/

namespace Sparql

/-- A span of time. -/
inductive Span where
  /-- A fixed number of microseconds. -/
  | clock (microseconds : Int)
  /-- Whole years, months below twelve and their decimals, and microseconds, all of one sign. -/
  | calendar (negative : Bool) (years : Nat) (months : Decimal) (microseconds : Nat)
deriving DecidableEq, Repr

namespace Span

open Sparql.Text Sparql.Calendar

/-! ## Sums of parts -/

/-- A sum of microseconds: whole ones, and what the parts of the sum leave beside them. -/
structure Sum where
  whole : Nat := 0
  rest : Double := .zero false
deriving Repr

/-- The sum and a number of units, each of `scale` microseconds. The number's whole part counts exactly; the
product with its decimals is rounded. -/
def Sum.add? (sum : Sum) (count : Double) (scale : Nat) : Option Sum := do
  let units ← count.truncate?
  let decimals := count.add (Double.ofInt units).negate
  let whole := sum.whole + units.toNat * scale
  if decimals.isZero then some { sum with whole }
  else
    let product := decimals.scale scale
    let micros ← product.truncate?
    some ⟨whole + micros.toNat, sum.rest.add (product.add (Double.ofInt micros).negate)⟩

/-- The sum as a whole number, the nearest one; of two the even one. -/
def Sum.rounded? (sum : Sum) : Option Nat := do
  let (top, bottom) ← sum.rest.fraction?
  let above := top.toNat / bottom
  let twice := 2 * (top.toNat % bottom)
  let total := sum.whole + above
  some (if twice > bottom ∨ (twice = bottom ∧ total % 2 = 1) then total + 1 else total)

/-- The most days that a span may have. -/
def maxDays : Nat := 999999999

/-- A sum of microseconds, if it is no longer than a span may be. -/
def limited? (micros : Nat) : Option Nat := if micros / perDay ≤ maxDays then some micros else none

/-! ## Reading -/

/-- A numeral before the given unit, with a point in it for a point or a comma, and the rest. A text that does
not continue with that unit has none of it. -/
def component (unit : Char) (text : List Char) : List Char × List Char :=
  let whole := text.takeWhile isAsciiDigit
  let rest := text.dropWhile isAsciiDigit
  let (decimals, rest) := match rest with
    | mark :: after =>
      let run := after.takeWhile isAsciiDigit
      if (mark = '.' ∨ mark = ',') ∧ ¬ run.isEmpty then ('.' :: run, after.dropWhile isAsciiDigit) else ([], rest)
    | [] => ([], [])
  match rest with
  | c :: after => if c = unit ∧ ¬ whole.isEmpty then (whole ++ decimals, after) else (['0'], text)
  | [] => (['0'], text)

/-- The numerals of a span's parts. -/
structure Parts where
  years : List Char
  months : List Char
  weeks : List Char
  days : List Char
  hours : List Char
  minutes : List Char
  seconds : List Char
deriving Repr

/-- The parts that a text lists with their units: those of the calendar, and after `T` those of the clock. One
line end may follow. -/
def parts? (text : List Char) : Option Parts := do
  if !(text.head?.any fun c => isAsciiDigit c || c = 'T') then none
  let (years, rest) := component 'Y' text
  let (months, rest) := component 'M' rest
  let (weeks, rest) := component 'W' rest
  let (days, rest) := component 'D' rest
  let (clocked, rest) := match rest with
    | 'T' :: rest => (true, rest)
    | _ => (false, rest)
  let (hours, rest) := if clocked then component 'H' rest else (['0'], rest)
  let (minutes, rest) := if clocked then component 'M' rest else (['0'], rest)
  let (seconds, rest) := if clocked then component 'S' rest else (['0'], rest)
  if rest = [] ∨ rest = ['\n'] then some ⟨years, months, weeks, days, hours, minutes, seconds⟩ else none

/-- The microseconds of the parts that have a fixed length. -/
def Parts.micros? (parts : Parts) : Option Nat := do
  let seconds ← Number.double? parts.seconds
  let minutes ← Number.double? parts.minutes
  let hours ← Number.double? parts.hours
  let days ← Number.double? parts.days
  let weeks ← Number.double? parts.weeks
  let sum ← ({} : Sum).add? seconds perSecond
  let sum ← sum.add? minutes (60 * perSecond)
  let sum ← sum.add? hours (3600 * perSecond)
  let sum ← sum.add? days perDay
  let sum ← sum.add? weeks (7 * perDay)
  sum.rounded?.bind limited?

/-- The coefficient and the number of decimals of a numeral. -/
def scaledPart? (numeral : List Char) : Option (Nat × Nat) :=
  match Number.decimal? numeral with
  | some (.finite _ coefficient exponent) => some (coefficient, (-exponent).toNat)
  | _ => none

/-- The span of a sign, years, months and microseconds. Twelve months make a year; decimals of a year are
dropped. -/
def ofCalendar (negative : Bool) (years : Nat) (months decimals : Nat) (micros : Nat) : Span :=
  let twelve := 12 * Nat.pow 10 decimals
  .calendar negative (years + months / twelve) (.finite false (months % twelve) (-(decimals : Int))) micros

/-- The span that a text writes as a date and a time of day, each number a count of its unit. -/
def readDated? (text : List Char) : Option Span := do
  let moment ← readMoment? text
  let micros := moment.date.day * perDay + sinceMidnight moment.time
  some (ofCalendar false moment.date.year moment.date.month 0 micros)

/-- The span that a text writes: an optional sign, `P`, and its parts; or `P`, a date and a time of day. -/
def read? (text : List Char) : Option Span := do
  let (negative, rest) := match text with
    | '-' :: rest => (true, rest)
    | '+' :: rest => (false, rest)
    | _ => (false, text)
  match rest with
  | 'P' :: rest =>
    match parts? rest with
    | some parts =>
      let (years, yearDecimals) ← scaledPart? parts.years
      let (months, monthDecimals) ← scaledPart? parts.months
      let micros ← parts.micros?
      if years = 0 ∧ months = 0 then some (.clock (if negative then -micros else micros))
      else some (ofCalendar negative (years / Nat.pow 10 yearDecimals) months monthDecimals micros)
    | none => if text.head? = some 'P' then readDated? rest else none
  | _ => none

/-! ## Writing -/

/-- Whether the span has a text: a negative one with years or months has none if it has anything else. -/
def isWritable : Span → Bool
  | .clock _ => true
  | .calendar negative _ _ micros => !negative || micros == 0

/-- Whether the span is no time at all. -/
def isZero : Span → Bool
  | .clock micros => micros == 0
  | .calendar .. => false

/-- A count and its unit, unless the count is zero. -/
def part (count : Nat) (unit : Char) : List Char :=
  if count = 0 then [] else Nat.toDigits 10 count ++ [unit]

/-- Seconds with as many decimals as are not zero. -/
def secondsPart (seconds micros : Nat) : List Char :=
  if micros = 0 then part seconds 'S'
  else
    let decimals := (padded 6 micros).reverse.dropWhile (· = '0')
    Nat.toDigits 10 seconds ++ '.' :: decimals.reverse ++ ['S']

/-- Days, and hours, minutes and seconds after a `T`, as far as there are any. -/
def clockChars (total : Nat) : List Char :=
  let micros := total % perSecond
  let seconds := total / perSecond
  let clock := part (seconds / 3600 % 24) 'H' ++ part (seconds / 60 % 60) 'M' ++ secondsPart (seconds % 60) micros
  part (seconds / 86400) 'D' ++ (if clock.isEmpty then [] else 'T' :: clock)

/-- Months with their decimals, unless there are none. -/
def monthsPart (months : Decimal) : List Char := if months.isZero then [] else months.toText.toList ++ ['M']

/-- A sign, `P` and the parts of a span, which are never none. -/
def framed (negative : Bool) (body : List Char) : List Char :=
  (if negative then ['-', 'P'] else ['P']) ++ (if body.isEmpty then ['0', 'D'] else body)

/-- The text of a span. -/
def chars : Span → List Char
  | .clock micros => framed (micros < 0) (clockChars micros.natAbs)
  | .calendar negative years months micros =>
    framed negative (part years 'Y' ++ monthsPart months ++ clockChars micros)

end Span

end Sparql
