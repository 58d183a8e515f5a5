import Sparql.Calendar.Basic

/-!
# Reading dates and times

The standard numeric forms: calendar dates and week dates with or without dashes, times with or without
colons and with any number of decimals, `Z` or a signed offset at the end.
-/

namespace Sparql.Calendar

open Sparql.Text

/-- The number that exactly `count` leading digits write, and the rest. -/
def digits? (count : Nat) (text : List Char) : Option (Nat × List Char) :=
  let run := text.take count
  if run.length = count ∧ run.all isAsciiDigit then some (asciiNumber run, text.drop count) else none

/-- Skips the separator if the form has one. -/
def skip? (separator : Char) (present : Bool) : List Char → Option (List Char)
  | c :: rest => if present then (if c = separator then some rest else none) else some (c :: rest)
  | [] => if present then none else some []

/-- The date that a whole text writes. -/
def readDate? (text : List Char) : Option Date := do
  let (year, rest) ← digits? 4 text
  let dashed := rest.head? = some '-'
  let rest ← skip? '-' dashed rest
  match rest with
  | 'W' :: rest =>
    let (week, rest) ← digits? 2 rest
    if rest.isEmpty then weekDate? year week 1
    else
      let rest ← skip? '-' dashed rest
      let (day, rest) ← digits? 1 rest
      if rest.isEmpty then weekDate? year week day else none
  | rest =>
    let (month, rest) ← digits? 2 rest
    let rest ← skip? '-' dashed rest
    let (day, rest) ← digits? 2 rest
    if rest.isEmpty then date? year month day else none

/-- What a clock reads: hours, minutes, seconds and microseconds. What is left out is zero. -/
structure Clock where
  hour : Nat := 0
  minute : Nat := 0
  second : Nat := 0
  microsecond : Nat := 0
deriving DecidableEq, Repr

namespace Clock

/-- The clock with one of its first three parts set. -/
def setPart (clock : Clock) (place value : Nat) : Clock :=
  match place with
  | 0 => { clock with hour := value }
  | 1 => { clock with minute := value }
  | _ => { clock with second := value }

/-- The whole seconds. -/
def seconds (clock : Clock) : Nat := (clock.hour * 60 + clock.minute) * 60 + clock.second

/-- The clock with the decimals that a text begins with, and what is left of the text. Fewer than six
characters are all decimals; of more, six are read and further digits are dropped. -/
def decimals? (clock : Clock) (text : List Char) : Option (Clock × List Char) :=
  let kept := text.take 6
  if kept.all isAsciiDigit then
    let microsecond := asciiNumber kept * Nat.pow 10 (6 - kept.length)
    some ({ clock with microsecond }, (text.drop 6).dropWhile isAsciiDigit)
  else none

/-- The parts from a place on: two digits each, with colons between all of them or none. A single ASCII
character after a part ends the reading and is left over. After the seconds, and after a point or a comma,
decimals follow. -/
def readFrom? (clock : Clock) (colons : Bool) : List (Fin 3) → List Char → Option (Clock × List Char)
  | [], text => clock.decimals? text
  | place :: places, text => do
    let (value, rest) ← digits? 2 text
    let clock := clock.setPart place value
    match rest with
    | [] => return (clock, [])
    | mark :: more =>
      if more.isEmpty && mark.toNat < 128 then return (clock, rest)
      else
        let colons := if place = 0 then mark = ':' else colons
        if colons && mark = ':' then readFrom? clock colons places more
        else if mark = '.' || mark = ',' then clock.decimals? more
        else if colons then none
        else readFrom? clock colons places rest

/-- The clock that a text begins with, and what is left over. -/
def read? (text : List Char) : Option (Clock × List Char) := readFrom? {} false [0, 1, 2] text

end Clock

/-- Whether a text is over: nothing is left of it, or it goes on with a null character. -/
def isOver : List Char → Bool
  | [] => true
  | c :: _ => c = '\x00'

/-- The clock that a whole text reads. -/
def readClock? (text : List Char) : Option Clock := do
  let (clock, rest) ← Clock.read? text
  if isOver rest then some clock else none

/-- The characters before the first one of the given kind, and those from it on. -/
def cutAt (p : Char → Bool) (text : List Char) : List Char × List Char :=
  (text.takeWhile (!p ·), text.dropWhile (!p ·))

/-- The offset that a sign and a clock reading give: less than a day, and nothing at all if there are no
whole seconds in it. -/
def signedOffset? (negative : Bool) (clock : Clock) : Option Int :=
  let distance := clock.seconds * perSecond + clock.microsecond
  if clock.seconds = 0 then some 0
  else if distance < perDay then some (if negative then -distance else distance)
  else none

/-- The offset that a text writes: `Z`, or a sign and a clock reading. -/
def readOffset? : List Char → Option Int
  | 'Z' :: rest => if isOver rest then some 0 else none
  | '+' :: clock => (readClock? clock).bind (signedOffset? false)
  | '-' :: clock => (readClock? clock).bind (signedOffset? true)
  | _ => none

/-- Whether an offset begins with a character. -/
def isOffsetMark (c : Char) : Bool := c = '+' || c = '-' || c = 'Z'

/-- The time of day that a whole text writes. What the clock reading leaves over before an offset does not
matter. -/
def readTime? (text : List Char) : Option TimeOfDay := do
  let (clockText, zone) := cutAt isOffsetMark text
  if zone.isEmpty then
    let clock ← readClock? clockText
    time? clock.hour clock.minute clock.second clock.microsecond none
  else
    let (clock, _) ← Clock.read? clockText
    let offset ← readOffset? zone
    time? clock.hour clock.minute clock.second clock.microsecond (some offset)

/-- How many of the leading characters write the date of a moment. -/
def dateLength (text : List Char) : Nat :=
  match text.drop 4 with
  | '-' :: 'W' :: _ =>
    match text.drop 8 with
    | '-' :: _ :: next :: _ => if isAsciiDigit next then 8 else 10
    | '-' :: _ => 10
    | _ => 8
  | '-' :: _ => 10
  | 'W' :: _ =>
    let last := 7 + ((text.drop 7).takeWhile isAsciiDigit).length
    if last < 9 then last else if last % 2 = 0 then 7 else 8
  | _ => 8

/-- The moment that a whole text writes: a date, any one character, and a time; or a date alone. -/
def readMoment? (text : List Char) : Option Moment := do
  let length := dateLength text
  let date ← readDate? (text.take length)
  match text.drop length with
  | [] => return ⟨date, ⟨0, 0, 0, 0, none⟩⟩
  | _ :: time => return ⟨date, ← readTime? time⟩

/-- The date that a text writes before a time or an offset, both of which are dropped. -/
def readZonedDate? (text : List Char) : Option Date := do
  let text := if text.getLast? = some 'Z' ∨ text.getLast? = some 'z' then text.dropLast else text
  if text.head? = some '-' then none
  let text :=
    if text.contains 'T' then text.takeWhile (· != 'T')
    else if text.contains '+' then (cutAt (· = '+') text.reverse).2.drop 1 |>.reverse
    else if 2 < text.count '-' then (cutAt (· = '-') text.reverse).2.drop 1 |>.reverse
    else text
  if text.contains '-' then readDate? text else none

end Sparql.Calendar
