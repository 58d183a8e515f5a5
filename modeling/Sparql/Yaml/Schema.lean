import Sparql.Calendar.Basic
import Sparql.Number.Reading
import Sparql.Text.Hex
import Sparql.Value.Basic
import Sparql.Yaml.Cursor

/-!
# Types of YAML texts

A plain text without a tag is of the type that its form shows: a truth value, a number, a date or time, or
nothing at all; any other is a text. Integers are written in base two, eight, ten, sixteen or sixty.
-/

namespace Sparql.Yaml

open Sparql.Text

namespace Schema

/-- The words that mean true. -/
def trueWords : List String := ["yes", "true", "on"]

/-- The words that mean false. -/
def falseWords : List String := ["no", "false", "off"]

/-- The text without a line end at its end, which no form minds. -/
def withoutFinalBreak (text : List Char) : List Char :=
  if text.getLast? = some '\n' then text.dropLast else text

/-- A word in lower case, in upper case, or with a capital. -/
def spellings (word : String) : List String := [word, word.capitalize, word.toUpper]

/-- A digit below a base, or an underscore. -/
def isDigitIn (base : Nat) (c : Char) : Bool := c = '_' || (hexValue? c).any (· < base)

/-- One or more digits below a base, or underscores. -/
def areDigitsIn (base : Nat) (text : List Char) : Bool := !text.isEmpty && text.all (isDigitIn base)

/-- The text without a sign. -/
def dropSign : List Char → List Char
  | '+' :: rest | '-' :: rest => rest
  | text => text

/-- The parts of a text between colons. -/
def colonParts (text : List Char) : List (List Char) :=
  text.foldr
    (fun c parts =>
      match parts with
      | part :: rest => if c = ':' then [] :: part :: rest else (c :: part) :: rest
      | [] => [])
    [[]]

/-- A part of a number in base sixty: one digit, or two of which the first is below six. -/
def isSixtieth : List Char → Bool
  | [c] => c.isDigit
  | [c, d] => '0' ≤ c && c ≤ '5' && d.isDigit
  | _ => false

/-- Parts of a number in base sixty after the first, of which there is one at least. -/
def areSixtieths (parts : List (List Char)) : Bool := !parts.isEmpty && parts.all isSixtieth

/-- The form of an integer after its sign. -/
def isUnsignedInteger : List Char → Bool
  | ['0'] => true
  | '0' :: 'b' :: digits => areDigitsIn 2 digits
  | '0' :: 'x' :: digits => areDigitsIn 16 digits
  | '0' :: digits => areDigitsIn 8 digits
  | text =>
    match colonParts text with
    | first :: rest =>
      first.head?.any Char.isDigit && areDigitsIn 10 first && (rest.isEmpty || areSixtieths rest)
    | [] => false

/-- The form of an integer. -/
def isInteger (text : List Char) : Bool := isUnsignedInteger (dropSign text)

/-- Nothing, or the exponent of a number: its mark, a sign and digits. -/
def isExponent : List Char → Bool
  | [] => true
  | mark :: sign :: digits =>
    (mark = 'e' || mark = 'E') && (sign = '+' || sign = '-') && !digits.isEmpty && digits.all Char.isDigit
  | _ => false

/-- Digits, or underscores, up to an exponent. -/
def isFraction (text : List Char) : Bool := isExponent (text.dropWhile (isDigitIn 10))

/-- The form of a number with a point. -/
def isFloat (text : List Char) : Bool :=
  let body := dropSign text
  match body with
  | ['.', 'i', 'n', 'f'] | ['.', 'I', 'n', 'f'] | ['.', 'I', 'N', 'F'] => true
  | ['.', 'n', 'a', 'n'] | ['.', 'N', 'a', 'N'] | ['.', 'N', 'A', 'N'] => body = text
  | '.' :: c :: rest => body = text && c.isDigit && isFraction rest
  | _ =>
    let whole := body.takeWhile (· ≠ '.')
    let fraction := (body.dropWhile (· ≠ '.')).drop 1
    body.contains '.' && whole.head?.any Char.isDigit &&
      match colonParts whole with
      | [_] => areDigitsIn 10 whole && isFraction fraction
      | first :: rest => areDigitsIn 10 first && areSixtieths rest && fraction.all (isDigitIn 10)
      | [] => false

/-! ## Dates and times -/

/-- Exactly so many digits at the beginning, and the rest. -/
def digits? (count : Nat) (text : List Char) : Option (Nat × List Char) :=
  let run := text.take count
  if run.length = count ∧ run.all Char.isDigit then some (asciiNumber run, text.drop count) else none

/-- One digit or two at the beginning, and the rest. -/
def oneOrTwoDigits? (text : List Char) : Option (Nat × List Char) := (digits? 2 text).or (digits? 1 text)

/-- The rest behind a mark. -/
def behind? (mark : Char) : List Char → Option (List Char)
  | c :: rest => if c = mark then some rest else none
  | [] => none

/-- The parts of a date or of a moment, as they are written. -/
structure MomentSpelling where
  year : Nat
  month : Nat
  day : Nat
  /-- Whether month and day have two digits each. -/
  isPadded : Bool
  /-- Hour, minute, second, the digits of the fraction, and the distance from universal time in minutes. -/
  time : Option (Nat × Nat × Nat × List Char × Option Int) := none
deriving Repr

/-- A blank inside a moment. -/
def isGap (c : Char) : Bool := c = ' ' || c = '\t'

/-- The distance from universal time in minutes, which may be missing. -/
def offset? (text : List Char) : Option (Option Int) :=
  match text.dropWhile isGap with
  | [] => if text.isEmpty then some none else none
  | ['Z'] => some (some 0)
  | sign :: rest => do
    if sign ≠ '+' ∧ sign ≠ '-' then none
    let (hours, rest) ← oneOrTwoDigits? rest
    let minutes ← match rest with
      | [] => some 0
      | _ =>
        match digits? 2 (← behind? ':' rest) with
        | some (minutes, []) => some minutes
        | _ => none
    let distance : Int := hours * 60 + minutes
    some (some (if sign = '-' then -distance else distance))

/-- What separates a date from a time: a `T`, or blanks. -/
def dropGap? : List Char → Option (List Char)
  | 'T' :: rest | 't' :: rest => some rest
  | c :: rest => if isGap c then some (rest.dropWhile isGap) else none
  | [] => none

/-- The parts of a text that has the form of a date or of a moment. -/
def MomentSpelling.read? (text : List Char) : Option MomentSpelling := do
  let (year, rest) ← digits? 4 text
  let (month, afterMonth) ← oneOrTwoDigits? (← behind? '-' rest)
  let (day, rest) ← oneOrTwoDigits? (← behind? '-' afterMonth)
  let isPadded := (text.take 10).length = 10 && afterMonth.length + 7 = text.length && rest.length + 10 = text.length
  if rest.isEmpty then return ⟨year, month, day, isPadded, none⟩
  let (hour, rest) ← oneOrTwoDigits? (← dropGap? rest)
  let (minute, rest) ← digits? 2 (← behind? ':' rest)
  let (second, rest) ← digits? 2 (← behind? ':' rest)
  let (fraction, rest) := match rest with
    | '.' :: after => (after.takeWhile Char.isDigit, after.dropWhile Char.isDigit)
    | _ => ([], rest)
  let offset ← offset? rest
  return ⟨year, month, day, isPadded, some (hour, minute, second, fraction, offset)⟩

/-- The form of a date, with two digits for month and day, or of a moment. -/
def isMoment (text : List Char) : Bool :=
  (MomentSpelling.read? text).any fun spelling => spelling.time.isSome || spelling.isPadded

/-- The date or moment that is spelt, if the calendar has it. -/
def MomentSpelling.value? (spelling : MomentSpelling) : Option Value := do
  let date ← Calendar.date? spelling.year spelling.month spelling.day
  match spelling.time with
  | none => return .date date
  | some (hour, minute, second, fraction, offset) =>
    let kept := fraction.take 6
    let microsecond := asciiNumber kept * Nat.pow 10 (6 - kept.length)
    if offset.any fun minutes => 24 * 60 ≤ minutes.natAbs then none
    let time ← Calendar.time? hour minute second microsecond (offset.map (· * 60 * Calendar.perSecond))
    return .moment ⟨date, time⟩

/-! ## Types by form -/

/-- The name of the type whose form a text on one line has. Marks of nodes are of a type of their own. -/
def typeOfLine (text : List Char) : String :=
  let word := String.ofList text
  if (trueWords ++ falseWords).any fun known => (spellings known).contains word then "bool"
  else if isFloat text then "float"
  else if isInteger text then "int"
  else if word = "<<" then "merge"
  else if word = "" || word = "~" || (spellings "null").contains word then "null"
  else if isMoment text then "timestamp"
  else if word = "=" then "value"
  else if ["!", "&", "*"].contains word then "yaml"
  else "str"

/-- The name of the type whose form a text has. -/
def typeOf (text : List Char) : String :=
  if text = ['\n'] then "str" else typeOfLine (withoutFinalBreak text)

/-! ## Values of texts -/

/-- The truth value of a word in any case. -/
def bool (text : List Char) : Except DocumentError Bool :=
  let word := String.ofList (toLower text)
  if trueWords.contains word then .ok true
  else if falseWords.contains word then .ok false
  else .error .noTruthValue

/-- What can be read, or the reason that it cannot. -/
def readable {α : Type} (value : Option α) : Except DocumentError α :=
  match value with
  | some value => .ok value
  | none => .error .unreadable

/-- A number in a base below ten, or sixteen, with or without its mark, in the digits of any script. -/
def integerIn? (base : Nat) (mark : Char) (text : List Char) : Option Int := do
  let (negative, body) := Number.splitSign (Number.asciiDigits (Number.trimMargin text))
  let body := match body with
    | '0' :: c :: rest => if c.toLower = mark then rest else body
    | _ => body
  if body.isEmpty then none
  let magnitude ← body.foldlM (fun sum c => do
    let digit ← hexValue? c
    if digit < base then some (sum * base + digit) else none) 0
  let magnitude : Int := magnitude
  some (if negative then -magnitude else magnitude)

/-- The sign of a number, and the number without it and without underscores. A number has some text. -/
def signed (text : List Char) : Except DocumentError (Bool × List Char) :=
  match text.filter (· ≠ '_') with
  | [] => .error .noText
  | text => .ok (Number.splitSign text)

/-- The integer that a text writes. -/
def int (text : List Char) : Except DocumentError Int := do
  let (negative, body) ← signed text
  let magnitude ← match body with
    | [] => throw .noText
    | ['0'] => pure 0
    | '0' :: 'b' :: digits => readable (integerIn? 2 'b' digits)
    | '0' :: 'x' :: digits => readable (integerIn? 16 'x' digits)
    | '0' :: _ => readable (integerIn? 8 'o' body)
    | _ =>
      let parts ← (colonParts body).mapM fun part => readable (Number.integer? part)
      pure (parts.foldl (fun sum part => sum * 60 + part) 0)
  return if negative then -magnitude else magnitude

/-- The sum of doubles in base sixty, lowest first, each addition and multiplication rounded; `sum` and
`power` belong to those before. Every power of sixty has to be within the range of doubles. -/
def sexagesimalDouble (sum : Double) (power : Nat) : List Double → Except DocumentError Double
  | [] => .ok sum
  | digit :: rest =>
    if (Double.ofInt power).isInfinite then .error .overflow
    else sexagesimalDouble (sum.add (digit.scale power)) (power * 60) rest

/-- The double that a text writes. -/
def float (text : List Char) : Except DocumentError Double := do
  let (negative, body) ← signed text
  let magnitude ← match toLower body with
    | ['.', 'i', 'n', 'f'] => pure (.infinite false)
    | ['.', 'n', 'a', 'n'] => pure .nan
    | body =>
      if body.contains ':' then
        let parts ← (colonParts body).mapM fun part => readable (Number.double? part)
        sexagesimalDouble (.zero false) 1 parts.reverse
      else readable (Number.double? body)
  return if negative then magnitude.negate else magnitude

/-- The date or moment that a text writes. -/
def moment (text : List Char) : Except DocumentError Value :=
  match MomentSpelling.read? (withoutFinalBreak text) with
  | some spelling => readable spelling.value?
  | none => .error .noMoment

end Schema

end Sparql.Yaml
