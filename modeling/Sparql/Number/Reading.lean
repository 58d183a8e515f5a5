import Sparql.Number.Decimal
import Sparql.Text.Basic
import Sparql.Text.Case

/-!
# Reading numbers

Numbers are read from text with blanks around them, in the digits of any script. Integers and doubles may
have single underscores between digits; decimals ignore underscores everywhere. The separators of files,
groups, records and units are blanks around decimals only.
-/

namespace Sparql.Number

open Sparql.Text

/-- A text with the digits of every script replaced by ASCII digits. -/
def asciiDigits (text : List Char) : List Char :=
  text.map fun c => match digitValue? c with
    | some value => digitChar value
    | none => c

/-- The text without its underscores, each of which stands between two digits. -/
def joinDigitGroups : List Char → Option (List Char)
  | [] => some []
  | '_' :: _ => none
  | c :: '_' :: d :: rest =>
    if isAsciiDigit c && isAsciiDigit d then (joinDigitGroups (d :: rest)).map (c :: ·) else none
  | c :: rest => (joinDigitGroups rest).map (c :: ·)

/-- The sign that a number may begin with. -/
def splitSign : List Char → Bool × List Char
  | '-' :: rest => (true, rest)
  | '+' :: rest => (false, rest)
  | text => (false, text)

/-- A blank that may stand around an integer or a double: any but the ASCII separators 28 to 31. -/
def isMargin (c : Char) : Bool := isBlank c && !(28 ≤ c.toNat && c.toNat ≤ 31)

/-- The text without the blanks around an integer or a double. -/
def trimMargin (text : List Char) : List Char :=
  ((text.dropWhile isMargin).reverse.dropWhile isMargin).reverse

/-- Numerals of more digits than this are neither read nor written. -/
def maxDigits : Nat := 4300

/-- Whether an integer has more digits than are written. Short ones are told by their size in bits. -/
def isLong (value : Int) : Bool := 3 * maxDigits < value.natAbs.log2 && Nat.pow 10 maxDigits ≤ value.natAbs

/-- The integer that a text writes. -/
def integer? (text : List Char) : Option Int := do
  let (negative, body) := splitSign (asciiDigits (trimMargin text))
  let digits ← if body.contains '_' then joinDigitGroups body else some body
  if digits.isEmpty || !digits.all isAsciiDigit || maxDigits < digits.length then none
  else
    let magnitude : Int := asciiNumber digits
    some (if negative then -magnitude else magnitude)

/-- A numeral of digits, a point and a power of ten, as a coefficient and an exponent. -/
def scaled? (text : List Char) : Option (Nat × Int) := do
  let whole := text.takeWhile isAsciiDigit
  let rest := text.dropWhile isAsciiDigit
  let (fraction, rest) := match rest with
    | '.' :: after => (after.takeWhile isAsciiDigit, after.dropWhile isAsciiDigit)
    | _ => ([], rest)
  if whole.isEmpty && fraction.isEmpty then none
  let coefficient := asciiNumber (whole ++ fraction)
  match rest with
  | [] => some (coefficient, -(fraction.length : Int))
  | mark :: after =>
    if mark != 'e' && mark != 'E' then none
    let (negative, digits) := splitSign after
    if digits.isEmpty || !digits.all isAsciiDigit then none
    let power : Int := asciiNumber digits
    some (coefficient, (if negative then -power else power) - fraction.length)

/-- The double that a text writes. -/
def double? (text : List Char) : Option Double := do
  let trimmed := asciiDigits (trimMargin text)
  let joined ← if trimmed.contains '_' then joinDigitGroups trimmed else some trimmed
  let (negative, body) := splitSign joined
  let word := body.map Char.toLower
  if word = "inf".toList ∨ word = "infinity".toList then some (.infinite negative)
  else if word = "nan".toList then some .nan
  else
    let (coefficient, exponent) ← scaled? body
    some (Double.ofScaled negative coefficient exponent)

/-- The largest power of ten that a decimal may have. -/
def maxDecimalExponent : Int := 999999999999999999

/-- The decimal that a text writes. -/
def decimal? (text : List Char) : Option Decimal := do
  let (negative, body) := splitSign (asciiDigits ((trim text).filter (· != '_')))
  let word := body.map Char.toLower
  if word = "inf".toList ∨ word = "infinity".toList then some (.infinite negative)
  else
    let (signaling, tail) := match word with
      | 's' :: rest => (true, rest)
      | _ => (false, word)
    match tail with
    | 'n' :: 'a' :: 'n' :: payload =>
      if payload.all isAsciiDigit then some (.nan negative signaling (asciiNumber payload)) else none
    | _ =>
      let (coefficient, exponent) ← scaled? body
      let digits : Int := (Nat.toDigits 10 coefficient).length
      if digits + exponent - 1 > maxDecimalExponent ∨ exponent < -2 * maxDecimalExponent then none
      else some (.finite negative coefficient exponent)

end Sparql.Number
