/-!
# Hexadecimal digits

Digits in base sixteen, as escapes, percent signs and binary literals use them.

Many notations write a character as a run of hexadecimal digits. A code that is half of a pair is no
character; where a text needs one all the same, U+FFFD stands for it.
-/

namespace Sparql.Text

/-- The value of an ASCII hexadecimal digit, in either case. -/
def hexValue? (c : Char) : Option Nat :=
  let code := c.toNat
  if 48 ≤ code ∧ code ≤ 57 then some (code - 48)
  else if 97 ≤ code ∧ code ≤ 102 then some (code - 87)
  else if 65 ≤ code ∧ code ≤ 70 then some (code - 55)
  else none

/-- The lower-case hexadecimal digit of a value below sixteen. -/
def hexLower (value : Nat) : Char :=
  if value < 10 then Char.ofNat (48 + value) else Char.ofNat (87 + value)

/-- The upper-case hexadecimal digit of a value below sixteen. -/
def hexUpper (value : Nat) : Char :=
  if value < 10 then Char.ofNat (48 + value) else Char.ofNat (55 + value)

/-- The lowest `width` digits of a value in lower case, highest first. -/
def hexDigits : Nat → Nat → List Char
  | 0, _ => []
  | width + 1, value => hexDigits width (value / 16) ++ [hexLower (value % 16)]

/-- The value of a run of hexadecimal digits. -/
def hexNumber? (digits : List Char) : Option Nat :=
  digits.foldl (fun sum c => do return (← sum) * 16 + (← hexValue? c)) (some 0)

/-- Two digits for every byte. -/
def hexBytes (bytes : List UInt8) : List Char := bytes.flatMap fun b => hexDigits 2 b.toNat

/-- The bytes written by pairs of hexadecimal digits. -/
def bytesOfHex? : List Char → Option (List UInt8)
  | [] => some []
  | [_] => none
  | high :: low :: rest => do
    let h ← hexValue? high
    let l ← hexValue? low
    return UInt8.ofNat (h * 16 + l) :: (← bytesOfHex? rest)

/-! ## Characters by their codes -/

/-- The character with a code, if a text can hold it. Half a pair stands for U+FFFD. -/
def character? (code : Nat) : Option Char :=
  if 0x10FFFF < code then none
  else if 0xD800 ≤ code ∧ code ≤ 0xDFFF then some '\uFFFD'
  else some (Char.ofNat code)

/-- The code that exactly `count` leading hexadecimal digits write. -/
def leadingCode? (count : Nat) (text : List Char) : Option Nat :=
  let digits := text.take count
  if digits.length = count then hexNumber? digits else none

end Sparql.Text
