/-!
# Characters and lines

The classes of characters that every reader of text follows, and the lines that a text is made of.
-/

namespace Sparql.Text

/-! ## Range tables

Character classes beyond ASCII are tables of closed ranges of code points in ascending order.
-/

/-- Whether a code point lies in one of the closed ranges. -/
def inRanges (ranges : List (Nat × Nat)) (code : Nat) : Bool :=
  ranges.any fun range => range.1 ≤ code && code ≤ range.2

/-! ## Blanks

White space in the wide sense: the ASCII controls 9 to 13 and 28 to 31, the space, and the separators of
other scripts. Trimming and the reading of the first word follow this class.
-/

/-- A blank of any script. The zero-width space and the byte-order mark are none. -/
def isBlank (c : Char) : Bool :=
  let code := c.toNat
  (9 ≤ code && code ≤ 13) || (28 ≤ code && code ≤ 32) || code == 0x85 || code == 0xA0
    || code == 0x1680 || (0x2000 ≤ code && code ≤ 0x200A) || code == 0x2028 || code == 0x2029
    || code == 0x202F || code == 0x205F || code == 0x3000

/-- The text without the blanks it begins with. -/
def trimLeft (text : List Char) : List Char := text.dropWhile isBlank

/-- The text without the blanks at its end. -/
def trimRight (text : List Char) : List Char := (text.reverse.dropWhile isBlank).reverse

/-- The text without the blanks at either end. -/
def trim (text : List Char) : List Char := trimRight (trimLeft text)

/-- A text with nothing but blanks in it. -/
def isAllBlank (text : List Char) : Bool := text.all isBlank

/-- What stands before the first blank, once leading blanks are dropped. -/
def firstWord (text : List Char) : List Char := (trimLeft text).takeWhile (!isBlank ·)

/-- `trim` on strings. -/
def trimmed (text : String) : String := String.ofList (trim text.toList)

/-! ## Decimal digits

Every script's decimal digits come in runs of ten consecutive code points, from zero to nine, so the
zeros determine all of them.
-/

/-- The code points of the digit zero, in every script that has decimal digits. -/
def digitZeros : List Nat := [
  48, 1632, 1776, 1984, 2406, 2534, 2662, 2790, 2918, 3046, 3174, 3302,
  3430, 3558, 3664, 3792, 3872, 4160, 4240, 6112, 6160, 6470, 6608, 6784,
  6800, 6992, 7088, 7232, 7248, 42528, 43216, 43264, 43472, 43504, 43600, 44016,
  65296, 66720, 68912, 69734, 69872, 69942, 70096, 70384, 70736, 70864, 71248, 71360,
  71472, 71904, 72016, 72784, 73040, 73120, 92768, 92864, 93008, 120782, 120792, 120802,
  120812, 120822, 123200, 123632, 125264, 130032]

/-- The value of a decimal digit of any script. -/
def digitValue? (c : Char) : Option Nat :=
  if c.toNat < 128 then
    if 48 ≤ c.toNat ∧ c.toNat ≤ 57 then some (c.toNat - 48) else none
  else (digitZeros.find? fun start => start ≤ c.toNat && c.toNat < start + 10).map (c.toNat - ·)

/-- An ASCII decimal digit. -/
def isAsciiDigit (c : Char) : Bool := 48 ≤ c.toNat && c.toNat ≤ 57

/-- The number that a run of ASCII digits writes. -/
def asciiNumber (digits : List Char) : Nat :=
  digits.foldl (fun sum c => sum * 10 + (c.toNat - 48)) 0

/-- The character of a decimal digit below ten. -/
def digitChar (value : Nat) : Char := Char.ofNat (48 + value)

/-! ## Lines

A line ends with a line feed, with a carriage return, or with both in this order. The last line needs no
end.
-/

/-- A text with a line feed for every end of a line, after what has been read in reverse. -/
def unifyLinesOnto (read : List Char) : List Char → List Char
  | '\r' :: '\n' :: rest => unifyLinesOnto ('\n' :: read) rest
  | '\r' :: rest => unifyLinesOnto ('\n' :: read) rest
  | c :: rest => unifyLinesOnto (c :: read) rest
  | [] => read.reverse

/-- The text with a line feed for every end of a line. -/
def unifyLines (text : List Char) : List Char := unifyLinesOnto [] text

/-- The lines of a text with unified ends, the last of which may be empty. -/
def lines (text : List Char) : List (List Char) := text.splitOn '\n'

end Sparql.Text
