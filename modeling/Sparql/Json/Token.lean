import Sparql.Number.Reading
import Sparql.Text.Hex

/-!
# Tokens of JSON

A JSON text is cut into tokens character by character. What is no token becomes `Token.invalid`, so the cut
itself never fails, and the first such token ends the reading of a document.
-/

namespace Sparql.Json

open Sparql.Text

/-- A token. -/
inductive Token where
  | openList
  | closeList
  | openMap
  | closeMap
  | colon
  | comma
  | null
  | bool (value : Bool)
  | int (value : Int)
  | float (value : Double)
  | text (value : String)
  /-- An integer of more digits than are read. -/
  | oversized
  /-- Characters that no token has. -/
  | invalid
deriving DecidableEq, Repr

/-! ## Strings -/

/-- The code units of a string as characters: the two halves of a pair make one, and a half without its
other is replaced. -/
def joinUnits : List Nat → List Char
  | high :: low :: rest =>
    if 0xD800 ≤ high ∧ high < 0xDC00 then
      if 0xDC00 ≤ low ∧ low < 0xE000 then
        Char.ofNat (0x10000 + (high - 0xD800) * 0x400 + (low - 0xDC00)) :: joinUnits rest
      else Char.ofNat 0xFFFD :: joinUnits (low :: rest)
    else if 0xDC00 ≤ high ∧ high < 0xE000 then Char.ofNat 0xFFFD :: joinUnits (low :: rest)
    else Char.ofNat high :: joinUnits (low :: rest)
  | [unit] => [if 0xD800 ≤ unit ∧ unit < 0xE000 then Char.ofNat 0xFFFD else Char.ofNat unit]
  | [] => []

/-- The character that a backslash and a letter stand for. -/
def escaped? : Char → Option Nat
  | '"' => some 34
  | '\\' => some 92
  | '/' => some 47
  | 'b' => some 8
  | 'f' => some 12
  | 'n' => some 10
  | 'r' => some 13
  | 't' => some 9
  | _ => none

/-! ## Words and numbers -/

/-- A character of a number or of a word. -/
def isWordCharacter (c : Char) : Bool := c.isAlphanum || c = '+' || c = '-' || c = '.'

/-- Whether digits make a whole part: no zero stands before another digit. -/
def isWholePart : List Char → Bool
  | ['0'] => true
  | c :: rest => isAsciiDigit c && c ≠ '0' && rest.all isAsciiDigit
  | [] => false

/-- What comes after the whole part of a number that is no integer: a fraction, a power of ten or both. -/
def isFraction (text : List Char) : Bool :=
  let afterPoint := match text with
    | '.' :: rest => if (rest.takeWhile isAsciiDigit).isEmpty then ['.'] else rest.dropWhile isAsciiDigit
    | rest => rest
  match afterPoint with
  | [] => true
  | mark :: rest =>
    let digits := match rest with
      | '+' :: digits | '-' :: digits => digits
      | digits => digits
    (mark = 'e' || mark = 'E') && !digits.isEmpty && digits.all isAsciiDigit

/-- The token of a number, given its digits before the point and what follows them. -/
def numberToken (negative : Bool) (whole rest : List Char) : Token :=
  if !isWholePart whole then .invalid
  else if rest.isEmpty then
    if Number.maxDigits < whole.length then .oversized
    else .int (if negative then -asciiNumber whole else asciiNumber whole)
  else if isFraction rest then
    match Number.double? (if negative then '-' :: (whole ++ rest) else whole ++ rest) with
    | some value => .float value
    | none => .invalid
  else .invalid

/-- The token of a run of word characters. -/
def wordToken (word : List Char) : Token :=
  match String.ofList word with
  | "null" => .null
  | "true" => .bool true
  | "false" => .bool false
  | "NaN" => .float .nan
  | "Infinity" => .float (.infinite false)
  | "-Infinity" => .float (.infinite true)
  | _ =>
    let (negative, body) := match word with
      | '-' :: rest => (true, rest)
      | rest => (false, rest)
    numberToken negative (body.takeWhile isAsciiDigit) (body.dropWhile isAsciiDigit)

/-! ## The cut -/

/-- Where in a token the cut stands. What has been read of the token is kept in reverse. -/
inductive Mode where
  | between
  | word (read : List Char)
  | text (read : List Nat)
  | escape (read : List Nat)
  /-- In the hexadecimal digits of an escape: how many are missing, and their value so far. -/
  | unit (read : List Nat) (missing value : Nat)
deriving DecidableEq, Repr

/-- The four characters between tokens. -/
def isSpace (c : Char) : Bool := c = ' ' || c = '\t' || c = '\n' || c = '\r'

/-- The tokens that a character completes between other tokens, and where it leads. -/
def start (c : Char) : List Token × Mode :=
  if isSpace c then ([], .between)
  else if c = '[' then ([.openList], .between)
  else if c = ']' then ([.closeList], .between)
  else if c = '\x7b' then ([.openMap], .between)
  else if c = '\x7d' then ([.closeMap], .between)
  else if c = ':' then ([.colon], .between)
  else if c = ',' then ([.comma], .between)
  else if c = '"' then ([], .text [])
  else if isWordCharacter c then ([], .word [c])
  else ([.invalid], .between)

/-- The tokens that a character completes, and where it leads. -/
def step (mode : Mode) (c : Char) : List Token × Mode :=
  match mode with
  | .between => start c
  | .word read =>
    if isWordCharacter c then ([], .word (c :: read))
    else
      let (tokens, next) := start c
      (wordToken read.reverse :: tokens, next)
  | .text read =>
    if c = '"' then ([.text (String.ofList (joinUnits read.reverse))], .between)
    else if c = '\\' then ([], .escape read)
    else if c.toNat < 32 then ([.invalid], .between)
    else ([], .text (c.toNat :: read))
  | .escape read =>
    if c = 'u' then ([], .unit read 3 0)
    else match escaped? c with
      | some code => ([], .text (code :: read))
      | none => ([.invalid], .between)
  | .unit read missing value =>
    match hexValue? c with
    | none => ([.invalid], .between)
    | some digit =>
      match missing with
      | 0 => ([], .text ((value * 16 + digit) :: read))
      | missing + 1 => ([], .unit read missing (value * 16 + digit))

/-- The tokens that the end of the text completes. -/
def finish : Mode → List Token
  | .between => []
  | .word read => [wordToken read.reverse]
  | .text _ | .escape _ | .unit .. => [.invalid]

/-- The tokens from some place on, after those that stand in reverse. -/
def tokensFrom (read : List Token) (mode : Mode) : List Char → List Token
  | [] => read.reverse ++ finish mode
  | c :: rest =>
    let (tokens, next) := step mode c
    tokensFrom (tokens.reverse ++ read) next rest

/-- The tokens of a text. -/
def tokens (text : List Char) : List Token := tokensFrom [] .between text

end Sparql.Json
