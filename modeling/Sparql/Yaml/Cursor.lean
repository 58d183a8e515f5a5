/-!
# Reading YAML character by character

A cursor is a place in a text. It knows its line and column, since layout decides what a character means.
Reading either comes to a value and a later place, or to the reason why the text is no document.
-/

namespace Sparql.Yaml

/-- Why a text is no document. -/
inductive DocumentError where
  /-- It breaks the grammar, or names something that is not there. -/
  | malformed
  /-- An escape whose code is beyond the last character. -/
  | noSuchCharacter
  /-- A number, or the code of an escape, beyond every limit. -/
  | overflow
  /-- A number, date or time whose text cannot be read. -/
  | unreadable
  /-- A text that is no truth value. -/
  | noTruthValue
  /-- A number without any text. -/
  | noText
  /-- A text without the form of a date or time. -/
  | noMoment
  /-- A mapping where a date or time has to be written out. -/
  | notText
  /-- Collections within each other beyond every limit. -/
  | tooDeep
deriving DecidableEq, Repr

/-- A place in a text. -/
structure Cursor where
  rest : List Char
  line : Nat := 0
  column : Nat := 0
  index : Nat := 0
deriving Repr

/-- Reading on from a place. -/
abbrev Scan := StateT Cursor (Except DocumentError)

/-! ## Kinds of characters -/

/-- A character that ends a line. -/
def isBreak (c : Char) : Bool := c = '\n' || c = '\u0085' || c = '\u2028' || c = '\u2029'

/-- A character that ends a line, or a space. -/
def isSpaceOrBreak (c : Char) : Bool := c = ' ' || isBreak c

/-- A character that ends a line, a space or a tab. -/
def isBlankOrBreak (c : Char) : Bool := c = '\t' || isSpaceOrBreak c

/-- Whether a line ends here. -/
def atLineEnd (next : Option Char) : Bool := next.all isBreak

/-- Whether a space follows, or a line ends here. -/
def atSpace (next : Option Char) : Bool := next.all isSpaceOrBreak

/-- Whether a space or a tab follows, or a line ends here. -/
def atBlank (next : Option Char) : Bool := next.all isBlankOrBreak

/-- A letter or digit of ASCII, a hyphen or an underscore. -/
def isNameChar (c : Char) : Bool := c.isAlphanum || c = '-' || c = '_'

/-- A character that a document may hold. -/
def isPrintable (c : Char) : Bool :=
  let code := c.toNat
  code = 9 || code = 10 || code = 13 || (0x20 ≤ code && code ≤ 0x7E) || code = 0x85
    || (0xA0 ≤ code && code ≤ 0xD7FF) || (0xE000 ≤ code && code ≤ 0xFFFD) || 0x10000 ≤ code

/-! ## Moving -/

namespace Cursor

/-- The place behind one character, which is no longer part of the rest. A byte-order mark has no width. -/
def passed (cursor : Cursor) (c : Char) : Cursor :=
  if isBreak c then { cursor with line := cursor.line + 1, column := 0, index := cursor.index + 1 }
  else if c = '\uFEFF' then { cursor with index := cursor.index + 1 }
  else { cursor with column := cursor.column + 1, index := cursor.index + 1 }

/-- The place some characters further on. -/
def skip (cursor : Cursor) (count : Nat) : Cursor :=
  (cursor.rest.take count).foldl passed { cursor with rest := cursor.rest.drop count }

/-- The character that stands some places further on. -/
def peek (cursor : Cursor) (distance : Nat := 0) : Option Char := (cursor.rest.drop distance).head?

/-- Whether a line of three equal marks begins here, which ends or begins a document. -/
def atDocumentMark (cursor : Cursor) (mark : Char) : Bool :=
  cursor.rest.take 3 == [mark, mark, mark] && atBlank (cursor.peek 3)

/-- Whether the line after a break sets documents apart. -/
def atSeparator (cursor : Cursor) : Bool := cursor.atDocumentMark '-' || cursor.atDocumentMark '.'

end Cursor

namespace Scan

/-- The text is no document. -/
def fail {α : Type} : Scan α := throw .malformed

/-- The text is no document unless a condition holds. -/
def ensure (condition : Bool) : Scan Unit := if condition then pure () else fail

/-- The next character. -/
def peek : Scan (Option Char) := return (← get).peek

/-- Moves on. -/
def skip (count : Nat) : Scan Unit := modify (·.skip count)

/-- The characters from here on that satisfy a condition. -/
def takeWhile (p : Char → Bool) : Scan (List Char) := do
  let taken := (← get).rest.takeWhile p
  skip taken.length
  return taken

/-- Moves past the characters that satisfy a condition. -/
def skipWhile (p : Char → Bool) : Scan Unit := do
  let _ ← takeWhile p

/-- Moves past spaces. -/
def skipSpaces : Scan Unit := skipWhile (· = ' ')

/-- Moves past a comment if one begins here. -/
def skipComment : Scan Unit := do
  if (← peek) = some '#' then skipWhile (!isBreak ·)

/-- Moves past the end of a line if it is here. Separators of lines and paragraphs stand for themselves, all
other ends for a line feed. -/
def lineBreak? : Scan (Option Char) := do
  match ← peek with
  | some c =>
    if isBreak c then
      skip 1
      return some (if c = '\u0085' then '\n' else c)
    else return none
  | none => return none

/-- Moves to the next line, past blanks and a comment. -/
def finishLine : Scan Unit := do
  skipSpaces
  skipComment
  ensure (atLineEnd (← peek))
  let _ ← lineBreak?

/-- How many steps reading can take at most. -/
def bound : Scan Nat := return (← get).rest.length + 1

end Scan

end Sparql.Yaml
