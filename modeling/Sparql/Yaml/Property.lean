import Sparql.Text.Hex
import Sparql.Text.Utf8
import Sparql.Yaml.Cursor

/-!
# Anchors, tags and directives

What stands before a node and names it or its type, and the lines before a document that say how types are
spelt.
-/

namespace Sparql.Yaml

/-- A tag as it is written: the handle that stands for the beginning of its name, if it has one, and the
rest of the name. -/
structure TagSpelling where
  handle : Option String
  rest : String
deriving DecidableEq, Repr

/-- A line that says how a document is to be read. -/
inductive Directive where
  /-- The version of the language, of which only the first number matters. -/
  | version (major : Nat)
  /-- The beginning of names that a handle stands for. -/
  | handle (handle beginning : String)
  | other
deriving DecidableEq, Repr

namespace Scan

open Sparql.Text

/-- A name of one character at least. -/
def name : Scan String := do
  let chars ← takeWhile isNameChar
  ensure (!chars.isEmpty)
  return String.ofList chars

/-- A character that may follow the name of an anchor. -/
def endsAnchor (c : Char) : Bool := isBlankOrBreak c || "?:,]\x7d%@`".toList.contains c

/-- The name after the mark of an anchor or of an alias. -/
def anchorName : Scan String := do
  skip 1
  let name ← name
  ensure ((← peek).all endsAnchor)
  return name

/-- A character of a tag's name, besides percent signs. -/
def isTagChar (c : Char) : Bool := c.isAlphanum || "-;/?:@&=+$,_.!~*'()[]".toList.contains c

/-- The bytes that percent signs write from here on, after those read so far in reverse. -/
def percentBytes : Nat → List UInt8 → Scan (List UInt8)
  | 0, _ => fail
  | fuel + 1, bytes => do
    if (← peek) ≠ some '%' then return bytes.reverse
    match leadingCode? 2 ((← get).rest.drop 1) with
    | some value =>
      skip 3
      percentBytes fuel (UInt8.ofNat value :: bytes)
    | none => fail

/-- A part of a tag's name, with percent signs read, after what is read so far in reverse. -/
def tagChars : Nat → List Char → Scan (List Char)
  | 0, _ => fail
  | fuel + 1, read => do
    let read := (← takeWhile isTagChar).reverse ++ read
    if (← peek) ≠ some '%' then return read.reverse
    match Utf8.decode? (← percentBytes (← bound) []) with
    | some chars => tagChars fuel (chars.reverse ++ read)
    | none => fail

/-- A part of a tag's name. It is not empty, though it may stand for nothing. -/
def tagPart : Scan String := do
  ensure ((← peek).any fun c => isTagChar c || c = '%')
  return String.ofList (← tagChars (← bound) [])

/-- A handle: an exclamation mark, or two around a name, which may be empty. -/
def tagHandle : Scan String := do
  ensure ((← peek) = some '!')
  skip 1
  if (← peek) = some ' ' then return "!"
  let name ← takeWhile isNameChar
  ensure ((← peek) = some '!')
  skip 1
  return String.ofList ('!' :: name ++ ['!'])

/-- Whether a handle of two exclamation marks stands here, the first of which has been seen. -/
def hasHandle (rest : List Char) : Bool :=
  ((rest.drop 1).dropWhile fun c => !isSpaceOrBreak c && c ≠ '!').head? = some '!'

/-- A tag. -/
def tag : Scan TagSpelling := do
  let cursor ← get
  let spelling ←
    if cursor.peek 1 = some '<' then do
      skip 2
      let part ← tagPart
      ensure ((← peek) = some '>')
      skip 1
      pure ⟨none, part⟩
    else if atBlank (cursor.peek 1) then do
      skip 1
      pure ⟨none, "!"⟩
    else if hasHandle cursor.rest then do
      let handle ← tagHandle
      pure ⟨some handle, ← tagPart⟩
    else do
      skip 1
      pure ⟨some "!", ← tagPart⟩
  ensure (atSpace (← peek))
  return spelling

/-- A run of digits. -/
def number : Scan Nat := do
  let digits ← takeWhile Char.isDigit
  ensure (!digits.isEmpty)
  return digits.foldl (fun sum c => sum * 10 + (c.toNat - 48)) 0

/-- The version that a directive names. -/
def version : Scan Directive := do
  skipSpaces
  let major ← number
  ensure ((← peek) = some '.')
  skip 1
  let _ ← number
  ensure (atSpace (← peek))
  return .version major

/-- The handle that a directive declares. -/
def handleDirective : Scan Directive := do
  skipSpaces
  let handle ← tagHandle
  ensure ((← peek) = some ' ')
  skipSpaces
  let beginning ← tagPart
  ensure (atSpace (← peek))
  return .handle handle beginning

/-- A directive. -/
def directive : Scan Directive := do
  skip 1
  let name ← name
  ensure (atSpace (← peek))
  let directive ← match name with
    | "YAML" => version
    | "TAG" => handleDirective
    | _ => do
      skipWhile (!isBreak ·)
      pure .other
  finishLine
  return directive

end Scan

end Sparql.Yaml
