import Sparql.Text.Hex
import Sparql.Yaml.Cursor

/-!
# Texts in YAML

A text is written plainly, between quotes, or as a block of lines. In the first two a single line end is
read as a space, and of several the first is dropped; in a block, lines stay apart or are folded likewise.
-/

namespace Sparql.Yaml.Scan

open Sparql.Text

/-- Two ends of lines around empty lines are folded: one end alone is a space. -/
def folded (lineEnd : Char) (breaks : List Char) : List Char :=
  if lineEnd ≠ '\n' then lineEnd :: breaks else if breaks.isEmpty then [' '] else breaks

/-! ## Between quotes -/

/-- What an escape stands for. -/
def escaped? (c : Char) : Option Char :=
  match c with
  | '0' => some '\x00'
  | 'a' => some '\x07'
  | 'b' => some '\x08'
  | 't' | '\t' => some '\t'
  | 'n' => some '\n'
  | 'v' => some '\x0B'
  | 'f' => some '\x0C'
  | 'r' => some '\r'
  | 'e' => some '\x1B'
  | ' ' => some ' '
  | '"' => some '"'
  | '\\' => some '\\'
  | '/' => some '/'
  | 'N' => some '\u0085'
  | '_' => some '\u00A0'
  | 'L' => some '\u2028'
  | 'P' => some '\u2029'
  | _ => none

/-- How many digits the code of an escape has. -/
def codeLength? (c : Char) : Option Nat :=
  match c with
  | 'x' => some 2
  | 'u' => some 4
  | 'U' => some 8
  | _ => none

/-- The character with a code. -/
def characterOf (code : Nat) : Except DocumentError Char :=
  if 0x80000000 ≤ code then .error .overflow
  else match character? code with
    | some character => .ok character
    | none => .error .noSuchCharacter

/-- The character that an escape writes by its code. -/
def codedCharacter (count : Nat) : Scan Char := do
  match leadingCode? count (← get).rest with
  | some code =>
    let character ← (characterOf code : Except DocumentError Char)
    skip count
    return character
  | none => fail

/-- The ends of empty lines, with the blanks at the beginnings of lines dropped. -/
def quotedBreaks : Nat → List Char → Scan (List Char)
  | 0, _ => fail
  | fuel + 1, breaks => do
    ensure (!(← get).atSeparator)
    skipWhile fun c => c = ' ' || c = '\t'
    match ← lineBreak? with
    | some lineEnd => quotedBreaks fuel (lineEnd :: breaks)
    | none => return breaks.reverse

/-- An escape, whose backslash has been read. -/
def escape (c : Char) : Scan (List Char) := do
  match escaped? c, codeLength? c with
  | some character, _ =>
    skip 1
    return [character]
  | none, some count =>
    skip 1
    return [← codedCharacter count]
  | none, none =>
    ensure (isBreak c)
    let _ ← lineBreak?
    quotedBreaks (← bound) []

/-- A run of blanks, or the ends of lines between two lines of a text. -/
def quotedSpace : Scan (List Char) := do
  let blanks ← takeWhile fun c => c = ' ' || c = '\t'
  ensure (← peek).isSome
  match ← lineBreak? with
  | some lineEnd => return folded lineEnd (← quotedBreaks (← bound) [])
  | none => return blanks

/-- The rest of a quoted text, with what stands before it in reverse. -/
def quotedRest (quote : Char) : Nat → List Char → Scan (List Char)
  | 0, _ => fail
  | fuel + 1, read => do
    match ← peek with
    | none => fail
    | some c =>
      if isBlankOrBreak c then quotedRest quote fuel ((← quotedSpace).reverse ++ read)
      else if c = quote then
        if quote = '\'' && (← get).peek 1 = some '\'' then
          skip 2
          quotedRest quote fuel ('\'' :: read)
        else
          skip 1
          return read.reverse
      else if c = '\\' && quote = '"' then
        skip 1
        match ← peek with
        | some next => quotedRest quote fuel ((← escape next).reverse ++ read)
        | none => fail
      else
        skip 1
        quotedRest quote fuel (c :: read)

/-- A text between the quotes that begin here. -/
def quoted (quote : Char) : Scan (List Char) := do
  skip 1
  quotedRest quote (← bound) []

/-! ## Plain -/

/-- A character that has a meaning of its own inside brackets. -/
def isFlowMark (c : Char) : Bool := c = ',' || c = '[' || c = ']' || c = '\x7b' || c = '\x7d'

/-- Whether a plain text ends here, inside brackets or outside. -/
def endsPlain (inFlow : Bool) (next : Option Char) (after : Option Char) : Bool :=
  match next with
  | none => true
  | some ':' => atBlank after || (inFlow && after.any isFlowMark)
  | some c => isBlankOrBreak c || (inFlow && (c = '?' || isFlowMark c))

/-- The characters of a plain text up to a blank or its end. -/
def plainChars (inFlow : Bool) (read : List Char) : List Char → List Char
  | [] => read.reverse
  | c :: rest => if endsPlain inFlow (some c) rest.head? then read.reverse else plainChars inFlow (c :: read) rest

/-- The ends of lines after the first, and whether the next line sets documents apart. -/
def plainBreaks : Nat → List Char → Scan (Option (List Char))
  | 0, _ => fail
  | fuel + 1, breaks => do
    if (← get).column = 0 && (← get).atSeparator then return none
    skipSpaces
    match ← lineBreak? with
    | some lineEnd => plainBreaks fuel (lineEnd :: breaks)
    | none => return some breaks.reverse

/-- What joins two parts of a plain text, and whether a line ended. There is none before a line that sets
documents apart. -/
def plainSpace : Scan (List Char × Bool) := do
  let spaces ← takeWhile (· = ' ')
  match ← lineBreak? with
  | some lineEnd =>
    match ← plainBreaks (← bound) [] with
    | some breaks => return (folded lineEnd breaks, true)
    | none => return ([], true)
  | none => return (spaces, false)

/-- The parts of a plain text from here on; `read` holds those before in reverse, `space` what joins them to
the next. Lines that go on with the text stand at the margin at least. The flag says whether a line has
ended since the last part. -/
def plainRest (inFlow : Bool) (margin : Nat) : Nat → List Char → List Char → Bool → Scan (List Char × Bool)
  | 0, _, _, _ => fail
  | fuel + 1, read, space, lineEnded => do
    let cursor ← get
    let part := if cursor.peek = some '#' then [] else plainChars inFlow [] cursor.rest
    if part.isEmpty then return (read.reverse, lineEnded)
    skip part.length
    let read := part.reverse ++ space.reverse ++ read
    let (space, lineEnded) ← plainSpace
    if space.isEmpty || (!inFlow && (← get).column < margin) then return (read.reverse, lineEnded)
    plainRest inFlow margin fuel read space lineEnded

/-- A plain text, and whether a line ended behind it. -/
def plain (inFlow : Bool) (margin : Nat) : Scan (List Char × Bool) := do
  plainRest inFlow margin (← bound) [] [] false

/-! ## In blocks -/

/-- What becomes of the line ends after the last line of a block. -/
inductive Chomping where
  | strip
  | clip
  | keep
deriving DecidableEq, Repr

/-- The chomping that a sign asks for. -/
def chomping? : Option Char → Option Chomping
  | some '+' => some .keep
  | some '-' => some .strip
  | _ => none

/-- A chomping sign if it is here. -/
def chompingSign : Scan (Option Chomping) := do
  match chomping? (← peek) with
  | some chomping =>
    skip 1
    return some chomping
  | none => return none

/-- The digit of an indentation if it is here. -/
def indentationDigit : Scan (Option Nat) := do
  match ← peek with
  | some c =>
    if c.isDigit then
      ensure (c ≠ '0')
      skip 1
      return some (c.toNat - 48)
    else return none
  | none => return none

/-- The signs after the mark of a block, in either order. -/
def blockSigns : Scan (Chomping × Option Nat) := do
  let before ← chompingSign
  let indentation ← indentationDigit
  let after ← if before.isNone && indentation.isSome then chompingSign else pure none
  ensure (atSpace (← peek))
  return ((before.or after).getD .clip, indentation)

/-- Moves past spaces, up to a column. -/
def skipIndentation (indent : Nat) : Scan Unit := do
  let cursor ← get
  skip ((cursor.rest.take (indent - cursor.column)).takeWhile (· = ' ')).length

/-- The ends of the empty lines before the next line of a block with a known indentation. -/
def blockBreaks (indent : Nat) : Nat → List Char → Scan (List Char)
  | 0, _ => fail
  | fuel + 1, breaks => do
    skipIndentation indent
    match ← lineBreak? with
    | some lineEnd => blockBreaks indent fuel (lineEnd :: breaks)
    | none => return breaks.reverse

/-- The ends of the empty lines before the first line of a block, and the widest indentation among them and
that line. -/
def leadingBreaks : Nat → List Char → Nat → Scan (List Char × Nat)
  | 0, _, _ => fail
  | fuel + 1, breaks, widest => do
    skipSpaces
    let widest := max widest (← get).column
    match ← lineBreak? with
    | some lineEnd => leadingBreaks fuel (lineEnd :: breaks) widest
    | none => return (breaks.reverse, widest)

/-- Whether the next character is a space or a tab. -/
def atIndented (next : Option Char) : Bool := next = some ' ' || next = some '\t'

/-- The lines of a block from here on. `read` holds what stands before in reverse, `breaks` the ends of the
empty lines before this one. The result is the text without the last line end, that end, and the ends of the
empty lines after it. -/
def blockLines (isFolded : Bool) (indent : Nat) :
    Nat → List Char → List Char → List Char → Scan (List Char × List Char × List Char)
  | 0, _, _, _ => fail
  | fuel + 1, read, lineEnd, breaks => do
    let cursor ← get
    if cursor.column ≠ indent || cursor.peek.isNone then return (read, lineEnd, breaks)
    let indented := atIndented cursor.peek
    let line ← takeWhile (!isBreak ·)
    let read := line.reverse ++ breaks.reverse ++ read
    let lineEnd := (← lineBreak?).toList
    let breaks ← blockBreaks indent (← bound) []
    let cursor ← get
    if cursor.column ≠ indent || cursor.peek.isNone then return (read, lineEnd, breaks)
    if isFolded && lineEnd = ['\n'] && !indented && !atIndented cursor.peek then
      blockLines isFolded indent fuel (if breaks.isEmpty then ' ' :: read else read) [] breaks
    else blockLines isFolded indent fuel (lineEnd ++ read) [] breaks

/-- A block of lines whose mark is here. The lines stand at the margin at least. -/
def block (isFolded : Bool) (margin : Nat) : Scan (List Char) := do
  skip 1
  let (chomping, indentation) ← blockSigns
  finishLine
  let margin := max margin 1
  let (breaks, indent) ← match indentation with
    | some width => do
      let indent := margin + width - 1
      pure (← blockBreaks indent (← bound) [], indent)
    | none => do
      let (breaks, widest) ← leadingBreaks (← bound) [] 0
      pure (breaks, max margin widest)
  let (read, lineEnd, breaks) ← blockLines isFolded indent (← bound) [] [] breaks
  return match chomping with
    | .strip => read.reverse
    | .clip => read.reverse ++ lineEnd
    | .keep => read.reverse ++ lineEnd ++ breaks

end Sparql.Yaml.Scan
