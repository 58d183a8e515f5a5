import Sparql.Text.Basic
import Sparql.Yaml.Property
import Sparql.Yaml.Scalar

/-!
# YAML tokens

A document is cut into tokens. Outside brackets the indentation of lines opens and closes collections. That
a text is the key of a mapping shows only at the colon behind it, so the places where a key may have begun
are remembered, one for every open bracket.
-/

namespace Sparql.Yaml

/-- A token. -/
inductive Token where
  | directive (directive : Directive)
  | documentStart
  | documentEnd
  | blockSequenceStart
  | blockMappingStart
  | blockEnd
  | flowSequenceStart
  | flowSequenceEnd
  | flowMappingStart
  | flowMappingEnd
  /-- The mark of an item of a sequence outside brackets. -/
  | blockEntry
  /-- The comma inside brackets. -/
  | flowEntry
  | key
  | value
  | aliasOf (name : String)
  | anchor (name : String)
  | tag (spelling : TagSpelling)
  | scalar (isPlain : Bool) (text : List Char)
  /-- The place where the text cannot be read on. -/
  | flaw (cause : DocumentError)
deriving DecidableEq, Repr

/-- A place where the key of a mapping may have begun. -/
structure KeyPlace where
  /-- How many tokens stand before it. -/
  tokens : Nat
  /-- Whether nothing but a key can stand there. -/
  isRequired : Bool
  line : Nat
  column : Nat
  index : Nat
deriving Repr

/-- Whether a key may still have begun at a place: on the same line, and not too far back. -/
def KeyPlace.isFresh (place : KeyPlace) (cursor : Cursor) : Bool :=
  place.line = cursor.line && cursor.index - place.index ≤ 1024

/-- The tokens so far, in reverse, and what the layout means for the next. -/
structure Layout where
  cursor : Cursor
  tokens : List Token := []
  count : Nat := 0
  /-- The columns of the open collections outside brackets, innermost first. -/
  indents : List Nat := []
  /-- Whether a key may begin here. -/
  allowsKey : Bool := true
  /-- The place of a possible key inside the innermost open bracket. -/
  key : Option KeyPlace := none
  /-- The places of possible keys outside the innermost open bracket, for every open bracket. -/
  outerKeys : List (Option KeyPlace) := []
deriving Repr

namespace Layout

/-- One more step, unless the text is no document. -/
abbrev Step := StateT Layout (Except DocumentError)

/-- Whether a bracket is open. -/
def inFlow (layout : Layout) : Bool := !layout.outerKeys.isEmpty

/-- The lowest column inside the innermost collection outside brackets. -/
def margin (layout : Layout) : Nat :=
  match layout.indents with
  | [] => 0
  | indent :: _ => indent + 1

/-- How many tokens are settled: those before the first that may still turn out to be a key. -/
def settled (layout : Layout) : Nat :=
  (layout.key :: layout.outerKeys).foldl
    (fun count key =>
      match key with
      | some place => if place.isFresh layout.cursor then min count place.tokens else count
      | none => count)
    layout.count

/-- The list with an element further down. -/
def insertAt {α : Type} (depth : Nat) (value : α) (values : List α) : List α :=
  values.take depth ++ value :: values.drop depth

namespace Step

/-- The text is no document. -/
def fail {α : Type} : Step α := throw .malformed

/-- The text is no document unless a condition holds. -/
def ensure (condition : Bool) : Step Unit := if condition then pure () else fail

/-- Reads on in the text. -/
def scan {α : Type} (reading : Scan α) : Step α := do
  let layout ← get
  let (value, cursor) ← (reading.run layout.cursor : Except DocumentError _)
  set { layout with cursor }
  return value

/-- Adds a token. -/
def push (token : Token) : Step Unit :=
  modify fun layout => { layout with tokens := token :: layout.tokens, count := layout.count + 1 }

/-- Adds a token before those that follow a place. -/
def pushAt (tokens : Nat) (token : Token) : Step Unit :=
  modify fun layout =>
    { layout with tokens := insertAt (layout.count - tokens) token layout.tokens, count := layout.count + 1 }

/-- Says whether a key may begin here. -/
def allowKey (allowed : Bool) : Step Unit := modify fun layout => { layout with allowsKey := allowed }

/-- Gives up the possible key inside the innermost bracket. -/
def dropKey : Step Unit := do
  let layout ← get
  ensure (layout.key.all (!·.isRequired))
  set { layout with key := none }

/-- Remembers that a key may begin here. -/
def markKey : Step Unit := do
  let layout ← get
  if layout.allowsKey then
    dropKey
    let isRequired := !layout.inFlow && layout.indents.head? = some layout.cursor.column
    let place : KeyPlace :=
      ⟨layout.count, isRequired, layout.cursor.line, layout.cursor.column, layout.cursor.index⟩
    modify fun layout => { layout with key := some place }

/-- The key place, unless it lies on an earlier line or too far back. -/
def freshKey (cursor : Cursor) (key : Option KeyPlace) : Step (Option KeyPlace) := do
  match key with
  | none => return none
  | some place =>
    if place.isFresh cursor then return key
    ensure (!place.isRequired)
    return none

/-- Gives up the possible keys that lie too far back. -/
def dropStaleKeys : Step Unit := do
  let layout ← get
  let outerKeys ← layout.outerKeys.mapM (freshKey layout.cursor)
  let key ← freshKey layout.cursor layout.key
  set { layout with key, outerKeys }

/-- Closes the collections that are indented further than a column; with none, all of them. -/
def closeIndents (column : Option Nat) : Step Unit := do
  let layout ← get
  if !layout.inFlow then
    let closed := layout.indents.takeWhile fun indent => column.all (· < indent)
    set { layout with
      indents := layout.indents.drop closed.length
      tokens := closed.map (fun _ => Token.blockEnd) ++ layout.tokens
      count := layout.count + closed.length }

/-- Opens a collection at a column, unless one is open there already; tells whether it did. -/
def openIndent (column : Nat) : Step Bool := do
  let layout ← get
  if layout.margin ≤ column then
    set { layout with indents := column :: layout.indents }
    return true
  else return false

/-- Opens a collection outside brackets where the cursor stands, unless one is open there. -/
def openHere (token : Token) : Step Unit := do
  let layout ← get
  if !layout.inFlow then
    ensure layout.allowsKey
    if ← openIndent layout.cursor.column then push token

/-- A token of some characters. -/
def mark (length : Nat) (token : Token) : Step Unit := do
  scan (Scan.skip length)
  push token

/-- A mark that begins or ends a document. -/
def documentMark (token : Token) : Step Unit := do
  closeIndents none
  dropKey
  allowKey false
  mark 3 token

/-- A line before a document. -/
def directive : Step Unit := do
  closeIndents none
  dropKey
  allowKey false
  push (.directive (← scan Scan.directive))

/-- An opening bracket. -/
def openFlow (token : Token) : Step Unit := do
  markKey
  modify fun layout => { layout with outerKeys := layout.key :: layout.outerKeys, key := none }
  allowKey true
  mark 1 token

/-- A closing bracket. -/
def closeFlow (token : Token) : Step Unit := do
  dropKey
  match (← get).outerKeys with
  | [] => fail
  | key :: outerKeys => modify fun layout => { layout with key, outerKeys }
  allowKey false
  mark 1 token

/-- A comma inside brackets. -/
def flowEntry : Step Unit := do
  allowKey true
  dropKey
  mark 1 .flowEntry

/-- The mark of an item. -/
def blockEntry : Step Unit := do
  openHere .blockSequenceStart
  allowKey true
  dropKey
  mark 1 .blockEntry

/-- The mark of a key. -/
def keyMark : Step Unit := do
  openHere .blockMappingStart
  allowKey (!(← get).inFlow)
  dropKey
  mark 1 .key

/-- The mark of a value. If a key may have begun before it, one has. -/
def valueMark : Step Unit := do
  let layout ← get
  match layout.key with
  | some place =>
    modify fun layout => { layout with key := none }
    pushAt place.tokens .key
    if !layout.inFlow then
      if ← openIndent place.column then pushAt place.tokens .blockMappingStart
    allowKey false
  | none =>
    openHere .blockMappingStart
    allowKey (!layout.inFlow)
    dropKey
  mark 1 .value

/-- A token that a key can begin with. -/
def keyPart (reading : Scan Token) : Step Unit := do
  markKey
  allowKey false
  push (← scan reading)

/-- A plain text. -/
def plain : Step Unit := do
  markKey
  let layout ← get
  let (text, lineEnded) ← scan (Scan.plain layout.inFlow layout.margin)
  allowKey lineEnded
  push (.scalar true text)

/-- A block of lines. -/
def block (isFolded : Bool) : Step Unit := do
  allowKey true
  dropKey
  push (.scalar false (← scan (Scan.block isFolded (← get).margin)))

/-- Moves to the next token, past blanks, comments and ends of lines, after which a key may begin outside
brackets. -/
def skipBlank : Nat → Step Unit
  | 0 => fail
  | fuel + 1 => do
    scan Scan.skipSpaces
    scan Scan.skipComment
    match ← scan Scan.lineBreak? with
    | some _ =>
      if !(← get).inFlow then allowKey true
      skipBlank fuel
    | none => return ()

/-- Whether a plain text can begin with a character, given the one after it. -/
def beginsPlain (inFlow : Bool) (c : Char) (after : Option Char) : Bool :=
  !(isBlankOrBreak c || "-?:,[]\x7b\x7d#&*!|>'\"%@`".toList.contains c)
    || (!atBlank after && (c = '-' || (!inFlow && (c = '?' || c = ':'))))

/-- The token that begins with a character. -/
def next (layout : Layout) (c : Char) : Step Unit := do
  let after := layout.cursor.peek 1
  let inFlow := layout.inFlow
  let atStart := layout.cursor.column = 0
  if c = '%' && atStart then directive
  else if atStart && layout.cursor.atDocumentMark '-' then documentMark .documentStart
  else if atStart && layout.cursor.atDocumentMark '.' then documentMark .documentEnd
  else if c = '[' then openFlow .flowSequenceStart
  else if c = '\x7b' then openFlow .flowMappingStart
  else if c = ']' then closeFlow .flowSequenceEnd
  else if c = '\x7d' then closeFlow .flowMappingEnd
  else if c = ',' then flowEntry
  else if c = '-' && atBlank after then blockEntry
  else if c = '?' && (inFlow || atBlank after) then keyMark
  else if c = ':' && (inFlow || atBlank after) then valueMark
  else if c = '*' then keyPart (Token.aliasOf <$> Scan.anchorName)
  else if c = '&' then keyPart (Token.anchor <$> Scan.anchorName)
  else if c = '!' then keyPart (Token.tag <$> Scan.tag)
  else if c = '|' && !inFlow then block false
  else if c = '>' && !inFlow then block true
  else if c = '\'' || c = '"' then keyPart (Token.scalar false <$> Scan.quoted c)
  else if beginsPlain inFlow c after then plain
  else fail

/-- The next token and what the layout puts before it; tells whether there is one. -/
def more : Step Bool := do
  skipBlank ((← get).cursor.rest.length + 1)
  dropStaleKeys
  closeIndents (some (← get).cursor.column)
  let layout ← get
  match layout.cursor.peek with
  | some c =>
    next layout c
    return true
  | none =>
    closeIndents none
    dropKey
    return false

end Step

/-- The tokens of the rest of a text. Where it cannot be read on, those that are not settled are given up. -/
def run : Nat → Layout → List Token
  | 0, layout => layout.tokens.reverse
  | fuel + 1, layout =>
    match Step.more.run layout with
    | .ok (true, layout) => run fuel layout
    | .ok (false, layout) => layout.tokens.reverse
    | .error cause =>
      (Token.flaw cause :: layout.tokens.drop (layout.count - layout.settled)).reverse

end Layout

/-- The place where a text begins, behind a byte-order mark. -/
def Cursor.start (text : List Char) : Cursor :=
  match text with
  | '\uFEFF' :: rest => { rest, index := 1 }
  | rest => { rest }

/-- The tokens of a text. -/
def tokens (text : List Char) : List Token :=
  if text.all isPrintable then Layout.run (text.length + 1) { cursor := .start (Text.unifyLines text) }
  else [.flaw .malformed]

end Sparql.Yaml
