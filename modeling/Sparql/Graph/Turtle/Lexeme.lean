import Sparql.Graph.Spelling
import Sparql.Text.Basic
import Sparql.Text.Case

/-!
# Pieces of Turtle

Spaces and comments, keywords, names, numbers and texts, each read from the beginning of a list of
characters. What is not there is `none`; a piece that begins and is broken off makes the whole document
unreadable.
-/

namespace Sparql.Graph.Turtle

open Sparql.Text

/-- What reading a piece comes to. -/
inductive Piece (α : Type) where
  /-- The piece is not here. -/
  | absent
  /-- The piece begins here but is wrong. -/
  | broken
  | found (value : α) (rest : List Char)
deriving Repr

/-! ## Spaces and keywords -/

/-- What stands behind spaces, line ends and comments. The flag says whether a comment is open. -/
def skipFrom : Bool → List Char → List Char
  | _, [] => []
  | true, c :: rest => skipFrom (c ≠ '\n') rest
  | false, c :: rest =>
    if c = ' ' || c = '\t' || c = '\n' then skipFrom false rest
    else if c = '#' then skipFrom true rest
    else c :: rest

/-- What stands behind spaces, line ends and comments. -/
def skipSpace (text : List Char) : List Char := skipFrom false text

/-- A character that no local name can hold. -/
def endsLocalName (c : Char) : Bool := "\t\r\n !\"#$&'()*,+/;<=>?@[\\]^`\x7b|\x7d~".toList.contains c

/-- A character that ends a keyword. -/
def endsKeyword (c : Char) : Bool := endsLocalName c || c = '.'

/-- A character that no prefix can hold. -/
def endsPrefix (c : Char) : Bool := endsLocalName c || c = ':'

/-- What stands behind a word that ends here. -/
def behindWord? (word text : List Char) (ends : Char → Bool) : Option (List Char) :=
  let rest := text.drop word.length
  if text.take word.length = word && rest.head?.any ends then some rest else none

/-- What stands behind a keyword with an at sign before it, which plain keywords may lack. -/
def behindKeyword? (word : String) (isPlain : Bool) (text : List Char) : Option (List Char) :=
  match text with
  | '@' :: text => behindWord? word.toList text endsKeyword
  | _ => if isPlain then behindWord? word.toList text endsKeyword else none

/-- What stands behind the keyword that declares a prefix. A colon in the place behind it is enough. -/
def behindPrefixMark? (isPlain : Bool) (text : List Char) : Option (List Char) :=
  match text with
  | '@' :: text => atWord text
  | _ => if isPlain then atWord text else none
where
  atWord (text : List Char) : Option (List Char) :=
    let rest := text.drop 6
    if rest.head? = some ':' then some rest else behindWord? "prefix".toList text endsKeyword

/-- What stands behind a keyword, given in lower case, that is written in either case. -/
def behindAnyCase? (word : String) (text : List Char) : Option (List Char) :=
  let rest := text.drop word.length
  if toLower (text.take word.length) = word.toList && rest.head?.any endsLocalName then some rest else none

/-! ## Names -/

/-- A character that a number can begin with. -/
def beginsNumber (c : Char) : Bool := isAsciiDigit c || c = '-' || c = '+' || c = '.'

/-- A character that may follow a backslash in a local name. -/
def isEscapable (c : Char) : Bool := "(_~.-!$&'()*+,;=/?#@%)".toList.contains c

/-- A local name up to a character that ends it, after what has been read in reverse; the last character
stands beside it as it is written. -/
def localFrom (ends : Char → Bool) (read : List Char) (last : Char) : List Char → Piece (List Char × Char)
  | [] => .found (read, last) []
  | '\\' :: c :: rest => if isEscapable c then localFrom ends (c :: read) c rest else .broken
  | c :: rest =>
    if c = '\\' then .broken
    else if ends c then .found (read, last) (c :: rest)
    else if c = '%' && (leadingCode? 2 rest).isNone then .broken
    else localFrom ends (c :: read) c rest

/-- A local name behind the colon. It does not end in a point and is not a point alone. -/
def localName (ends : Char → Bool) (text : List Char) : Piece String :=
  match localFrom ends [] ':' text with
  | .absent => .absent
  | .broken => .broken
  | .found (read, last) rest =>
    if last ≠ '.' then .found (String.ofList read.reverse) rest
    else match read.drop 1 with
      | [] => .absent
      | read => .found (String.ofList read.reverse) ('.' :: rest)

/-- The prefix of a name, without a point at its end, and what stands behind it. -/
def prefixOf (text : List Char) : List Char × List Char :=
  match text with
  | [] => ([], [])
  | c :: rest =>
    if endsPrefix c then ([], text)
    else
      let run := c :: rest.takeWhile (!endsPrefix ·)
      let run := if run.getLast? = some '.' then run.dropLast else run
      (run, text.drop run.length)

/-- A name with a prefix. The labels of blank nodes hold no colon. -/
def name (text : List Char) : Piece (String × String) :=
  match text with
  | [] => .absent
  | c :: _ =>
    if beginsNumber c then .absent
    else match prefixOf text with
      | (mark, ':' :: rest) =>
        let mark := String.ofList mark
        match localName (if mark = "_" then endsPrefix else endsLocalName) rest with
        | .absent => .absent
        | .broken => .broken
        | .found own rest => .found (mark, own) rest
      | _ => .absent

/-! ## IRIs -/

/-- A text with the escapes of one length read, after what has been read in reverse. The number says how
many characters to pass over. -/
def codesFrom (mark : Char) (count : Nat) (read : List Char) : Nat → List Char → Option (List Char)
  | _, [] => some read.reverse
  | skipped + 1, _ :: rest => codesFrom mark count read skipped rest
  | 0, '\\' :: c :: rest =>
    match if c = mark then leadingCode? count rest else none with
    | some code =>
      match character? code with
      | some character => codesFrom mark count (character :: read) (count + 1) (c :: rest)
      | none => none
    | none => codesFrom mark count ('\\' :: read) 0 (c :: rest)
  | 0, c :: rest => codesFrom mark count (c :: read) 0 rest

/-- What stands between brackets, whose opening one has been read, with its escapes read. The long ones are
read first. -/
def bracketed (text : List Char) : Piece (List Char) :=
  match text.dropWhile (· ≠ '>') with
  | [] => .broken
  | _ :: rest =>
    match (codesFrom 'U' 8 [] 0 (text.takeWhile (· ≠ '>'))).bind (codesFrom 'u' 4 [] 0) with
    | some value => .found value rest
    | none => .broken

/-! ## Numbers -/

/-- The kinds of numbers. -/
inductive NumberKind where
  | integer
  | decimal
  | double
deriving DecidableEq, Repr

/-- The datatype of a kind of numbers. -/
def NumberKind.datatype : NumberKind → String
  | .integer => Vocabulary.xsd "integer"
  | .decimal => Vocabulary.xsd "decimal"
  | .double => Vocabulary.xsd "double"

/-- How many characters the power of ten of a number has, which is zero if there is none. -/
def powerLength : List Char → Nat
  | mark :: rest =>
    if mark = 'e' || mark = 'E' then
      let digits := match rest with
        | '+' :: digits | '-' :: digits => digits
        | digits => digits
      let count := (digits.takeWhile isAsciiDigit).length
      if count = 0 then 0 else 1 + (rest.length - digits.length) + count
    else 0
  | [] => 0

/-- The kind of the number that begins a text, and how many characters it has. A point without digits on
either side belongs to a number only before a power of ten. -/
def numberLength? (text : List Char) : Option (NumberKind × Nat) :=
  let unsigned := match text with
    | '+' :: rest | '-' :: rest => rest
    | _ => text
  let sign := text.length - unsigned.length
  let whole := (unsigned.takeWhile isAsciiDigit).length
  let rest := unsigned.drop whole
  let fraction := match rest with
    | '.' :: digits => (digits.takeWhile isAsciiDigit).length
    | _ => 0
  let hasPoint := rest.head? = some '.' && (whole ≠ 0 || fraction ≠ 0)
  let pointed := if hasPoint then whole + 1 + fraction else whole
  let power := powerLength (unsigned.drop pointed)
  let plainPower := powerLength rest
  if pointed ≠ 0 && power ≠ 0 then some (.double, sign + pointed + power)
  else if whole ≠ 0 && plainPower ≠ 0 then some (.double, sign + whole + plainPower)
  else if fraction ≠ 0 then some (.decimal, sign + pointed)
  else if whole ≠ 0 then some (.integer, sign + whole)
  else none

/-! ## Texts -/

/-- The character that a single letter after a backslash stands for. -/
def letterEscape? (c : Char) : Option Char :=
  match c with
  | 'a' => some '\x07'
  | 'v' => some '\x0B'
  | _ => escapedBy? c

/-- What an escape with a code stands for: a character, or itself if it has no code. -/
def codeEscape? (mark : Char) (count : Nat) (text : List Char) : Option (List Char) :=
  if (text.take count).length < count then none
  else match leadingCode? count text with
    | some code => (character? code).map ([·])
    | none => some ('\\' :: mark :: text.take count)

/-- How many equal quotes a text begins with, up to a number. -/
def quoteCount (quote : Char) (limit : Nat) (text : List Char) : Nat :=
  ((text.take limit).takeWhile (· = quote)).length

/-- The rest of a text between single or triple quotes, after what has been read in reverse. The number says
how many characters to pass over. -/
def textFrom (quote : Char) (isLong : Bool) (read : List Char) : Nat → List Char → Piece (List Char)
  | _, [] => .broken
  | skipped + 1, _ :: rest => textFrom quote isLong read skipped rest
  | 0, '\\' :: mark :: rest =>
    match letterEscape? mark, codeLength? mark with
    | some character, _ => textFrom quote isLong (character :: read) 1 (mark :: rest)
    | none, some count =>
      match codeEscape? mark count rest with
      | some characters => textFrom quote isLong (characters.reverse ++ read) (count + 1) (mark :: rest)
      | none => .broken
    | none, none => .broken
  | 0, c :: rest =>
    if c = quote then
      if !isLong then .found read.reverse rest
      else
        let count := quoteCount quote 5 (c :: rest)
        if count < 3 then textFrom quote isLong (c :: read) 0 rest
        else .found (List.replicate (count - 3) quote ++ read).reverse (rest.drop (count - 1))
    else if c = '\\' || (c = '\n' && !isLong) then .broken
    else textFrom quote isLong (c :: read) 0 rest

/-- A text between quotes, of which the first is here. -/
def quotedText (quote : Char) (text : List Char) : Piece (List Char) :=
  if quoteCount quote 3 text = 3 then textFrom quote true [] 0 (text.drop 3)
  else textFrom quote false [] 0 (text.drop 1)

end Sparql.Graph.Turtle
