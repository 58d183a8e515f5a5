import Sparql.Xml.Declaration

/-!
# Pieces of a document

A document is cut into tags, texts, comments and instructions. The cut looks at each piece alone: whether
tags match is seen when the pieces are put together.
-/

namespace Sparql.Xml

/-- A piece of a document. Names and texts stand as they are written. -/
inductive Piece where
  | openTag (name : List Char) (attributes : List (List Char × List Char)) (isEmpty : Bool)
  | closeTag (name : List Char)
  /-- Characters and references. -/
  | text (raw : List Char)
  /-- Characters alone. -/
  | verbatim (text : List Char)
  | comment (text : List Char)
  | instruction (target text : List Char)
deriving DecidableEq, Repr

/-- The rest of a tag, whose attributes have one character each at least. -/
def openTag? (practice : Practice) (text : List Char) : Option (Piece × List Char) := do
  let (name, rest) ← name? practice text
  let (attributes, isEmpty, rest) ← attributesFrom practice [] (rest.length + 1) rest
  return (.openTag name attributes isEmpty, rest)

/-- The rest of a closing tag. -/
def closeTag? (practice : Practice) (text : List Char) : Option (Piece × List Char) := do
  let (name, rest) ← name? practice text
  match skipSpace rest with
  | '>' :: rest => return (.closeTag name, rest)
  | _ => none

/-- Whether a text has the mark that only the end of a verbatim part may have. -/
def hasVerbatimEnd (text : List Char) : Bool := (splitAt? "]]>" text).isSome

/-- The piece that a text begins with. -/
def piece? (practice : Practice) (text : List Char) : Option (Piece × List Char) :=
  match text with
  | '<' :: '/' :: rest => closeTag? practice rest
  | '<' :: '?' :: rest =>
    (instruction? practice rest).map fun ((target, text), rest) => (.instruction target text, rest)
  | '<' :: '!' :: '-' :: '-' :: rest => (comment? rest).map fun (text, rest) => (.comment text, rest)
  | '<' :: '!' :: rest => do
    let (body, rest) ← splitAt? "]]>" (← after? "[CDATA[".toList rest)
    return (.verbatim body, rest)
  | '<' :: rest => openTag? practice rest
  | text =>
    let raw := text.takeWhile (· ≠ '<')
    if hasVerbatimEnd raw then none else some (.text raw, text.dropWhile (· ≠ '<'))

/-- The pieces of a text after some others, which stand in reverse. Every piece has a character. -/
def piecesFrom (practice : Practice) (read : List Piece) : Nat → List Char → Option (List Piece)
  | _, [] => some read.reverse
  | 0, _ :: _ => none
  | fuel + 1, c :: text =>
    match piece? practice (c :: text) with
    | some (piece, rest) => piecesFrom practice (piece :: read) fuel rest
    | none => none

/-- The pieces of a text. -/
def pieces? (practice : Practice) (text : List Char) : Option (List Piece) :=
  piecesFrom practice [] text.length text

/-- The document type before the pieces of a document, and what is written from there on; blanks, comments
and instructions may stand before it. Without one, the given type and the whole text. -/
def prologue? (type : DocumentType) : Nat → List Char → Option (DocumentType × List Char)
  | 0, _ => none
  | fuel + 1, text =>
    match skipSpace text with
    | '<' :: '?' :: rest =>
      match instruction? type.practice rest with
      | some (_, rest) => prologue? type fuel rest
      | none => none
    | '<' :: '!' :: '-' :: '-' :: rest =>
      match comment? rest with
      | some (_, rest) => prologue? type fuel rest
      | none => none
    | '<' :: '!' :: rest => (after? "DOCTYPE".toList rest).bind (documentType? type)
    | text => some (type, text)

end Sparql.Xml
