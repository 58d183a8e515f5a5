import Sparql.Calendar.Reading
import Sparql.Calendar.Span
import Sparql.Number.Reading
import Sparql.Number.Shortest
import Sparql.Term.Basic
import Sparql.Text.Base64
import Sparql.Text.Hex
import Sparql.Xml.NormalForm

/-!
# Lexical forms of literals

A literal of a known datatype is kept in a normal form whenever its text can be read as a value of that
type; a text that cannot be read stays as it is. Only booleans have no unreadable text: all but `true` and
`1` means false.
-/

namespace Sparql

open Sparql.Text

/-- The groups of datatypes whose texts are normalised alike. -/
inductive LexicalSpace where
  | integer
  | decimal
  | double
  | boolean
  | moment
  | date
  | time
  | hexBinary
  | base64Binary
  | span
  | normalizedText
  | token
  | markup
  | other
deriving DecidableEq, Repr

namespace LexicalSpace

/-- The names of the integer types. -/
def integerTypes : List String := [
  "integer", "nonPositiveInteger", "negativeInteger", "nonNegativeInteger", "positiveInteger", "long", "int",
  "short", "byte", "unsignedLong", "unsignedInt", "unsignedShort", "unsignedByte"]

/-- The group of a name of the XML Schema datatypes. -/
def ofName (name : String) : LexicalSpace :=
  if name ∈ integerTypes then .integer
  else match name with
    | "decimal" => .decimal
    | "double" | "float" => .double
    | "boolean" => .boolean
    | "dateTime" => .moment
    | "date" => .date
    | "time" => .time
    | "hexBinary" => .hexBinary
    | "base64Binary" => .base64Binary
    | "duration" | "dayTimeDuration" | "yearMonthDuration" => .span
    | "normalizedString" => .normalizedText
    | "token" => .token
    | _ => .other

/-- The group of a literal's datatype. -/
def ofDatatype : Option String → LexicalSpace
  | none => .other
  | some iri =>
    let space := Vocabulary.xsd ""
    if iri.startsWith space then ofName (iri.drop space.length).toString
    else if iri = Vocabulary.rdf "XMLLiteral" then .markup
    else .other

/-- Tabs and line ends as spaces. -/
def unbreak (text : List Char) : List Char :=
  text.map fun c => if c = '\t' ∨ c = '\n' ∨ c = '\r' then ' ' else c

/-- Every run of spaces as one space. -/
def collapseSpaces : List Char → List Char
  | ' ' :: ' ' :: rest => collapseSpaces (' ' :: rest)
  | c :: rest => c :: collapseSpaces rest
  | [] => []

/-- The time of day that a text writes, after an optional `T`. -/
def readTime? : List Char → Option TimeOfDay
  | 'T' :: rest => Calendar.readTime? rest
  | text => Calendar.readTime? text

/-- Whether a boolean's text means true. -/
def readBoolean (text : List Char) : Bool :=
  let word := toLower text
  word = ['1'] ∨ word = "true".toList

/-- The normal form of a text that can be read. -/
def canonical? : LexicalSpace → List Char → Option String
  | .integer, text => (Number.integer? text).map fun value => String.ofList (toString value).toList
  | .decimal, text => (Number.decimal? text).map Decimal.plainText
  | .double, text => (Number.double? text).map Double.toText
  | .boolean, text => some (if readBoolean text then "true" else "false")
  | .moment, text => (Calendar.readMoment? text).map Moment.toText
  | .date, text => (Calendar.readZonedDate? text).map Date.toText
  | .time, text => (readTime? text).map TimeOfDay.toText
  | .hexBinary, text => (bytesOfHex? text).map fun bytes => String.ofList (hexBytes bytes)
  | .base64Binary, text => (Base64.decode? text).map fun bytes => String.ofList (Base64.encode bytes)
  | .span, text => (Span.read? text).map fun span => String.ofList span.chars
  | .normalizedText, text => some (String.ofList (unbreak text))
  | .token, text => some (String.ofList (collapseSpaces (trim (unbreak text))))
  | .markup, text => (Xml.normalForm? text).map String.ofList
  | .other, _ => none

/-- The text under which a literal is kept. -/
def canonical (space : LexicalSpace) (text : String) : String :=
  (space.canonical? text.toList).getD text

/-- Whether a text writes a value that no text of the normal form writes. -/
def hasNoForm (space : LexicalSpace) (text : List Char) : Bool :=
  match space with
  | .span => (Span.read? text).any fun span => !span.isWritable
  | _ => false

/-- Whether a literal's value counts as nothing: zero, false or empty. -/
def denotesNothing (space : LexicalSpace) (text : List Char) : Bool :=
  match space with
  | .integer => (Number.integer? text).elim text.isEmpty (· == 0)
  | .decimal => (Number.decimal? text).elim text.isEmpty Decimal.isZero
  | .double => (Number.double? text).elim text.isEmpty Double.isZero
  | .boolean => !readBoolean text
  | .span => (Span.read? text).elim text.isEmpty Span.isZero
  | .base64Binary => (Base64.decode? text).elim text.isEmpty List.isEmpty
  | .markup => false
  | _ => text.isEmpty

end LexicalSpace

/-- Why a literal cannot be built. -/
inductive LiteralError where
  /-- The language tag is not made of letters, digits and inner hyphens. -/
  | badLanguage (tag : String)
  /-- Both a language and a datatype are given. -/
  | languageAndDatatype
  /-- The text writes a span of time that has no normal form. -/
  | unwritableSpan
deriving DecidableEq, Repr

namespace Literal

/-- An ASCII letter. -/
def isTagLetter (c : Char) : Bool := c.isAlpha

/-- An ASCII letter or digit. -/
def isTagCharacter (c : Char) : Bool := c.isAlphanum

/-- Hyphens, each before one letter or digit at least. -/
def isSubtags : List Char → Bool
  | [] => true
  | ['\n'] => true
  | '-' :: c :: rest => isTagCharacter c && isSubtags (rest.dropWhile isTagCharacter)
  | _ => false
termination_by tag => tag.length
decreasing_by
  simp only [List.length_cons]
  have : (rest.dropWhile isTagCharacter).length ≤ rest.length := (List.dropWhile_sublist _).length_le
  omega

/-- A language tag: letters, then parts of letters and digits after hyphens. One line end may follow. -/
def isLanguageTag (tag : String) : Bool :=
  match tag.toList with
  | [] => false
  | c :: rest => isTagLetter c && isSubtags (rest.dropWhile isTagLetter)

/-- The literal of a text. An empty language is none. -/
def ofText (text : String) (language datatype : Option String) : Except LiteralError Literal :=
  match language.filter (· ≠ ""), datatype with
  | some _, some _ => .error .languageAndDatatype
  | some tag, none =>
    if isLanguageTag tag then .ok ⟨text, some tag, none⟩ else .error (.badLanguage tag)
  | none, datatype =>
    let space := LexicalSpace.ofDatatype datatype
    if space.hasNoForm text.toList then .error .unwritableSpan else .ok ⟨space.canonical text, none, datatype⟩

/-- The literal without language and datatype. -/
def plain (text : String) : Literal := ⟨text, none, none⟩

/-- The literal of a given text and datatype. -/
def typed (text datatype : String) : Literal :=
  ⟨(LexicalSpace.ofDatatype (some datatype)).canonical text, none, some datatype⟩

/-- Whether the literal counts as nothing: its value is zero, false or empty. -/
def denotesNothing (literal : Literal) : Bool :=
  (LexicalSpace.ofDatatype literal.datatype).denotesNothing literal.text.toList

end Literal

end Sparql
