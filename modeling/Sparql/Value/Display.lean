import Sparql.Number.Reading
import Sparql.Text.Quoted
import Sparql.Value.Basic

/-!
# Values in messages

How values are shown when a message quotes them, and the plain text that a value has when it is put into a
query, a key or an address.
-/

namespace Sparql

open Sparql.Text

namespace Value

/-- A call-like form: a name and arguments in parentheses. -/
def applied (name : String) (arguments : List String) : String :=
  name ++ "(" ++ String.intercalate ", " arguments ++ ")"

/-- A number of microseconds as days, seconds of a day and microseconds of a second. -/
def displaySpan (microseconds : Int) : String :=
  let part (name : String) (value : Int) : List String := if value = 0 then [] else [name ++ toString value]
  let seconds := microseconds / Calendar.perSecond
  applied "datetime.timedelta"
    (part "days=" (seconds / 86400) ++ part "seconds=" (seconds % 86400)
      ++ part "microseconds=" (microseconds % Calendar.perSecond))

/-- A distance from universal time. -/
def displayOffset (offset : Int) : String :=
  if offset = 0 then "datetime.timezone.utc" else applied "datetime.timezone" [displaySpan offset]

/-- The parts of a time of day: seconds and microseconds only if something of them or after them counts. -/
def displayClock (t : TimeOfDay) : List String :=
  [toString t.hour, toString t.minute]
    ++ (if t.microsecond ≠ 0 then [toString t.second, toString t.microsecond]
      else if t.second ≠ 0 then [toString t.second] else [])
    ++ (match t.offset with
      | some offset => ["tzinfo=" ++ displayOffset offset]
      | none => [])

/-- The parts of a day. -/
def displayDay (d : Date) : List String := [toString d.year, toString d.month, toString d.day]

/-- A literal with the language or datatype it has. -/
def displayLiteral (literal : Literal) : String :=
  let language := match literal.language with
    | some language => ["lang=" ++ quoted language]
    | none => []
  let datatype := match literal.datatype with
    | some datatype => ["datatype=" ++ applied "rdflib.term.URIRef" [quoted datatype]]
    | none => []
  applied "rdflib.term.Literal" (quoted literal.text :: language ++ datatype)

/-- A term with its kind. -/
def displayTerm : Term → String
  | .iri value => applied "rdflib.term.URIRef" [quoted value]
  | .blank label => applied "rdflib.term.BNode" [quoted label]
  | .variable name => applied "rdflib.term.Variable" [quoted name]
  | .literal value => displayLiteral value

/-- A pattern with its positions. -/
def displayPattern (p : Pattern) : String :=
  applied "Pattern" [
    "subject=" ++ displayTerm p.subject,
    "predicate=" ++ displayTerm p.predicate,
    "object=" ++ displayTerm p.object]

/-- Items between square brackets. -/
def bracketed (items : List String) : String := "[" ++ String.intercalate ", " items ++ "]"

/-- Items between braces. -/
def braced (items : List String) : String := "\x7b" ++ String.intercalate ", " items ++ "\x7d"

/-- Items between parentheses; a single one is followed by a comma. -/
def parenthesized : List String → String
  | [item] => "(" ++ item ++ ",)"
  | items => "(" ++ String.intercalate ", " items ++ ")"

/-- A branch of a tagged union with its parts. -/
def displayBranch (b : BindBranch) : String :=
  applied "BindBranch" [
    "patterns=" ++ bracketed (b.patterns.map displayPattern),
    "binds=" ++ braced (b.binds.map fun (name, value) =>
      displayTerm (.variable name) ++ ": " ++ quoted value),
    "filters=" ++ braced (b.filters.map fun (name, iris) =>
      displayTerm (.variable name) ++ ": " ++ bracketed (iris.map fun iri => displayTerm (.iri iri)))]

/-- What can be shown of an object, or nothing. -/
def shownOrNothing (text : Except Fault String) : String :=
  match text with
  | .ok text => text
  | .error _ => ""

mutual

/-- A value as messages show it. -/
def display : Value → String
  | .null => "None"
  | .bool value => if value then "True" else "False"
  | .int value => toString value
  | .float value => value.toText
  | .decimal value => applied "Decimal" ["'" ++ value.toText ++ "'"]
  | .text value => quoted value
  | .bytes value => quotedBytes value
  | .date value => applied "datetime.date" (displayDay value)
  | .time value => applied "datetime.time" (displayClock value)
  | .moment value => applied "datetime.datetime" (displayDay value.date ++ displayClock value.time)
  | .term value => displayTerm value
  | .list items => bracketed (displayAll items)
  | .tuple items => parenthesized (displayAll items)
  | .set items => if items.isEmpty then "set()" else braced (displayAll items)
  | .map entries => braced (displayEntries entries)
  | .pattern value => displayPattern value
  | .branch value => displayBranch value
  | .graph _ => "<Graph>"
  | .object _ looks | .answer looks _ _ => shownOrNothing looks.display

/-- Values as messages show them. -/
def displayAll : List Value → List String
  | [] => []
  | value :: rest => value.display :: displayAll rest

/-- Entries of a mapping as messages show them. -/
def displayEntries : List (Value × Value) → List String
  | [] => []
  | (key, value) :: rest => (key.display ++ ": " ++ value.display) :: displayEntries rest

end

/-- The plain text of a value: strings and terms are their own text, days and times their usual form, and
all else is as messages show it. -/
def toText : Value → String
  | .text value => value
  | .term value => value.plainText
  | .decimal value => value.toText
  | .date value => value.toText
  | .time value => value.toText
  | .moment value => String.ofList (value.chars ' ')
  | .graph _ => "[a rdfg:Graph;rdflib:storage [a rdflib:Store;rdfs:label 'Memory']]."
  | .object _ looks | .answer looks _ _ => shownOrNothing looks.text
  | value => value.display

mutual

/-- Why the value cannot be shown, if it cannot: a number in it is too long, or an object has no text. -/
def displayFault? : Value → Option Fault
  | .int value => if Number.isLong value then some .badValue else none
  | .list items | .tuple items | .set items => displayFaults? items
  | .map entries => entryFaults? entries
  | .object _ looks | .answer looks _ _ =>
    match looks.display with
    | .ok _ => none
    | .error fault => some fault
  | _ => none

/-- Why one of the values cannot be shown, if one cannot. -/
def displayFaults? : List Value → Option Fault
  | [] => none
  | value :: rest =>
    match displayFault? value with
    | some fault => some fault
    | none => displayFaults? rest

/-- Why a key or a value of a mapping cannot be shown, if one cannot. -/
def entryFaults? : List (Value × Value) → Option Fault
  | [] => none
  | (key, value) :: rest =>
    match displayFault? key, displayFault? value with
    | some fault, _ => some fault
    | none, some fault => some fault
    | none, none => entryFaults? rest

end

/-- Why the value has no plain text, if it has none. -/
def textFault? : Value → Option Fault
  | .object _ looks | .answer looks _ _ =>
    match looks.text with
    | .ok _ => none
    | .error fault => some fault
  | value => value.displayFault?

/-- The name of a value's kind. -/
def kindName : Value → String
  | .null => "NoneType"
  | .bool _ => "bool"
  | .int _ => "int"
  | .float _ => "float"
  | .decimal _ => "Decimal"
  | .text _ => "str"
  | .bytes _ => "bytes"
  | .date _ => "date"
  | .time _ => "time"
  | .moment _ => "datetime"
  | .term (.iri _) => "URIRef"
  | .term (.blank _) => "BNode"
  | .term (.literal _) => "Literal"
  | .term (.variable _) => "Variable"
  | .list _ => "list"
  | .tuple _ => "tuple"
  | .set _ => "set"
  | .map _ => "dict"
  | .pattern _ => "Pattern"
  | .branch _ => "BindBranch"
  | .graph _ => "Graph"
  | .object _ looks | .answer looks _ _ => looks.kind

end Value

end Sparql
