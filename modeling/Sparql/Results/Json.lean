import Sparql.Json.Document
import Sparql.Json.Writer
import Sparql.Results.Basic
import Sparql.Results.Error
import Sparql.Term.Coercion
import Sparql.Text.Utf8

/-!
# Results in JSON

A document with a truth value, or with the names of variables and a list of rows. A row is a mapping from
names to descriptions of terms.
-/

namespace Sparql.Results.Json

/-- The text of a list or a mapping where a text is expected; numbers and nothing have none. -/
def looseText? : Value → Option String
  | .text value => some value
  | .list items => some (Value.list items).toText
  | .map entries => some (Value.map entries).toText
  | _ => none

/-- The language that a member gives. -/
def languageOf (value : Value) : Outcome (Option String) :=
  match value with
  | .null => .ok none
  | .text language => .ok (some language)
  | _ => reject .malformedJson

/-- The literal of a description. A language, even an empty one, comes before a datatype. -/
def literalTerm (members : List (Value × Value)) (value : Value) : Outcome Term := do
  match Value.field? "xml:lang" members, Value.field? "datatype" members with
  | some language, _ =>
    let language ← languageOf language
    return .literal (← value.toLiteral language none)
  | none, some datatype =>
    match looseText? datatype with
    | some datatype => return .literal (← value.toLiteral none (some datatype))
    | none => reject .malformedJson
  | none, none => return .literal (← value.toLiteral none none)

/-- The term of a description. -/
def term (members : List (Value × Value)) : Outcome Term :=
  let value := (Value.field? "value" members).getD (.text "")
  match (Value.field? "type" members).getD .null with
  | .text "uri" =>
    match looseText? value with
    | some iri => .ok (.iri iri)
    | none => reject .malformedJson
  | .text "bnode" => .ok (.blank value.toText)
  | .text "literal" | .text "typed-literal" => literalTerm members value
  | kind => reject (.unsupportedJsonType kind)

/-- The bindings of a row. -/
def solution (row : Value) : Outcome Solution :=
  match row with
  | .map entries => do
    let bindings ← entries.mapM fun (name, description) =>
      match description with
      | .map members => (term members).map fun term => (name, term)
      | _ => reject .malformedJson
    return ⟨bindings⟩
  | _ => reject .malformedJson

/-- The names of the variables. -/
def declaredVariables (members : List (Value × Value)) : Outcome (List Value) :=
  match (Value.field? "head" members).getD (.map []) with
  | .map head =>
    match ((Value.field? "vars" head).getD (.list [])).elements? with
    | some names => .ok names
    | none => reject .malformedJson
  | _ => reject .malformedJson

/-- The rows of the table. -/
def rows (members : List (Value × Value)) : Outcome (List Value) :=
  match Value.field? "results" members with
  | some (.map results) =>
    match (Value.field? "bindings" results).bind Value.elements? with
    | some rows => .ok rows
    | none => reject .malformedJson
  | _ => reject .malformedJson

/-- The result of a document. -/
def ofDocument (document : Value) : Outcome QueryResult :=
  match document with
  | .map members =>
    match Value.field? "boolean" members with
    | some (.bool value) => .ok (.boolean value)
    | some value => reject (.nonBooleanValue value)
    | none => do
      let declared ← declaredVariables members
      let rows ← rows members
      let solutions ← rows.mapM solution
      return .solutions declared solutions
  | _ => reject .jsonNotObject

/-- The result of a body. -/
def decode (body : List UInt8) : Outcome QueryResult :=
  match Text.Utf8.decode? body with
  | none => reject .invalidJson
  | some text =>
    match Sparql.Json.parse text with
    | .ok document => ofDocument document
    | .error .malformed => reject .invalidJson
    | .error .oversizedNumber => misuse .badValue
    | .error .tooDeep => misuse (.render .endlessNesting)

/-!
## Writing results in JSON

The document of a truth value or of a table, as a store answers with it.
-/

/-- A mapping with textual names. -/
def members (entries : List (String × Value)) : Value :=
  .map (entries.map fun (name, value) => (.text name, value))

/-- The description of a literal. -/
def describeLiteral (literal : Literal) : Value :=
  members ([("type", .text "literal"), ("value", .text literal.text)]
    ++ (match literal.datatype with
      | some datatype => [("datatype", .text datatype)]
      | none => [])
    ++ (match literal.language with
      | some language => [("xml:lang", .text language)]
      | none => []))

/-- The description of a term. A variable has none. -/
def describe : Term → Except Term Value
  | .iri value => .ok (members [("type", .text "uri"), ("value", .text value)])
  | .blank label => .ok (members [("type", .text "bnode"), ("value", .text label)])
  | .literal literal => .ok (describeLiteral literal)
  | .variable name => .error (.variable name)

/-- A row of bindings, unless it holds a term without a description. -/
def describeRow (bindings : List (String × Term)) : Except Term Value := do
  let described ← bindings.mapM fun (name, term) => do
    let value ← describe term
    return (name, value)
  return members described

/-- The document of a table, unless it holds a term without a description. -/
def tableDocument (names : List String) (rows : List (List (String × Term))) : Except Term Value := do
  let rows ← rows.mapM describeRow
  return members [
    ("head", members [("vars", .list (names.map .text))]),
    ("results", members [("bindings", .list rows)])]

/-- The document of a truth value. -/
def booleanDocument (value : Bool) : Value := members [("head", members []), ("boolean", .bool value)]

end Sparql.Results.Json
