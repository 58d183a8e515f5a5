import Sparql.Exchange.Http
import Sparql.Graph.NTriples
import Sparql.Graph.Sink
import Sparql.Results.Json

/-!
# Exchanges with a local store

A store in the same program evaluates text itself. Its results are handed on in the formats of the protocol,
so they are read exactly as those of an endpoint are.
-/

namespace Sparql.LocalStore

/-- A text that the store cannot parse. -/
def syntaxFailure (message : String) : Failure := .protocol .malformedQuery message (some 400) none

/-- Any other failure of the store. -/
def evaluationFailure (message reason : String) : Failure :=
  .protocol .server (message ++ ": " ++ reason) (some 500) none

/-- The failure of a query. -/
def queryFailure (reason : String) : Failure := evaluationFailure "Local evaluation failed" reason

/-- The failure of an update. -/
def updateFailure (reason : String) : Failure := evaluationFailure "Local update failed" reason

/-- What is wrong when the store no longer answers. -/
def exhausted : String := "<urlopen error no more answers>"

/-- What is wrong with a graph that has no text. -/
def unwritable : RenderError → String
  | .unwritableIri iri =>
    "\"" ++ iri ++ "\" does not look like a valid URI, I cannot serialize this as N3/Turtle. "
      ++ "Perhaps you wanted to urlencode it?"
  | .endlessNesting => "maximum recursion depth exceeded"
  | .longNumber => "Exceeds the limit (4300 digits) for integer string conversion"

/-- What is wrong when a result of one shape is wanted in a format of the other. -/
def noWriter (format writer : String) : String :=
  "No plugin registered for (" ++ format ++ ", <class '" ++ writer ++ "'>)"

/-- What is wrong with a term that has no place in a table. -/
def unknownTerm (term : Term) : String :=
  "Unknown term type: " ++ term.plainText ++ " (<class 'rdflib.term.Variable'>)"

/-- A truth value or a table in JSON. -/
def jsonResponse (form : Option Form) (document : Except Term Value) : Outcome Response :=
  if (form.map Form.expectsStatements).getD false then .error (queryFailure (noWriter "nt" "rdflib.query.ResultSerializer"))
  else match document with
    | .ok document => .ok ⟨Text.Utf8.encodeChars (Json.write document), some "application/sparql-results+json"⟩
    | .error term => .error (queryFailure (unknownTerm term))

/-- A graph in N-Triples. -/
def graphResponse (form : Option Form) (statements : List Statement) : Outcome Response :=
  if (form.map Form.expectsStatements).getD false then
    match Graph.NTriples.write statements with
    | .ok text => .ok ⟨Text.Utf8.encode text, some "application/n-triples"⟩
    | .error cause => .error (queryFailure (unwritable cause))
  else .error (queryFailure (noWriter "json" "rdflib.serializer.Serializer"))

/-- What an answer of the store comes to. -/
def outcomeOf (form : Option Form) : Option Answer → Outcome Response
  | some (.localBoolean value) => jsonResponse form (.ok (Results.Json.booleanDocument value))
  | some (.localRows names rows) => jsonResponse form (Results.Json.tableDocument names rows)
  | some (.localGraph statements) => graphResponse form statements
  | some .localSyntaxError => .error (syntaxFailure "Invalid SPARQL")
  | some (.localFailure reason) => .error (queryFailure reason)
  | some _ => .error (queryFailure "")
  | none => .error (queryFailure exhausted)

/-- Evaluates a query. -/
def query (text form : String) : Exchange Response := do
  Exchange.emit (.evaluate (.text text))
  let answer ← Exchange.receive
  let response ← Exchange.ofOutcome (outcomeOf (Form.ofName? form) answer)
  Exchange.info ("SPARQL " ++ form ++ " evaluated locally")
  return response

/-- What the statements of the store are after an update that an answer describes. -/
def updated (statements : List Statement) : Option Answer → Outcome (List Statement)
  | some (.localUpdate added) => .ok (added.foldl Graph.insert statements)
  | some .localSyntaxError => .error (syntaxFailure "Invalid SPARQL Update")
  | some (.localFailure reason) => .error (updateFailure reason)
  | some _ => .ok statements
  | none => .error (updateFailure exhausted)

/-- Applies an update. -/
def update (statements : List Statement) (operation : Value) : Exchange (List Statement) := do
  Exchange.emit (.evaluate operation)
  let answer ← Exchange.receive
  let statements ← Exchange.ofOutcome (updated statements answer)
  Exchange.info ("SPARQL update applied locally (" ++ toString statements.length ++ " triples)")
  return statements

end Sparql.LocalStore
