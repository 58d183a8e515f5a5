import Sparql.Failure
import Sparql.Results.Basic
import Sparql.Text.Case

/-!
# Unusable answers

Every way in which the body of an answer can fail to be a result, with its message.
-/

namespace Sparql

/-- The formats of graphs. -/
inductive GraphFormat where
  | turtle
  | nTriples
  | rdfXml
  | jsonLd
  | n3
  | nQuads
  | trig
deriving DecidableEq, Repr

/-- The name of a format in messages. -/
def GraphFormat.name : GraphFormat → String
  | .turtle => "turtle"
  | .nTriples => "nt"
  | .rdfXml => "xml"
  | .jsonLd => "json-ld"
  | .n3 => "n3"
  | .nQuads => "nquads"
  | .trig => "trig"

/-- Why an answer is no result. -/
inductive ResultError where
  | noContentType
  | unsupportedType (mediaType : String)
  /-- The body is no JSON document. -/
  | invalidJson
  /-- The document has members of the wrong kind or lacks some. -/
  | malformedJson
  | jsonNotObject
  | nonBooleanValue (value : Value)
  | unsupportedJsonType (kind : Value)
  /-- The body is no XML document. -/
  | invalidXml
  | missingXmlResults
  | emptyBinding (name : Value)
  | unsupportedXmlElement (name : String)
  /-- The body is no text. -/
  | undecodableTable
  /-- A row breaks the rules of quoting and of line ends. -/
  | malformedTable
  | rowLength (row columns expected : Nat)
  | nonBooleanBody (text : List Char)
  /-- The body is no document of the format. -/
  | invalidGraph (format : GraphFormat)
  | wrongShape (form : String) (kind : ResultKind) (mediaType : String)
deriving Repr

namespace ResultError

/-- The wording of each cause. -/
def message : ResultError → String
  | noContentType => "Response has no Content-Type"
  | unsupportedType mediaType => "Unsupported result content type: " ++ mediaType
  | invalidJson => "Invalid SPARQL JSON results"
  | malformedJson => "Malformed SPARQL JSON results"
  | jsonNotObject => "SPARQL JSON results must be an object"
  | nonBooleanValue value => "Non-boolean ASK value: " ++ value.display
  | unsupportedJsonType kind => "Unsupported JSON binding type: " ++ kind.display
  | invalidXml => "Invalid SPARQL XML results"
  | missingXmlResults => "SPARQL XML results have neither <boolean> nor <results>"
  | emptyBinding name => "Empty binding for " ++ name.display
  | unsupportedXmlElement name => "Unsupported XML binding element: " ++ Text.quoted name
  | undecodableTable => "Undecodable tabular results"
  | malformedTable => "Malformed tabular results"
  | rowLength row columns expected =>
    "Row " ++ toString row ++ " has " ++ toString columns ++ " columns, header has " ++ toString expected
  | nonBooleanBody text => "Non-boolean ASK body: " ++ Text.quoted (String.ofList (text.take 50))
  | invalidGraph format => "Invalid " ++ format.name ++ " graph"
  | wrongShape form kind mediaType =>
    Text.uppered form ++ " query answered with a " ++ kind.name ++ " result (" ++ mediaType ++ ")"

end ResultError

/-- An answer that is no result. -/
def reject {α : Type} (cause : ResultError) : Outcome α := .error (.unusable cause.message)

end Sparql
