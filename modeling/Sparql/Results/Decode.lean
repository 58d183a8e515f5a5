import Sparql.Graph.JsonLd.Reader
import Sparql.Graph.NTriples
import Sparql.Graph.RdfXml.Reader
import Sparql.Graph.Sink
import Sparql.Graph.Turtle.Reader
import Sparql.Query.Basic
import Sparql.Results.Error
import Sparql.Results.Json
import Sparql.Results.Tabular
import Sparql.Results.Xml
import Sparql.Text.Basic
import Sparql.Text.Case
import Sparql.Text.Utf8

/-!
# From an answer to a result

A truth value is a single word, in either case and with blanks around it. A graph is a body in any of the notations
for graphs. Those with named graphs are read into a dataset that lists the statements of all of them together.

The media type of an answer alone decides how its body is read. An answer without one, or with one that is
not known, is never guessed at.
-/

/-! ## Results in plain text -/

namespace Sparql.Results.Boolean

/-- The truth value that a word spells. -/
def ofWord? (word : List Char) : Option Bool :=
  if word = "true".toList then some true
  else if word = "false".toList then some false
  else none

/-- The result of a body. -/
def decode (body : List UInt8) : Outcome QueryResult :=
  let word := Text.toLower (Text.trim (Text.Utf8.decodeLossy body))
  match ofWord? word with
  | some value => .ok (.boolean value)
  | none => reject (.nonBooleanBody word)

end Sparql.Results.Boolean

/-! ## Results that are graphs -/

namespace Sparql.Results.Graph

open Sparql.Graph

/-- The quads of a text in a notation, if it can be read. Only some notations can name graphs. -/
def quads? (format : GraphFormat) (text : List Char) : Option (List Quad) :=
  match format with
  | .nTriples => NTriples.quads? false text
  | .nQuads => NTriples.quads? true text
  | .turtle => Turtle.quads? Turtle.turtle text
  | .trig => Turtle.quads? Turtle.trig text
  | .n3 => Turtle.quads? Turtle.n3 text
  | .rdfXml => (RdfXml.statements? text).map fun statements => statements.map fun statement => { statement }
  | .jsonLd => (JsonLd.statements? text).map fun statements => statements.map fun statement => { statement }

/-- What a notation is read into: a dataset if it can name graphs, and else a single graph. -/
def sinkOf (format : GraphFormat) : Sink :=
  match format with
  | .nQuads | .trig => .dataset true []
  | .nTriples | .turtle | .n3 | .rdfXml | .jsonLd => .graph []

/-- The result of a body. -/
def decode (format : GraphFormat) (body : List UInt8) : Outcome QueryResult :=
  match (Text.Utf8.decode? body).bind (quads? format) with
  | some quads => .ok (.graph (quads.foldl Sink.add (sinkOf format)).statements)
  | none => reject (.invalidGraph format)

end Sparql.Results.Graph

/-! ## Formats -/

namespace Sparql

/-- The formats of results. -/
inductive ResultFormat where
  | json
  | xml
  | tabular (dialect : Tabular.Dialect)
  | boolean
  | graph (format : GraphFormat)
deriving DecidableEq, Repr

/-- The format of a media type. -/
def ResultFormat.ofMediaType? : String → Option ResultFormat
  | "application/sparql-results+json" | "application/json" => some .json
  | "application/sparql-results+xml" | "application/xml" => some .xml
  | "text/csv" => some (.tabular Tabular.commas)
  | "text/tab-separated-values" => some (.tabular Tabular.tabs)
  | "text/boolean" => some .boolean
  | "text/turtle" | "application/x-turtle" => some (.graph .turtle)
  | "application/n-triples" | "text/plain" => some (.graph .nTriples)
  | "application/rdf+xml" => some (.graph .rdfXml)
  | "application/ld+json" => some (.graph .jsonLd)
  | "text/n3" | "text/rdf+n3" => some (.graph .n3)
  | "application/n-quads" => some (.graph .nQuads)
  | "application/trig" => some (.graph .trig)
  | _ => none

/-- The result of a body in a format. -/
def ResultFormat.decode : ResultFormat → List UInt8 → Outcome QueryResult
  | json, body => Results.Json.decode body
  | xml, body => Results.Xml.decode body
  | tabular dialect, body => Results.Tabular.decode dialect body
  | boolean, body => Results.Boolean.decode body
  | graph format, body => Results.Graph.decode format body

namespace Results

/-- The media type of a content type: without parameters, in lower case. -/
def mediaType (contentType : Option String) : String :=
  let written := (contentType.getD "").toList
  String.ofList (Text.toLower (Text.trim (written.takeWhile (· ≠ ';'))))

/-- The result of an answer. -/
def decode (body : List UInt8) (contentType : Option String) : Outcome QueryResult :=
  match mediaType contentType with
  | "" => reject .noContentType
  | kind =>
    match ResultFormat.ofMediaType? kind with
    | some format => format.decode body
    | none => reject (.unsupportedType kind)

/-- The shape of the answers to a form of query. -/
def expectedKind : Form → ResultKind
  | .ask => .boolean
  | .select => .solutions
  | .construct | .describe => .graph

/-- A result that has the shape its query asks for. What is no query asks for none. -/
def checkShape (form : String) (contentType : Option String) (result : QueryResult) : Outcome QueryResult :=
  match (Form.ofName? form).map expectedKind with
  | none => .ok result
  | some expected =>
    if result.kind = expected then .ok result
    else reject (.wrongShape form result.kind (mediaType contentType))

/-- The result of an answer to a query. -/
def decodeForForm (body : List UInt8) (contentType : Option String) (form : String) : Outcome QueryResult :=
  (decode body contentType).bind (checkShape form contentType)

/-- The log message about a result that was read. -/
def decodedMessage (contentType : Option String) (result : QueryResult) : String :=
  "Decoded " ++ mediaType contentType ++ " response as " ++ result.kind.name ++ " (" ++ toString result.size ++ ")"

end Results

end Sparql
