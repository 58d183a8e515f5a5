import Sparql.Results.Error
import Sparql.Text.Basic
import Sparql.Xml.Source

/-!
# Results in XML

A document whose root holds a truth value, or the variables of a head and the rows of a body. A binding holds
one element, which describes the term.
-/

namespace Sparql.Results.Xml

open Sparql.Xml

/-- A name of the results vocabulary. -/
def name (own : String) : Name := ⟨some "http://www.w3.org/2005/sparql-results#", own⟩

/-- The attribute that names the language of a text. -/
def languageName : Name := ⟨some xmlSpace, "lang"⟩

/-- The attribute of a node without a namespace, as a value. -/
def attributeValue (node : Node) (own : String) : Value :=
  match node.attribute? ⟨none, own⟩ with
  | some value => .text value
  | none => .null

/-- The literal of a description. A language comes before a datatype, and empty ones are none. -/
def literalOf (node : Node) (text : String) : Outcome Literal :=
  match (node.attribute? languageName).filter (· ≠ ""), (node.attribute? ⟨none, "datatype"⟩).filter (· ≠ "") with
  | some language, _ => .ofLiteral (Literal.ofText text (some language) none)
  | none, datatype => .ofLiteral (Literal.ofText text none datatype)

/-- The term that a node describes. Its namespace does not matter. -/
def term (node : Node) : Outcome Term :=
  match node with
  | .element tag _ =>
    let text := String.ofList node.leadingText
    match tag.name.own with
    | "uri" => .ok (.iri text)
    | "bnode" => .ok (.blank text)
    | "literal" => (literalOf node text).map .literal
    | other => reject (.unsupportedXmlElement other)
  | _ => misuse .badValue

/-- The name and the term of a binding. -/
def binding (node : Node) : Outcome (Value × Term) :=
  let name := attributeValue node "name"
  match node.children.find? (!·.isText) with
  | none => reject (.emptyBinding name)
  | some description => (term description).map fun term => (name, term)

/-- The bindings of a row. -/
def solution (row : Node) : Outcome Solution := do
  let bindings ← (row.childrenNamed (name "binding")).mapM binding
  return bindings.foldl (fun solution (name, term) => solution.bind name term) ⟨[]⟩

/-- The truth value of an element. -/
def booleanOf (node : Node) : Outcome QueryResult :=
  match String.ofList (Text.trim node.leadingText) with
  | "true" => .ok (.boolean true)
  | "false" => .ok (.boolean false)
  | other => reject (.nonBooleanValue (.text other))

/-- The variables that the heads of a document declare. -/
def declaredVariables (root : Node) : List Value :=
  ((root.childrenNamed (name "head")).flatMap (·.childrenNamed (name "variable"))).map (attributeValue · "name")

/-- The result of a document. -/
def ofRoot (root : Node) : Outcome QueryResult :=
  match root.child? (name "boolean"), root.child? (name "results") with
  | some node, _ => booleanOf node
  | none, none => reject .missingXmlResults
  | none, some results => do
    let solutions ← (results.childrenNamed (name "result")).mapM solution
    return .solutions (declaredVariables root) solutions

/-- The result of a body. -/
def decode (body : List UInt8) : Outcome QueryResult :=
  match rootOfBytes? .referring body with
  | none => reject .invalidXml
  | some root => ofRoot root

end Sparql.Results.Xml
