/-!
# RDF terms

Queries and results speak about IRIs, blank nodes, literals and, in queries only, variables.
-/

namespace Sparql

/-- A literal: a text, and a language or a datatype but not both. -/
structure Literal where
  text : String
  language : Option String := none
  datatype : Option String := none
deriving DecidableEq, Repr, Inhabited

/-- A term of a pattern, a template or a result. -/
inductive Term where
  | iri (value : String)
  | blank (label : String)
  | literal (value : Literal)
  | variable (name : String)
deriving DecidableEq, Repr, Inhabited

/-- A statement of an RDF graph. -/
structure Statement where
  subject : Term
  predicate : Term
  object : Term
deriving DecidableEq, Repr, Inhabited

/-- Whether two literals are the same. The case of a language, which is ASCII, makes no difference. -/
def Literal.same (a b : Literal) : Bool :=
  a.text == b.text && a.datatype == b.datatype && a.language.map String.toLower == b.language.map String.toLower

namespace Term

/-- Whether two terms are the same. -/
def same : Term → Term → Bool
  | .literal a, .literal b => a.same b
  | a, b => a == b

/-- Whether the term is a literal. -/
def isLiteral : Term → Bool
  | .literal _ => true
  | _ => false

/-- Whether the term is a variable. -/
def isVariable : Term → Bool
  | .variable _ => true
  | _ => false

/-- Whether the term is a blank node. -/
def isBlank : Term → Bool
  | .blank _ => true
  | _ => false

/-- The text of a term without any mark of its kind. -/
def plainText : Term → String
  | .iri value => value
  | .blank label => label
  | .literal value => value.text
  | .variable name => name

end Term

/-- Whether two statements say the same. -/
def Statement.same (a b : Statement) : Bool :=
  a.subject.same b.subject && a.predicate.same b.predicate && a.object.same b.object

/-! ## Names of the vocabularies that the library itself refers to -/

namespace Vocabulary

/-- A name of the XML Schema datatypes. -/
def xsd (name : String) : String := "http://www.w3.org/2001/XMLSchema#" ++ name

/-- A name of the RDF vocabulary. -/
def rdf (name : String) : String := "http://www.w3.org/1999/02/22-rdf-syntax-ns#" ++ name

/-- The property that relates a thing to its class. -/
def rdfType : String := rdf "type"

/-- The datatype of plain strings. -/
def xsdString : String := xsd "string"

end Vocabulary

end Sparql
