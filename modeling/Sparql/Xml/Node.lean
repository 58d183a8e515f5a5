import Sparql.Xml.Character

/-!
# Nodes of documents

Elements with their tags, runs of characters, references that have been kept, comments and instructions.
-/

namespace Sparql.Xml

/-- A name in a namespace or in none. -/
structure Name where
  space : Option String
  own : String
deriving DecidableEq, Repr

/-- An attribute, and its name as it is written. -/
structure Attribute where
  written : List Char
  name : Name
  value : String
deriving DecidableEq, Repr

/-- What the opening of an element says. The namespaces that it declares stand under their prefixes, the
default one under the empty prefix. -/
structure Tag where
  written : List Char
  name : Name
  declared : List (List Char × String)
  attributes : List Attribute
deriving DecidableEq, Repr

/-- The value of an attribute. -/
def Tag.attribute? (tag : Tag) (name : Name) : Option String :=
  (tag.attributes.find? (·.name == name)).map (·.value)

/-- A node of a document. -/
inductive Node where
  | element (tag : Tag) (children : List Node)
  /-- Characters that may have been written as references. -/
  | text (value : List Char)
  /-- Characters that stand for themselves between marks. -/
  | verbatim (value : List Char)
  /-- A reference to a declared text. -/
  | entity (name : List Char)
  | comment (text : List Char)
  | instruction (target text : List Char)
deriving Repr

namespace Node

/-- The children of an element. -/
def children : Node → List Node
  | element _ children => children
  | _ => []

/-- Whether the node is an element of the given name. -/
def isNamed (name : Name) : Node → Bool
  | element tag _ => tag.name == name
  | _ => false

/-- The characters of a run of them. -/
def characters? : Node → Option (List Char)
  | text value => some value
  | verbatim value => some value
  | _ => none

/-- Whether the node is a run of characters. -/
def isText (node : Node) : Bool := node.characters?.isSome

/-- The first child of the given name. -/
def child? (node : Node) (name : Name) : Option Node := node.children.find? (isNamed name)

/-- The children of the given name. -/
def childrenNamed (node : Node) (name : Name) : List Node := node.children.filter (isNamed name)

/-- The value of an attribute. -/
def attribute? (node : Node) (name : Name) : Option String :=
  match node with
  | element tag _ => tag.attribute? name
  | _ => none

/-- The characters before the first child that is no run of characters. -/
def leadingText (node : Node) : List Char :=
  (node.children.takeWhile isText).flatMap fun child => child.characters?.getD []

end Node

end Sparql.Xml
