import Sparql.Graph.Spelling
import Sparql.Iri
import Sparql.Text.Basic
import Sparql.Text.Letter
import Sparql.Xml.Document

/-!
# Names and scopes of RDF in XML

How the names of elements and attributes become IRIs, what an element takes over from those around it, and
the state of a reader.
-/

namespace Sparql.Graph.RdfXml

open Sparql.Xml

/-! ## Labels -/

/-- A name of XML as it counts here: its parts in one text, and the first of them as its namespace if there
are several. Blanks in the name of a namespace part it too. -/
structure Label where
  space : Option String
  own : String
  iri : String
deriving DecidableEq, Repr

namespace Label

/-- The words of a text between blanks. -/
def wordsOf (text : List Char) : List (List Char) :=
  (text.splitBy fun a b => Text.isBlank a = Text.isBlank b).filter fun word => !word.all Text.isBlank

/-- The label of a name in a namespace, from the words of both and the prefix. Three words are two parts,
for the last is a prefix then. -/
def ofWords (whole : String) (words : List (List Char)) : Label :=
  match words with
  | first :: second :: others =>
    let parts := first :: second :: (if others.length = 1 then [] else others)
    ⟨some (String.ofList first), String.ofList second, String.ofList parts.flatten⟩
  | _ => ⟨none, whole, whole⟩

/-- The label of a name that is written in some way. -/
def ofName (name : Name) (written : List Char) : Label :=
  match name.space with
  | none => ⟨none, name.own, name.own⟩
  | some space =>
    let mark := if written.contains ':' then [written.takeWhile (· ≠ ':')] else []
    ofWords (space ++ " " ++ name.own) (wordsOf space.toList ++ name.own.toList :: mark)

end Label

/-- A name of the vocabulary of RDF. -/
def rdf (own : String) : String := Vocabulary.rdf own

/-- Names with a meaning of their own, which are no property and no class. -/
def coreNames : List String := ["RDF", "ID", "about", "parseType", "resource", "nodeID", "datatype"].map rdf

/-- Names that no longer have a meaning. -/
def oldNames : List String := ["aboutEach", "aboutEachPrefix", "bagID"].map rdf

/-- Attributes that mean the same with and without a namespace. -/
def plainAttributes : List String := ["about", "ID", "type", "resource", "parseType"]

/-- Whether an attribute is one of XML itself. -/
def isReserved (name : String) : Bool :=
  name.startsWith xmlSpace || (name.toList.take 3).map Char.toLower = ['x', 'm', 'l']

/-- The attributes with one more, which takes the place of one of its name. -/
def withAttribute (attributes : List (String × String)) (name value : String) : List (String × String) :=
  if attributes.any (·.1 == name) then
    attributes.map fun (other, kept) => if other = name then (other, value) else (other, kept)
  else attributes ++ [(name, value)]

/-- The attributes of a tag by their IRIs, without those of XML itself. -/
def attributesOf (tag : Tag) : List (String × String) :=
  tag.attributes.foldl
    (fun attributes given =>
      let name := (Label.ofName given.name given.written).iri
      if isReserved name then attributes
      else withAttribute attributes (if plainAttributes.contains name then rdf name else name) given.value)
    []

/-- A character inside a simple name. -/
def isSimpleInner (c : Char) : Bool :=
  Text.isLetter c || Text.isMark c || c.toNat = 0xB7 || c.toNat = 0x387 || "-._%()".toList.contains c

/-- A name without a colon. -/
def isSimpleName (name : String) : Bool :=
  match name.toList with
  | [] => false
  | c :: rest => (c = '_' || Text.isLetter c) && rest.all isSimpleInner

/-! ## The reader's state -/

/-- What has been read so far. -/
structure Draft where
  /-- How many blank nodes without a name there are. -/
  unlabelled : Nat := 0
  /-- The things that have been given their names inside the document. -/
  identifiers : List String := []
  /-- The statements, in reverse. -/
  statements : List Statement := []

/-- Reading on in a document, unless it makes no sense. -/
abbrev Reading := StateT Draft Option

namespace Reading

/-- The document makes no sense. -/
def fail {α : Type} : Reading α := fun _ => none

/-- The document makes no sense unless a condition holds. -/
def ensure (condition : Bool) : Reading Unit := if condition then pure () else fail

/-- What there must be. -/
def require {α : Type} (value : Option α) : Reading α :=
  match value with
  | some value => pure value
  | none => fail

/-- A blank node without a name. -/
def newBlank : Reading Term := do
  let number := (← get).unlabelled
  modify fun draft => { draft with unlabelled := number + 1 }
  return .blank ("g" ++ toString number)

/-- Adds a statement. -/
def add (subject predicate object : Term) : Reading Unit :=
  modify fun draft => { draft with statements := ⟨subject, predicate, object⟩ :: draft.statements }

end Reading

open Reading

/-! ## Scopes -/

/-- What an element takes over from those around it. -/
structure Scope where
  /-- The base of references; without one they stand for themselves. -/
  base : List Char := []
  language : Option String := none
  /-- The namespaces with the prefixes under which they have been declared, the last first. The default
  namespace has the empty prefix. -/
  marks : List (String × List Char) := []

namespace Scope

/-- The value of an attribute of XML itself. -/
def ofXml (tag : Tag) (own : String) : Option String :=
  tag.attributes.foldl
    (fun found given =>
      let label := Label.ofName given.name given.written
      if label.space = some xmlSpace && label.iri = xmlSpace ++ own then some given.value else found)
    none

/-- The scope inside an element. -/
def inside (scope : Scope) (tag : Tag) : Reading Scope := do
  let base ← match ofXml tag "base" with
    | some base => do
      let base ← require (Iri.Reference.withoutFragment? base.toList)
      require (Iri.Reference.resolve? scope.base base)
    | none => pure scope.base
  let declared := tag.declared.filterMap fun (mark, space) => if space = "" then none else some (space, mark)
  return ⟨base, (ofXml tag "lang").or scope.language, declared.reverse ++ scope.marks⟩

/-- The IRI that a reference stands for. -/
def resolve (scope : Scope) (reference : String) : Reading Term := do
  return .iri (String.ofList (← require (Iri.Reference.resolveExactly? scope.base reference.toList)))

/-- A text in the language of the scope. -/
def text (scope : Scope) (value : String) : Reading Term := require (literal? value.toList scope.language none)

end Scope

/-- The blank node with a name. -/
def labelled (name : String) : Reading Term := do
  ensure (isSimpleName name)
  return .blank ("n" ++ name)

/-- The IRI of a name given inside the document. -/
def identified (scope : Scope) (name : String) : Reading Term := do
  ensure (isSimpleName name)
  scope.resolve ("#" ++ name)

end Sparql.Graph.RdfXml
