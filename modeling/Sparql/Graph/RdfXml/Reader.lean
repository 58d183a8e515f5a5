import Sparql.Graph.RdfXml.Reading
import Sparql.Term.Lexical
import Sparql.Xml.Source

/-!
# Reading RDF in XML

Elements describe things and their properties by turns: an element inside the root describes a thing, each
of its children a property, and a child of that again a thing. Attributes name things, say how the content
of a property is to be taken, or give properties with plain values.
-/

/-!
## Properties that hold markup

The content of a property may stand for itself as written XML. It is written again with the prefixes that
its namespaces have, each declared where it is used first.
-/

namespace Sparql.Graph.RdfXml

open Sparql.Xml Reading

/-- The namespaces that have been written with their prefixes around some nodes. -/
abbrev Written := List (String × List Char)

/-- A character of a text. -/
def escapeTextChar (c : Char) : List Char := if c = '"' then [c] else escapeChar c

/-- A character of a value, which has no line ends and tabs of its own. -/
def escapeValueChar (c : Char) : List Char :=
  if c = '\n' then "&#10;".toList
  else if c = '\r' then "&#13;".toList
  else if c = '\t' then "&#9;".toList
  else escapeTextChar c

/-- A value between quotes, which are single ones if it has double ones only. -/
def quoteValue (value : String) : List Char :=
  let text := value.toList.flatMap escapeValueChar
  if !text.contains '"' then '"' :: text ++ ['"']
  else if !text.contains '\'' then '\'' :: text ++ ['\'']
  else '"' :: text.flatMap (fun c => if c = '"' then "&quot;".toList else [c]) ++ ['"']

/-- A name behind its prefix. -/
def marked (mark : List Char) (own : String) : List Char :=
  if mark.isEmpty then own.toList else mark ++ ':' :: own.toList

/-- The name of an element as it is written again, with the declaration of its namespace unless that has
been written, and the namespaces written then. -/
def elementText (scope : Scope) (written : Written) (label : Label) :
    Reading (List Char × List Char × Written) := do
  match label.space with
  | none => return (label.own.toList, [], written)
  | some space =>
    let mark ← require (scope.marks.lookup space)
    let name := marked mark label.own
    if (written.lookup space).isSome then return (name, [], written)
    else
      let declaration := ' ' :: declarationName mark ++ '=' :: '"' :: space.toList ++ ['"']
      return (name, declaration, (space, mark) :: written)

/-- The attributes of an element as they are written again, and the namespaces written then. An attribute in
a namespace needs a prefix. -/
def attributesText (scope : Scope) (written : Written) :
    List Attribute → Reading (List Char × Written)
  | [] => return ([], written)
  | given :: rest => do
    let label := Label.ofName given.name given.written
    let (name, written) ← match label.space with
      | none => pure (label.own.toList, written)
      | some space => do
        let mark ← require ((written.lookup space).or (scope.marks.lookup space))
        ensure (!mark.isEmpty)
        pure (marked mark label.own, if (written.lookup space).isSome then written else (space, mark) :: written)
    let (text, written) ← attributesText scope written rest
    return (' ' :: name ++ '=' :: quoteValue given.value ++ text, written)

mutual

/-- The text of a node. Comments and instructions have none. -/
def nodeText (scope : Scope) (written : Written) : Node → Reading (List Char)
  | .element tag children => do
    let scope ← scope.inside tag
    let (name, declaration, written) ← elementText scope written (Label.ofName tag.name tag.written)
    let (attributes, written) ← attributesText scope written tag.attributes
    let content ← nodesText scope written children
    return '<' :: name ++ declaration ++ attributes ++ '>' :: content ++ '<' :: '/' :: name ++ ['>']
  | .text value => return value.flatMap escapeTextChar
  | .verbatim value => return value.flatMap escapeTextChar
  | _ => return []

/-- The text of some nodes. -/
def nodesText (scope : Scope) (written : Written) : List Node → Reading (List Char)
  | [] => return []
  | node :: rest => do
    let text ← nodeText scope written node
    return text ++ (← nodesText scope written rest)

end

/-- Characters cut into runs. A carriage return is a run of its own. -/
def runs (characters : List Char) : List (List Char) :=
  characters.splitBy fun a b => a ≠ '\r' && b ≠ '\r'

/-- The text of some nodes. Every element and every run of characters is put into the normal form together
with what stands before it. -/
def markupFrom (scope : Scope) (written : String) (characters : List Char) : List Node → Reading String
  | [] => return appendRuns written characters
  | .element tag children :: rest => do
    let element ← nodeText scope [(xmlSpace, "xml".toList)] (.element tag children)
    markupFrom scope (append (appendRuns written characters) element) [] rest
  | .text value :: rest => markupFrom scope written (characters ++ value.flatMap escapeTextChar) rest
  | .verbatim value :: rest => markupFrom scope written (characters ++ value.flatMap escapeTextChar) rest
  | .instruction _ _ :: rest => markupFrom scope (appendRuns written characters) [] rest
  | _ :: rest => markupFrom scope written characters rest
where
  /-- A text with another behind it, in its normal form if it has one. -/
  append (written : String) (text : List Char) : String :=
    LexicalSpace.markup.canonical (written ++ String.ofList text)
  /-- A text with runs of characters behind it. -/
  appendRuns (written : String) (characters : List Char) : String := (runs characters).foldl append written

/-- The literal of some nodes. -/
def markup (scope : Scope) (children : List Node) : Reading Term := do
  return .literal ⟨← markupFrom scope "" [] children, none, some (rdf "XMLLiteral")⟩

/-! ## Things -/

/-- The thing that an element describes. It is named in one way at most, and a name is given once. -/
def subjectOf (scope : Scope) (attributes : List (String × String)) : Reading Term := do
  match attributes.lookup (rdf "ID"), attributes.lookup (rdf "nodeID"), attributes.lookup (rdf "about") with
  | some name, none, none =>
    let subject ← identified scope name
    ensure (!(← get).identifiers.contains subject.plainText)
    modify fun draft => { draft with identifiers := subject.plainText :: draft.identifiers }
    return subject
  | none, some name, none => labelled name
  | none, none, some reference => scope.resolve reference
  | none, none, none => newBlank
  | _, _, _ => fail

/-- Whether an attribute has a meaning of its own, so that it gives no property. -/
def isMisplaced (name : String) : Bool := (coreNames ++ ["Description", "li"].map rdf ++ oldNames).contains name

/-- Adds what the attributes of an element say about the thing that it describes. -/
def describe (scope : Scope) (subject : Term) (attributes : List (String × String)) : Reading Unit :=
  attributes.forM fun (name, value) => do
    if name = rdf "type" then add subject (.iri Vocabulary.rdfType) (← scope.resolve value)
    else if (["ID", "nodeID", "about"].map rdf).contains name then return
    else
      ensure (!isMisplaced name)
      add subject (← scope.resolve name) (← scope.text value)

/-- Adds what the attributes of a property say about its object; tells whether they say anything. -/
def describeObject (scope : Scope) (object : Term) (attributes : List (String × String)) : Reading Bool := do
  let properties := attributes.filter fun (name, _) => !(["ID", "resource", "nodeID"].map rdf).contains name
  properties.forM fun (name, value) => do
    ensure (!isMisplaced name)
    let predicate ← scope.resolve name
    let given ← if name = rdf "type" then pure (Term.iri value) else scope.text value
    add object predicate given
  return !properties.isEmpty

/-- The list of some things, as statements about its nodes. -/
def listOf : List Term → Reading Term
  | [] => return .iri (rdf "nil")
  | item :: rest => do
    let node ← newBlank
    add node (.iri (rdf "first")) item
    let tail ← listOf rest
    add node (.iri (rdf "rest")) tail
    return node

/-- The predicate of an element, and how many numbered members come before the next. -/
def predicateOf (scope : Scope) (members : Nat) (name : String) : Reading (Term × Nat) := do
  if name = rdf "li" then return (.iri (rdf ("_" ++ toString (members + 1))), members + 1)
  else
    ensure (!(coreNames ++ [rdf "Description"] ++ oldNames).contains name)
    return (← scope.resolve name, members)

/-- Adds a statement, and what names the statement itself. -/
def addNamed (identifier : Option Term) (subject predicate object : Term) : Reading Unit := do
  add subject predicate object
  match identifier with
  | none => return ()
  | some statement =>
    add statement (.iri Vocabulary.rdfType) (.iri (rdf "Statement"))
    add statement (.iri (rdf "subject")) subject
    add statement (.iri (rdf "predicate")) predicate
    add statement (.iri (rdf "object")) object

/-! ## Contents of properties -/

/-- What becomes of characters in a property that is given its object. Properties next to each other share
it. -/
inductive CharacterUse where
  | ignored
  /-- They are put behind the IRI that is the object. -/
  | appended
deriving DecidableEq, Repr

/-- How the content of a property is to be taken. -/
inductive Content where
  /-- It is a given thing, unless one stands here and the given one is without a name; its characters may
  count. -/
  | given (object : Term)
  /-- It is a given thing, whose characters never count. -/
  | described (object : Term)
  /-- It is a thing without a name, whose properties stand here. -/
  | properties
  /-- It is a list of things. -/
  | list
  /-- It is written XML. -/
  | markup
  /-- It is a thing or a text, perhaps with a datatype. -/
  | plain (datatype : Option String)

/-- How the attributes of a property say that its content is to be taken. -/
def contentOf (scope : Scope) (attributes : List (String × String)) : Reading Content := do
  let datatype := attributes.lookup (rdf "datatype")
  match attributes.lookup (rdf "resource"), attributes.lookup (rdf "nodeID"),
      attributes.lookup (rdf "parseType") with
  | some _, some _, _ => fail
  | some reference, none, _ => describedBy (← scope.resolve reference) datatype
  | none, some name, _ => describedBy (← labelled name) datatype
  | none, none, some kind =>
    ensure (attributes.all fun (name, _) => name = rdf "parseType" || name = rdf "ID")
    return match kind with
      | "Resource" => .properties
      | "Collection" => .list
      | _ => .markup
  | none, none, none =>
    match datatype with
    | some reference =>
      let _ ← scope.resolve reference
      return .plain datatype
    | none =>
      let object ← newBlank
      if ← describeObject scope object attributes then return .described object else return .plain none
where
  /-- A given thing, about which the attributes say more unless there is a datatype. -/
  describedBy (object : Term) (datatype : Option String) : Reading Content := do
    match datatype with
    | some reference =>
      let _ ← scope.resolve reference
    | none => let _ ← describeObject scope object attributes
    return .given object

/-- How characters are used after a property with a given content. -/
def Content.nextUse (before : CharacterUse) : Content → CharacterUse
  | given _ => before
  | markup => .appended
  | _ => .ignored

/-- An object that stands for a thing which has been named or has no name; only the empty IRI is none. -/
def isSettled : Option Term → Bool
  | none => false
  | some object => object.plainText ≠ ""

/-- An object with characters behind it: only IRIs can have them. -/
def appendCharacters (use : CharacterUse) (object : Option Term) (characters : List Char) :
    Reading (Option Term) :=
  match use, object with
  | .ignored, _ => return object
  | .appended, some (.iri value) => return some (.iri (value ++ String.ofList (characters.flatMap escapeTextChar)))
  | .appended, _ => if characters.isEmpty then return object else fail

mutual

/-- The thing that an element describes. -/
def thing (scope : Scope) : Node → Reading Term
  | .element tag children => do
    let scope ← scope.inside tag
    let attributes := attributesOf tag
    let name := (Label.ofName tag.name tag.written).iri
    ensure (!(coreNames ++ [rdf "li"] ++ oldNames).contains name)
    let subject ← subjectOf scope attributes
    if name ≠ rdf "Description" then add subject (.iri Vocabulary.rdfType) (← scope.resolve name)
    describe scope subject attributes
    properties scope subject 0 .ignored children
    return subject
  | _ => fail

/-- The things that the elements among some nodes describe. -/
def things (scope : Scope) : List Node → Reading (List Term)
  | [] => return []
  | .element tag children :: rest => do
    let first ← thing scope (.element tag children)
    return first :: (← things scope rest)
  | _ :: rest => things scope rest

/-- The object of a property after some nodes in it, and the characters among them. A thing may stand there
if there is no object yet. -/
def objectFrom (scope : Scope) (use : CharacterUse) (object : Option Term) :
    List Node → Reading (Option Term × List Char)
  | [] => return (object, [])
  | .element tag children :: rest => do
    let subject ← thing scope (.element tag children)
    ensure (!isSettled object)
    objectFrom scope use (some subject) rest
  | .text value :: rest => do
    let (object, others) ← objectFrom scope use (← appendCharacters use object value) rest
    return (object, value ++ others)
  | .verbatim value :: rest => do
    let (object, others) ← objectFrom scope use (← appendCharacters use object value) rest
    return (object, value ++ others)
  | _ :: rest => objectFrom scope use object rest

/-- Adds the properties of a thing that the elements among some nodes describe. -/
def properties (scope : Scope) (subject : Term) (members : Nat) (use : CharacterUse) :
    List Node → Reading Unit
  | [] => return ()
  | .element tag children :: rest => do
    let inner ← scope.inside tag
    let attributes := attributesOf tag
    let (predicate, members) ← predicateOf inner members (Label.ofName tag.name tag.written).iri
    let identifier ← (attributes.lookup (rdf "ID")).mapM (identified inner)
    let content ← contentOf inner attributes
    let object ← match content with
      | .given object => do
        let (object, _) ← objectFrom inner use (some object) children
        require object
      | .described object => do
        let (object, _) ← objectFrom inner .ignored (some object) children
        require object
      | .properties => do
        let object ← newBlank
        properties inner object 0 .ignored children
        pure object
      | .list => do
        let items ← things inner children
        listOf items
      | .markup => markup inner children
      | .plain datatype => do
        let (object, text) ← objectFrom inner .ignored none children
        match object with
        | some object => pure object
        | none => require (literal? text (if datatype.isSome then none else inner.language) datatype)
    addNamed identifier subject predicate object
    properties scope subject members (content.nextUse use) rest
  | _ :: rest => properties scope subject members use rest

end

/-- Adds the statements of a document. -/
def document (root : Node) : Reading Unit := do
  match root with
  | .element tag children =>
    let label := Label.ofName tag.name tag.written
    if label.iri = rdf "RDF" && label.space.isSome then
      let _ ← things (← Scope.inside {} tag) children
    else
      let _ ← thing {} root
  | _ => fail

/-- The statements of a document. -/
def statements? (text : List Char) : Option (List Statement) := do
  let root ← rootOfDecoded? .replacing text
  let (_, draft) ← (document root).run {}
  return draft.statements.reverse

end Sparql.Graph.RdfXml
