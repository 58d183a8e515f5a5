import Sparql.Text.Basic
import Sparql.Xml.Node
import Sparql.Xml.Piece

/-!
# XML documents

Pieces are put together on a stack of open elements, each with the namespaces that are in force inside it.
-/

namespace Sparql.Xml

/-- The namespace of the prefix `xml`. -/
def xmlSpace : String := "http://www.w3.org/XML/1998/namespace"

/-- The namespace of declarations of namespaces. -/
def declarationSpace : String := "http://www.w3.org/2000/xmlns/"

/-- The namespaces in force: those of prefixes, and the default one under the empty prefix. -/
abbrev Scope := List (List Char × String)

/-- A name in parts: the prefix, which may be empty, and the name after it. -/
structure QualifiedName where
  mark : List Char
  own : List Char
deriving DecidableEq, Repr

namespace QualifiedName

/-- The length that no part of a name may exceed where documents are checked. -/
def longest : Nat := 50000

/-- The parts of a name as it is written. Both are names without a colon. -/
def ofWritten? (practice : Practice) (written : List Char) : Option QualifiedName :=
  let name : QualifiedName := match written.dropWhile (· ≠ ':') with
    | [] => ⟨[], written⟩
    | _ :: own => ⟨written.takeWhile (· ≠ ':'), own⟩
  let isPart (part : List Char) : Bool :=
    practice.isSimpleName part && (practice = .replacing || part.length ≤ longest)
  if isPart name.own && (isPart name.mark || !written.contains ':') then some name else none

/-- The prefix that an attribute of this name declares, if it declares one. -/
def declaredMark? (name : QualifiedName) : Option (List Char) :=
  if name.mark = "xmlns".toList then some name.own
  else if name.mark.isEmpty && name.own = "xmlns".toList then some []
  else none

/-- The name inside a scope. Without a prefix it is in a given namespace, if any. -/
def resolve? (scope : Scope) (standard : Option String) (name : QualifiedName) : Option Name :=
  if name.mark.isEmpty then some ⟨standard, String.ofList name.own⟩
  else (scope.lookup name.mark).map fun space => ⟨some space, String.ofList name.own⟩

end QualifiedName

/-- The default namespace. -/
def standardSpace (scope : Scope) : Option String := (List.lookup ([] : List Char) scope).filter (· ≠ "")

/-- Whether a prefix may be declared for a namespace. -/
def isDeclarable (practice : Practice) (mark : List Char) (space : String) : Bool :=
  let isForm := match practice with
    | .referring => space = "" || isReference space.toList
    | .replacing => !space.toList.contains ' '
  isForm && if mark = "xml".toList then space = xmlSpace
    else mark ≠ "xmlns".toList && space ≠ xmlSpace && space ≠ declarationSpace && (mark.isEmpty || space ≠ "")

/-- An attribute that is not understood yet: its name and its value. -/
structure RawAttribute where
  written : List Char
  name : QualifiedName
  kind : AttributeKind
  value : List Fragment

/-- The attributes of an element as they are written, with those that it has without giving them. -/
def rawAttributes? (type : DocumentType) (element : List Char) (given : List (List Char × List Char)) :
    Option (List RawAttribute) := do
  let values ← given.mapM fun (written, raw) => do
    return (written, ← type.value? (type.kindOf element written) raw)
  let standards := (type.standardsOf element).filter fun (written, _) => !given.any (·.1 == written)
  (values ++ standards).mapM fun (written, value) => do
    return ⟨written, ← QualifiedName.ofWritten? type.practice written, type.kindOf element written, value⟩

/-- The namespaces that some attributes declare. -/
def declaredSpaces? (type : DocumentType) (attributes : List RawAttribute) : Option Scope :=
  (attributes.filter fun given => given.name.declaredMark?.isSome).mapM fun given => do
    let mark ← given.name.declaredMark?
    let space ← type.spaceOf? given.kind given.value
    if isDeclarable type.practice mark space then return (mark, space) else none

/-- The attributes that declare no namespace, inside a scope. -/
def properAttributes? (type : DocumentType) (scope : Scope) (attributes : List RawAttribute) :
    Option (List Attribute) :=
  (attributes.filter fun given => given.name.declaredMark?.isNone).mapM fun given => do
    return ⟨given.written, ← given.name.resolve? scope none, ← type.textOf? given.value⟩

/-! ## Putting pieces together -/

/-- An element that is open, with its children so far in reverse. -/
structure OpenElement where
  tag : Tag
  scope : Scope
  children : List Node := []
deriving Repr

/-- A document in the making. -/
structure Draft where
  type : DocumentType
  stack : List OpenElement := []
  root : Option Node := none
  /-- How many open elements stand outside the declared text that is being read. -/
  floor : Nat := 0
  /-- The identifiers of elements so far. -/
  identifiers : List String := []
  /-- The declared texts that have been read once. -/
  checked : List (List Char) := []
  /-- The length of all declared texts that have been put in their places. -/
  expansion : Nat := 0
deriving Repr

namespace Draft

/-- How many elements may stand inside each other where documents are checked. -/
def deepest : Nat := 256

/-- The draft with one more node inside the innermost element. -/
def insert (draft : Draft) (node : Node) : Option Draft :=
  match draft.stack with
  | [] => none
  | innermost :: outer =>
    some { draft with stack := { innermost with children := node :: innermost.children } :: outer }

/-- The draft with one more element, which is the root if it is outside all others. -/
def insertElement (draft : Draft) (node : Node) : Option Draft :=
  if draft.stack.isEmpty then
    if draft.root.isSome then none else some { draft with root := some node }
  else draft.insert node

/-- The draft with a comment or an instruction, which may stand anywhere. -/
def insertAside (draft : Draft) (node : Node) : Option Draft :=
  if draft.stack.isEmpty then some draft else draft.insert node

/-- The draft with the innermost element complete. -/
def close (draft : Draft) (written : List Char) : Option Draft :=
  match draft.stack with
  | [] => none
  | innermost :: outer =>
    if innermost.tag.written = written && draft.floor < draft.stack.length then
      insertElement { draft with stack := outer } (.element innermost.tag innermost.children.reverse)
    else none

/-- The scope inside the innermost element. -/
def scope (draft : Draft) : Scope :=
  match draft.stack with
  | [] => [("xml".toList, xmlSpace)]
  | innermost :: _ => innermost.scope

/-- The text of an attribute that identifies its element where documents are checked. -/
def identifier? (type : DocumentType) (element : List Char) (given : Attribute) : Option String :=
  if type.practice = .referring && given.value ≠ ""
      && (given.name = ⟨some xmlSpace, "id"⟩ || type.kindOf element given.written = .identifier) then
    some given.value
  else none

/-- Whether the attributes that XML itself knows have values that make sense. -/
def areSensible (type : DocumentType) (attributes : List Attribute) : Bool :=
  type.practice = .replacing || attributes.all fun given =>
    let own := (skipSpace (skipSpace given.value.toList).reverse).reverse
    given.name ≠ ⟨some xmlSpace, "id"⟩ || type.practice.isSimpleName own

/-- The draft with an element open. -/
def openElement (draft : Draft) (written : List Char) (given : List (List Char × List Char)) :
    Option Draft := do
  let type := draft.type
  if draft.stack.isEmpty && draft.root.isSome then none
  if type.practice = .referring && deepest ≤ draft.stack.length then none
  if !DocumentType.allDistinct (given.map (·.1)) then none
  let raw ← rawAttributes? type written given
  let declared ← declaredSpaces? type raw
  let scope := declared.reverse ++ draft.scope
  let name ← (← QualifiedName.ofWritten? type.practice written).resolve? scope (standardSpace scope)
  let attributes ← properAttributes? type scope raw
  let identifiers := attributes.filterMap (identifier? type written) ++ draft.identifiers
  if !DocumentType.allDistinct (attributes.map (·.name)) then none
  if !areSensible type attributes || !DocumentType.allDistinct identifiers then none
  return { draft with identifiers, stack := { tag := ⟨written, name, declared, attributes⟩, scope } :: draft.stack }

/-- The draft with a declared text in its place, with a way to read it. Where references are kept, the first
of them has the text checked. -/
def insertEntity (readInside : Draft → List Char → Option Draft) (draft : Draft) (name : List Char) :
    Option Draft :=
  let expansion := draft.expansion + draft.type.sizeOf [.entity name]
  if draft.type.limit < expansion then none
  else match draft.type.entities.lookup name, draft.type.practice with
    | some (.text value), .replacing =>
      readInside { draft with expansion := draft.expansion + value.length + 20 } value
    | some (.text value), .referring => do
      let draft := { draft with expansion }
      let seen ← if draft.checked.contains name then some draft else readInside draft value
      insert { draft with checked := name :: seen.checked, identifiers := seen.identifiers } (.entity name)
    | some .elsewhere, .replacing => some draft
    | some .elsewhere, .referring => draft.insert (.entity name)
    | some .unparsed, _ => none
    | none, practice =>
      if !draft.type.allowsUndeclared then none
      else match practice with
        | .referring => draft.insert (.entity name)
        | .replacing => some draft

/-- The draft with some fragments; the characters before them stand in reverse. -/
def insertFragments (readInside : Draft → List Char → Option Draft) (draft : Draft) (read : List Char) :
    List Fragment → Option Draft
  | [] => if read.isEmpty then some draft else draft.insert (.text read.reverse)
  | .char c :: rest => insertFragments readInside draft (c :: read) rest
  | .entity name :: rest =>
    match if read.isEmpty then some draft else draft.insert (.text read.reverse) with
    | none => none
    | some draft =>
      match insertEntity readInside draft name with
      | none => none
      | some draft => insertFragments readInside draft [] rest

/-- The draft with a text, which must be blank outside the root. -/
def insertText (readInside : Draft → List Char → Option Draft) (draft : Draft) (raw : List Char) :
    Option Draft :=
  if draft.stack.isEmpty then
    if raw.all isSpace then some draft else none
  else (fragments? draft.type.practice raw).bind (draft.insertFragments readInside [])

/-- The draft after one more piece, with a way to read declared texts. -/
def step (readInside : Draft → List Char → Option Draft) (draft : Draft) (piece : Piece) : Option Draft :=
  match piece with
  | .openTag name attributes isEmpty =>
    (draft.openElement name attributes).bind fun next => if isEmpty then next.close name else some next
  | .closeTag name => draft.close name
  | .text raw => draft.insertText readInside raw
  | .verbatim text => draft.insert (.verbatim text)
  | .comment text => draft.insertAside (.comment text)
  | .instruction target text => draft.insertAside (.instruction target text)

/-- The draft after the pieces of a declared text, in which elements are closed where they are opened.
Declared texts stand inside each other up to a depth. -/
def readInside : Nat → Draft → List Char → Option Draft
  | 0, _, _ => none
  | depth + 1, draft, text => do
    let floor := draft.stack.length
    let pieces ← pieces? draft.type.practice text
    let read ← pieces.foldlM (step (readInside depth)) { draft with floor }
    if read.stack.length = floor then return { read with floor := draft.floor } else none

/-- The draft after the pieces of a document. -/
def read (draft : Draft) (text : List Char) : Option Draft := do
  (← pieces? draft.type.practice text).foldlM (step (readInside draft.type.depth)) draft

end Draft

/-- The root of a document, whose text has no declaration of its own. -/
def rootOf? (practice : Practice) (isStandalone : Bool) (text : List Char) : Option Node := do
  if !text.all isAllowed then none
  let text := Text.unifyLines text
  let limit := match practice with
    | .referring => max 1000000 (5 * text.length)
    | .replacing => max 8388608 (100 * text.length)
  let (type, text) ← prologue? { practice, isStandalone, limit } (text.length + 1) text
  let draft ← Draft.read { type } text
  if draft.stack.isEmpty then draft.root else none

end Sparql.Xml
