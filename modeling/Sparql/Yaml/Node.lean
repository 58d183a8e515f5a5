import Sparql.Yaml.Schema
import Sparql.Yaml.Token

/-!
# YAML nodes

A node is a text, a sequence or a mapping, each with a tag that names its type. Nodes are read from tokens;
an alias stands for the node that an anchor before it names. Named nodes are kept apart, each once.
-/

namespace Sparql.Yaml

/-- A node. -/
inductive Node where
  | scalar (tag : String) (text : List Char)
  | sequence (tag : String) (items : List Node)
  | mapping (tag : String) (entries : List (Node × Node))
  /-- A named node, by the place of its name among all. -/
  | named (place : Nat)
  /-- A collection inside of itself. -/
  | enclosing (tag : String) (isMapping : Bool)
deriving Repr, Inhabited

/-- A document. -/
structure Document where
  root : Node
  /-- The named nodes with the places of their names, in the order in which the nodes end. -/
  named : List (Nat × Node)
deriving Repr

/-- The tag of a type that every document knows. -/
def coreTag (name : String) : String := "tag:yaml.org,2002:" ++ name

namespace Node

/-- The node of a missing text. -/
def empty : Node := .scalar (coreTag "null") []

/-! ## Reading tokens -/

/-- The tokens that are left, and what those before them have named. -/
structure State where
  tokens : List Token
  /-- The nodes that anchors name. -/
  anchors : List (String × Node) := []
  /-- The named nodes that have ended, the last first. -/
  named : List (Nat × Node) := []
  /-- What the handles of tags stand for. -/
  handles : List (String × String) := []
  /-- How many collections are open. -/
  depth : Nat := 0

/-- Reading on in the tokens. -/
abbrev Reading := StateT State (Except DocumentError)

/-- The document ends where it may not, or goes on with a token that may not stand here. -/
def unexpected {α : Type} : Reading α := throw .malformed

/-- The next token, unless the text cannot be read on. -/
def peek : Reading (Option Token) := do
  match (← get).tokens.head? with
  | some (.flaw cause) => throw cause
  | next => return next

/-- Moves past a token. -/
def skip : Reading Unit := modify fun state => { state with tokens := state.tokens.drop 1 }

/-- Moves past a token if it is the given one; tells whether it was. -/
def accept (token : Token) : Reading Bool := do
  if (← peek) = some token then
    skip
    return true
  else return false

/-- What stands before the content of a node: its name, and its tag in full. -/
structure Decoration where
  anchor : Option String := none
  tag : Option String := none

/-- Whether a node is decorated. -/
def Decoration.isAny (decoration : Decoration) : Bool := decoration.anchor.isSome || decoration.tag.isSome

/-- The tag of a node; an exclamation mark alone is none. -/
def Decoration.type? (decoration : Decoration) : Option String := decoration.tag.filter (· ≠ "!")

/-- An anchor if it is here. -/
def anchor? : Reading (Option String) := do
  match ← peek with
  | some (.anchor name) =>
    skip
    return some name
  | _ => return none

/-- A tag if it is here. -/
def tag? : Reading (Option TagSpelling) := do
  match ← peek with
  | some (.tag spelling) =>
    skip
    return some spelling
  | _ => return none

/-- The tag that is spelt. -/
def resolve : TagSpelling → Reading String
  | ⟨none, rest⟩ => return rest
  | ⟨some handle, rest⟩ => do
    match (← get).handles.lookup handle with
    | some beginning => return beginning ++ rest
    | none => throw .malformed

/-- An anchor and a tag, in either order. -/
def decoration : Reading Decoration := do
  let before ← anchor?
  let tag ← tag?
  let after ← if before.isNone && tag.isSome then anchor? else pure none
  return ⟨before.or after, ← tag.mapM resolve⟩

/-- The node that an anchor names. -/
def aliased (name : String) : Reading Node := do
  match (← get).anchors.lookup name with
  | some node => return node
  | none => throw .malformed

/-- The place of a new name, if there is one. No name is given twice. -/
def newPlace (anchor : Option String) (opening : Node) : Reading (Option Nat) := do
  match anchor with
  | none => return none
  | some name =>
    let anchors := (← get).anchors
    if (anchors.lookup name).isSome then throw .malformed
    modify fun state => { state with anchors := (name, opening) :: anchors }
    return some anchors.length

/-- A node that has ended. A named one is kept at the place of its name. -/
def close (anchor : Option String) (place : Option Nat) (node : Node) : Reading Node := do
  match anchor, place with
  | some name, some place =>
    modify fun state => { state with
      anchors := (name, .named place) :: state.anchors
      named := (place, node) :: state.named }
    return .named place
  | _, _ => return node

/-- A text. Without a tag it has the type that its form shows if it is plain; so it has if its tag is an
exclamation mark. -/
def scalarOf (decoration : Decoration) (isPlain : Bool) (text : List Char) : Reading Node := do
  let tag := decoration.type?.getD
    (coreTag (if isPlain || decoration.tag.isSome then Schema.typeOf text else "str"))
  let place ← newPlace decoration.anchor empty
  close decoration.anchor place (.scalar tag text)

/-- The text that stands for missing content behind an anchor or a tag. -/
def missingText (decoration : Decoration) : Reading Node := scalarOf decoration true []

/-- How many collections may be open at once. -/
def deepest : Nat := 488

/-- A collection whose items are read by `items`. -/
def collection {α : Type} (decoration : Decoration) (opening : String → Node) (core : String)
    (make : String → α → Node) (items : Reading α) : Reading Node := do
  let tag := decoration.type?.getD (coreTag core)
  let place ← newPlace decoration.anchor (opening tag)
  let depth := (← get).depth
  if depth = deepest then throw .tooDeep
  modify fun state => { state with depth := depth + 1 }
  let items ← items
  modify fun state => { state with depth }
  close decoration.anchor place (make tag items)

/-- A sequence whose items are read by `items`. -/
def sequenceOf (decoration : Decoration) (items : Reading (List Node)) : Reading Node :=
  collection decoration (.enclosing · false) "seq" .sequence items

/-- A mapping whose entries are read by `entries`. -/
def mappingOf (decoration : Decoration) (entries : Reading (List (Node × Node))) : Reading Node :=
  collection decoration (.enclosing · true) "map" .mapping entries

/-- Where a node stands, which decides what it can be. -/
inductive Place where
  /-- An item outside brackets, or a whole document. -/
  | block
  /-- A key or a value outside brackets, which may be a sequence at the column of its mapping. -/
  | entry
  /-- Inside brackets. -/
  | flow
deriving DecidableEq, Repr

/-- Whether the next token is one of some. -/
def follows (tokens : List Token) : Reading Bool := return (← peek).any tokens.contains

mutual

/-- A node. -/
def read : Nat → Place → Reading Node
  | 0, _ => unexpected
  | fuel + 1, place => do
    if let some (.aliasOf anchor) ← peek then
      skip
      return ← aliased anchor
    let decoration ← decoration
    match ← peek with
    | some (.scalar isPlain text) =>
      skip
      scalarOf decoration isPlain text
    | some .flowSequenceStart =>
      skip
      sequenceOf decoration (flowItems fuel true [])
    | some .flowMappingStart =>
      skip
      mappingOf decoration (flowEntries fuel true [])
    | some .blockEntry =>
      if place = .entry then sequenceOf decoration (looseItems fuel [])
      else if decoration.isAny then missingText decoration
      else unexpected
    | some .blockSequenceStart =>
      if place ≠ .flow then
        skip
        sequenceOf decoration (blockItems fuel [])
      else if decoration.isAny then missingText decoration
      else unexpected
    | some .blockMappingStart =>
      if place ≠ .flow then
        skip
        mappingOf decoration (blockEntries fuel [])
      else if decoration.isAny then missingText decoration
      else unexpected
    | _ => if decoration.isAny then missingText decoration else unexpected

/-- A node, or the missing text if one of some tokens follows. -/
def readUnless : Nat → Place → List Token → Reading Node
  | 0, _, _ => unexpected
  | fuel + 1, place, tokens => do
    if ← follows tokens then return empty else read fuel place

/-- The items of a sequence outside brackets. -/
def blockItems : Nat → List Node → Reading (List Node)
  | 0, _ => unexpected
  | fuel + 1, items => do
    if ← accept .blockEntry then
      let item ← readUnless fuel .block [.blockEntry, .blockEnd]
      blockItems fuel (item :: items)
    else if ← accept .blockEnd then return items.reverse
    else unexpected

/-- The items of a sequence at the column of the mapping that it is in. -/
def looseItems : Nat → List Node → Reading (List Node)
  | 0, _ => unexpected
  | fuel + 1, items => do
    if ← accept .blockEntry then
      let item ← readUnless fuel .block [.blockEntry, .key, .value, .blockEnd]
      looseItems fuel (item :: items)
    else return items.reverse

/-- The entries of a mapping outside brackets. A key may stand without a value. -/
def blockEntries : Nat → List (Node × Node) → Reading (List (Node × Node))
  | 0, _ => unexpected
  | fuel + 1, entries => do
    if ← accept .key then
      let key ← readUnless fuel .entry [.key, .value, .blockEnd]
      let value ← if ← accept .value then readUnless fuel .entry [.key, .value, .blockEnd] else pure empty
      blockEntries fuel ((key, value) :: entries)
    else if ← accept .blockEnd then return entries.reverse
    else unexpected

/-- The items of a sequence in brackets. An item with a key is a mapping of one entry. -/
def flowItems : Nat → Bool → List Node → Reading (List Node)
  | 0, _, _ => unexpected
  | fuel + 1, isFirst, items => do
    if ← accept .flowSequenceEnd then return items.reverse
    if !isFirst then
      if !(← accept .flowEntry) then unexpected
    if ← accept .key then
      let key ← readUnless fuel .flow [.value, .flowEntry, .flowSequenceEnd]
      let value ← if ← accept .value then readUnless fuel .flow [.flowEntry, .flowSequenceEnd] else pure empty
      flowItems fuel false (.mapping (coreTag "map") [(key, value)] :: items)
    else if ← accept .flowSequenceEnd then return items.reverse
    else
      let item ← read fuel .flow
      flowItems fuel false (item :: items)

/-- The entries of a mapping in brackets. A node without a value is a key. -/
def flowEntries : Nat → Bool → List (Node × Node) → Reading (List (Node × Node))
  | 0, _, _ => unexpected
  | fuel + 1, isFirst, entries => do
    if ← accept .flowMappingEnd then return entries.reverse
    if !isFirst then
      if !(← accept .flowEntry) then unexpected
    if ← accept .key then
      let key ← readUnless fuel .flow [.value, .flowEntry, .flowMappingEnd]
      let value ← if ← accept .value then readUnless fuel .flow [.flowEntry, .flowMappingEnd] else pure empty
      flowEntries fuel false ((key, value) :: entries)
    else if ← accept .flowMappingEnd then return entries.reverse
    else
      let key ← read fuel .flow
      flowEntries fuel false ((key, empty) :: entries)

end

/-- The handles that every document knows. -/
def coreHandles : List (String × String) := [("!", "!"), ("!!", coreTag "")]

/-- The handles that directives declare, each once at most; the version is given once at most and is 1. -/
def directives : List Token → Bool → List (String × String) → Except DocumentError (List (String × String) × List Token)
  | .directive (.version major) :: rest, hasVersion, handles =>
    if hasVersion || major ≠ 1 then throw .malformed else directives rest true handles
  | .directive (.handle handle beginning) :: rest, hasVersion, handles =>
    if (handles.lookup handle).isSome then throw .malformed
    else directives rest hasVersion ((handle, beginning) :: handles)
  | .directive .other :: rest, hasVersion, handles => directives rest hasVersion handles
  | rest, _, handles => return (handles ++ coreHandles, rest)

/-- Moves past the directives before a document, whose handles count from then on. -/
def head : Reading Unit := do
  let (handles, tokens) ← (directives (← get).tokens false [] : Except DocumentError _)
  modify fun state => { state with handles, tokens }

/-- Whether a token comes before the content of a document. -/
def isPreamble : Option Token → Bool
  | none | some (.directive _) | some .documentStart => true
  | _ => false

/-- How many steps reading can take at most. -/
def bound : Reading Nat := return 3 * (← get).tokens.length + 3

/-- A document, which has no node if nothing is there. -/
def document : Reading (Option Node) := do
  if !isPreamble (← peek) then
    modify fun state => { state with handles := coreHandles }
    return some (← read (← bound) .block)
  if (← peek).isNone then return none
  head
  if !(← accept .documentStart) then unexpected
  let next ← peek
  if isPreamble next || next = some .documentEnd then return some empty
  return some (← read (← bound) .block)

/-- Nothing but the ends of documents. A further document is refused once its head has been read. -/
def finish : Reading Unit := do
  modify fun state => { state with tokens := state.tokens.dropWhile (· = .documentEnd) }
  if (← peek).isSome then
    head
    let _ ← peek
    unexpected

end Node

/-- The document of a text that holds a single one, or none. -/
def Document.ofText (text : List Char) : Except DocumentError (Option Document) := do
  let (root, state) ← (do
    let root ← Node.document
    Node.finish
    return root : Node.Reading _).run { tokens := tokens text }
  return root.map (⟨·, state.named.reverse⟩)

end Sparql.Yaml
