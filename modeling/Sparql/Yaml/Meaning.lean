import Sparql.Text.Base64
import Sparql.Value.Equality
import Sparql.Yaml.Node

/-!
# What YAML documents mean

The value of a document. Its nodes are of the types that every document knows; a node of any other type has
no value. Of entries with the same key the last one counts, at the place of the first.

Of several faults in a document the one within the fewest collections counts, and of those the first.
-/

namespace Sparql.Yaml

/-- A fault, and how many collections it lies within. -/
structure Defect where
  depth : Nat
  cause : DocumentError
deriving Repr

/-- What a part of a document stands for, unless it has a fault. -/
abbrev Content (α : Type) := Except Defect α

namespace Content

/-- A fault within no collection. -/
def fail {α : Type} (cause : DocumentError := .malformed) : Content α := .error ⟨0, cause⟩

/-- Two parts side by side. Of two faults the less deep one counts, and of equally deep ones the first. -/
def both {α β : Type} : Content α → Content β → Content (α × β)
  | .ok first, .ok second => .ok (first, second)
  | .error defect, .ok _ => .error defect
  | .ok _, .error defect => .error defect
  | .error first, .error second => .error (if second.depth < first.depth then second else first)

/-- Parts side by side. -/
def all {α : Type} : List (Content α) → Content (List α)
  | [] => .ok []
  | content :: rest => (fun (value, values) => value :: values) <$> both content (all rest)

/-- What stands inside of a collection, seen from the outside. -/
def inside {α : Type} (content : Content α) : Content α :=
  content.mapError fun defect => { defect with depth := defect.depth + 1 }

end Content

/-- The name of the type that a tag names, if every document knows it. -/
def coreType? (tag : String) : Option String :=
  let beginning := coreTag ""
  if tag.startsWith beginning then some (tag.drop beginning.length).toString else none

/-- The types of collections. -/
def collectionTypes : List String := ["seq", "omap", "pairs", "map", "set"]

/-- Whether a tag names a type of collections. -/
def isCollectionTag (tag : String) : Bool := (coreType? tag).any collectionTypes.contains

/-- The value of a text of a type. -/
def textValue (tag : String) (text : List Char) : Except DocumentError Value :=
  match coreType? tag with
  | some "null" => .ok .null
  | some "bool" => Value.bool <$> Schema.bool text
  | some "int" => Value.int <$> Schema.int text
  | some "float" => Value.float <$> Schema.float text
  | some "timestamp" => Schema.moment text
  | some "str" => .ok (.text (String.ofList text))
  | some "binary" =>
    match Text.Base64.decode? text with
    | some bytes => .ok (.bytes bytes)
    | none => .error .malformed
  | _ => .error .malformed

/-- The contents of a key and of what stands under it. -/
abbrev EntryContent := Content Value × Content Value

/-- What a node stands for, wherever it is used. -/
structure Meaning where
  tag : String
  value : Content Value
  /-- Its text: that of a mapping stands under an equals sign. -/
  text : Option (List Char) := none
  /-- The entries of a mapping, those first that it takes over from others. -/
  entries : Option (List EntryContent) := none
  /-- What a mapping can take over from the node. -/
  taken : Option (List EntryContent) := none
  /-- The entry of a mapping that has one only. -/
  single : Option EntryContent := none

namespace Meaning

/-- Whether the node stands for the entries of its value. -/
def isMergeMark (meaning : Meaning) : Bool := meaning.tag == coreTag "merge"

/-- Whether the node marks the text that a mapping stands for. -/
def isValueMark (meaning : Meaning) : Bool := meaning.tag == coreTag "value"

/-- The content of a key. No collection is one, whatever is wrong inside of it. -/
def key (meaning : Meaning) : Content Value :=
  if meaning.isValueMark then
    match meaning.text with
    | some text => .ok (.text (String.ofList text))
    | none => Content.fail
  else if isCollectionTag meaning.tag then Content.fail
  else meaning.value

/-- The mapping of some entries. -/
def mapping (entries : Option (List EntryContent)) : Content (List (Value × Value)) :=
  match entries with
  | none => Content.fail
  | some entries => do
    match Value.ofEntries? (← Content.all (entries.map fun (key, value) => Content.both key value)) with
    | some entries => .ok entries
    | none => Content.fail

/-- The pair that a mapping of one entry stands for. -/
def pair (meaning : Meaning) : Content Value :=
  match meaning.single with
  | some (key, value) => (fun (key, value) => .tuple [key, value]) <$> Content.both key value
  | none => Content.fail

/-- The pairs of some items, up to the first that is none. -/
def pairs : List Meaning → List (Content Value)
  | [] => []
  | item :: rest => if item.single.isSome then item.pair :: pairs rest else [Content.fail]

/-- A text. -/
def ofText (tag : String) (text : List Char) : Meaning where
  tag
  value :=
    if isCollectionTag tag then Content.inside Content.fail
    else (textValue tag text).mapError (⟨0, ·⟩)
  text := some text

/-- A sequence. What a mapping takes over from it are the entries of its items, those of the last first. -/
def ofItems (tag : String) (items : List Meaning) : Meaning where
  tag
  value :=
    match coreType? tag with
    | some "seq" => .list <$> Content.inside (Content.all (items.map value))
    | some "omap" | some "pairs" => .list <$> Content.inside (Content.all (pairs items))
    | _ => if isCollectionTag tag then Content.inside Content.fail else Content.fail
  taken := (List.flatten ∘ List.reverse) <$> items.mapM entries

/-- The entries of a mapping, those first that it takes over from others. -/
def merged (entries : List (Meaning × Meaning)) : Option (List EntryContent) := do
  let taken ← (entries.filter fun (key, _) => key.isMergeMark).mapM fun (_, value) => value.taken
  let own := (entries.filter fun (key, _) => !key.isMergeMark).map fun (key, value) => (key.key, value.value)
  return taken.flatten ++ own

/-- A mapping. -/
def ofEntries (tag : String) (entries : List (Meaning × Meaning)) : Meaning :=
  let text := (entries.find? fun (key, _) => key.isValueMark).bind fun (_, value) => value.text
  let merged := merged entries
  { tag
    value :=
      match coreType? tag with
      | some "map" => .map <$> Content.inside (mapping merged)
      | some "set" => (fun entries => .set (entries.map (·.1))) <$> Content.inside (mapping merged)
      | type =>
        if isCollectionTag tag then Content.inside Content.fail
        else match text with
          | none => Content.fail
          | some text =>
            if type = some "timestamp" then Content.fail .notText else (textValue tag text).mapError (⟨0, ·⟩)
    text
    entries := merged
    taken := merged
    single :=
      match entries with
      | [(key, value)] => some (key.value, value.value)
      | _ => none }

/-- A value that shows as a text. -/
def ellipsis (text : String) : Content Value := .ok (.answer ⟨text, .ok text, .ok text⟩ true none)

/-- A collection inside of itself shows as an ellipsis, and nothing is taken over from it. -/
def ofEnclosing (tag : String) (isMapping : Bool) : Meaning where
  tag
  value :=
    match coreType? tag, isMapping with
    | some "map", true => ellipsis "\x7b...\x7d"
    | some "seq", false | some "omap", false | some "pairs", false => ellipsis "[...]"
    | _, _ => Content.fail
  entries := if isMapping then some [] else none
  taken := some []

mutual

/-- What a node stands for, given what the named nodes do. -/
def ofNode (known : List (Nat × Meaning)) : Node → Meaning
  | .scalar tag text => ofText tag text
  | .sequence tag items => ofItems tag (ofNodes known items)
  | .mapping tag entries => ofEntries tag (ofEntryNodes known entries)
  | .named place => (known.lookup place).getD (ofText "" [])
  | .enclosing tag isMapping => ofEnclosing tag isMapping

/-- What some nodes stand for. -/
def ofNodes (known : List (Nat × Meaning)) : List Node → List Meaning
  | [] => []
  | node :: rest => ofNode known node :: ofNodes known rest

/-- What the keys and values of some entries stand for. -/
def ofEntryNodes (known : List (Nat × Meaning)) : List (Node × Node) → List (Meaning × Meaning)
  | [] => []
  | (key, value) :: rest => (ofNode known key, ofNode known value) :: ofEntryNodes known rest

end

end Meaning

/-- What the named nodes of a document stand for. -/
def Document.meanings (document : Document) : List (Nat × Meaning) :=
  document.named.foldl (fun known (place, node) => (place, Meaning.ofNode known node) :: known) []

/-- The value of a document. -/
def Document.value (document : Document) : Except DocumentError Value :=
  (Meaning.ofNode document.meanings document.root).value.mapError (·.cause)

/-- The value of a text that holds a single document. A text that holds none stands for nothing. -/
def parse (text : List Char) : Except DocumentError Value := do
  match ← Document.ofText text with
  | some document => document.value
  | none => return .null

end Sparql.Yaml
