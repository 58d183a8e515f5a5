import Sparql.Xml.Lexeme

/-!
# Document types

A document type declares texts under names and gives attributes to elements. It decides what a reference in
a document stands for and what the value of an attribute is.
-/

namespace Sparql.Xml

/-- What a name is declared to stand for. -/
inductive Entity where
  /-- A text, in which references have not been replaced. -/
  | text (value : List Char)
  /-- A text that stands elsewhere and is not read. -/
  | elsewhere
  /-- Something else than a text. -/
  | unparsed
deriving DecidableEq, Repr

/-- What the values of an attribute are made of. -/
inductive AttributeKind where
  | text
  /-- A name that no other element of the document has. -/
  | identifier
  | name
  | names
  | token
  | tokens
deriving DecidableEq, Repr

/-- What is declared of an attribute of an element, and its value where the element does not give it. -/
structure AttributeRule where
  element : List Char
  key : List Char
  kind : AttributeKind
  standard : Option (List Fragment)
deriving DecidableEq, Repr

/-- The declarations of a document. Of several declarations of one name the first holds. -/
structure DocumentType where
  practice : Practice
  /-- Whether the document says that all declarations stand inside it. -/
  isStandalone : Bool := false
  /-- How long a text may become when references in it are replaced. -/
  limit : Nat := 1000000
  entities : List (List Char × Entity) := []
  /-- The texts that stand for declarations; nothing if they stand elsewhere. -/
  parameters : List (List Char × Option (List Char)) := []
  elements : List (List Char) := []
  notations : List (List Char) := []
  rules : List AttributeRule := []
  /-- Whether there may be declarations that are not read. -/
  isOpen : Bool := false
  /-- Whether further declarations do not count, because some before them have not been read. -/
  isDeaf : Bool := false
  /-- The lengths of the declared texts once references in them are replaced. -/
  sizes : List (List Char × Nat) := []
  /-- The length of all texts that have stood for declarations. -/
  expansion : Nat := 0
deriving Repr

namespace DocumentType

/-- Whether a reference may have a name that is not declared. -/
def allowsUndeclared (type : DocumentType) : Bool := type.isOpen && !type.isStandalone

/-- How deep declared texts may stand inside each other: at most once each, and not deeper than twenty where
references are kept. -/
def depth (type : DocumentType) : Nat :=
  match type.practice with
  | .referring => min 20 (type.entities.length + 1) + 1
  | .replacing => type.entities.length + 2

/-! ## Lengths -/

/-- The names of the declared texts to which a text refers. -/
def references (type : DocumentType) (text : List Char) : List (List Char) :=
  ((fragments? type.practice text).getD []).filterMap fun
    | .char _ => none
    | .entity name => some name

/-- How long a text becomes with declared texts of given lengths in their places. Every reference has a
length of its own. -/
def sizeWith (sizes : List (List Char × Nat)) (length : Nat) (references : List (List Char)) : Nat :=
  min 100000000 (references.foldl (fun sum name => sum + 20 + (sizes.lookup name).getD 0) length)

/-- The lengths of the declared texts after some rounds of replacing. -/
def sizesAfter (texts : List (List Char × Nat × List (List Char))) : Nat → List (List Char × Nat)
  | 0 => texts.map fun (name, length, _) => (name, length)
  | rounds + 1 =>
    let sizes := sizesAfter texts rounds
    texts.map fun (name, length, references) => (name, sizeWith sizes length references)

/-- The type with the lengths of its texts. -/
def measured (type : DocumentType) : DocumentType :=
  let texts := type.entities.filterMap fun
    | (name, .text value) => some (name, value.length, type.references value)
    | _ => none
  { type with sizes := sizesAfter texts (min 64 texts.length) }

/-- The length of what some fragments stand for, beyond the characters among them. -/
def sizeOf (type : DocumentType) (fragments : List Fragment) : Nat :=
  fragments.foldl
    (fun sum fragment => match fragment with
      | .char _ => sum
      | .entity name => sum + 20 + (type.sizes.lookup name).getD 0) 0

/-! ## Values of attributes -/

/-- A text with a space for every blank. -/
def flattenSpace (text : List Char) : List Char := text.map fun c => if isSpace c then ' ' else c

/-- The characters that some fragments stand for in a value, with declared texts in each other up to a
depth. Blanks in them become spaces if they are to be flat. -/
def expand (type : DocumentType) (isFlat : Bool) : Nat → List Fragment → Option (List Char)
  | 0, _ => none
  | depth + 1, fragments =>
    let expandOne : Fragment → Option (List Char)
      | .char c => some [c]
      | .entity name =>
        match type.entities.lookup name with
        | some (.text value) => do
          if value.contains '<' then none
          let value := if isFlat then flattenSpace value else value
          expand type isFlat depth (← fragments? type.practice value)
        | some _ => none
        | none => if type.allowsUndeclared then some [] else none
    (fragments.mapM expandOne).map List.flatten

/-- The characters that some fragments stand for in a value, unless they are too many. -/
def expanded? (type : DocumentType) (isFlat : Bool) (fragments : List Fragment) : Option (List Char) :=
  if type.sizeOf fragments ≤ type.limit then type.expand isFlat type.depth fragments else none

/-- Fragments without spaces at either end and with one space for every run of them; whether a space may
come first. -/
def collapse (isInside : Bool) : List Fragment → List Fragment
  | [] => []
  | .char ' ' :: rest =>
    match collapse false rest with
    | [] => []
    | others => if isInside then .char ' ' :: others else others
  | fragment :: rest => fragment :: collapse true rest

/-- The fragments that a value of some kind keeps. -/
def kept (kind : AttributeKind) (fragments : List Fragment) : List Fragment :=
  if kind = .text then fragments else collapse false fragments

/-- The value of an attribute from what stands between its quotes: characters, and references where the
practice keeps them. All of them must make sense. -/
def value? (type : DocumentType) (kind : AttributeKind) (raw : List Char) : Option (List Fragment) := do
  let fragments ← fragments? type.practice (flattenSpace raw)
  let whole ← type.expanded? true fragments
  match type.practice with
  | .referring => return kept kind fragments
  | .replacing => return kept kind (whole.map Fragment.char)

/-- The text of a value. -/
def textOf? (type : DocumentType) (value : List Fragment) : Option String :=
  (type.expanded? false value).map String.ofList

/-- The characters among some fragments. -/
def charactersOf (fragments : List Fragment) : List Char :=
  fragments.filterMap fun
    | .char c => some c
    | .entity _ => none

/-- The text of a value that names a namespace, in which no reference is kept. -/
def spaceOf? (type : DocumentType) (kind : AttributeKind) (value : List Fragment) : Option String := do
  let whole ← type.expanded? true value
  return String.ofList (charactersOf (kept kind (whole.map Fragment.char)))

/-- The rule of an attribute. -/
def rule? (type : DocumentType) (element key : List Char) : Option AttributeRule :=
  type.rules.find? fun rule => rule.element == element && rule.key == key

/-- The kind of an attribute, which is text unless it is declared. -/
def kindOf (type : DocumentType) (element key : List Char) : AttributeKind :=
  ((type.rule? element key).map AttributeRule.kind).getD .text

/-- The attributes that an element has without giving them, in the order of their rules. -/
def standardsOf (type : DocumentType) (element : List Char) : List (List Char × List Fragment) :=
  type.rules.filterMap fun rule =>
    if rule.element = element then rule.standard.map fun value => (rule.key, value) else none

/-! ## Declaring -/

/-- The type with one more declared text, unless its name is taken. -/
def declareEntity (type : DocumentType) (name : List Char) (entity : Entity) : DocumentType :=
  if type.isDeaf || (type.entities.lookup name).isSome then type
  else { type with entities := type.entities ++ [(name, entity)] }

/-- The type with one more text for declarations, unless its name is taken. -/
def declareParameter (type : DocumentType) (name : List Char) (text : Option (List Char)) : DocumentType :=
  if type.isDeaf || (type.parameters.lookup name).isSome then type
  else { type with parameters := type.parameters ++ [(name, text)] }

/-- The type with one more rule, unless there is one for the attribute. -/
def declareRule (type : DocumentType) (rule : AttributeRule) : DocumentType :=
  if type.isDeaf || (type.rule? rule.element rule.key).isSome then type
  else { type with rules := type.rules ++ [rule] }

/-- The type after declarations that have not been read. Where references are replaced, those that follow
count only if the document says that it needs no others. -/
def passOver (type : DocumentType) : DocumentType :=
  { type with isOpen := true, isDeaf := type.isDeaf || (type.practice = .replacing && !type.isStandalone) }

end DocumentType

end Sparql.Xml
