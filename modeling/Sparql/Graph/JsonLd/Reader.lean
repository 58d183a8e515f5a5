import Sparql.Graph.JsonLd.Context
import Sparql.Json.Document
import Sparql.Json.Writer
import Sparql.Term.Coercion

/-!
# Reading JSON-LD

A document is a mapping that describes a thing, or a list of them. Its members are properties, or keywords
that name the thing, its types, or a graph that it is. Of named graphs nothing is taken.
-/

namespace Sparql.Graph.JsonLd

/-- What has been read so far. -/
structure Draft where
  /-- How many blank nodes without a label there are. -/
  unlabelled : Nat := 0
  /-- The statements, in reverse. -/
  statements : List Statement := []

/-- Reading on in a document, unless it makes no sense. -/
abbrev Reading := StateT Draft Option

namespace Reading

/-- The document makes no sense. -/
def fail {α : Type} : Reading α := fun _ => none

/-- What there must be. -/
def require {α : Type} (value : Option α) : Reading α :=
  match value with
  | some value => pure value
  | none => fail

/-- A blank node without a label. -/
def newBlank : Reading Term := do
  let number := (← get).unlabelled
  modify fun draft => { draft with unlabelled := number + 1 }
  return .blank ("g" ++ toString number)

/-- Adds a statement, unless it belongs to a named graph. -/
def add (isNamed : Bool) (subject predicate object : Term) : Reading Unit :=
  if isNamed then pure ()
  else modify fun draft => { draft with statements := ⟨subject, predicate, object⟩ :: draft.statements }

end Reading

open Reading

/-- A value of a property, and its language if the language stands beside it. -/
structure Entry where
  value : Value
  language : Option String := none

/-- The mapping with one member. -/
def single (name : String) (value : Value) : Value := .map [(.text name, value)]

/-- The label of a blank node, behind its mark. -/
def label? (name : String) : Option String :=
  if name.startsWith "_:" then some (name.drop 2).toString |>.filter (· ≠ "") else none

/-- The thing with an identifier. What is no IRI names none. -/
def thingOf (context : Context) (name : String) : Reading (Option Term) := do
  match label? name with
  | some label => return some (.blank ("n" ++ label))
  | none =>
    let iri ← require (context.identify? name)
    return if iri.contains ':' then some (.iri iri) else none

/-- The predicate of a property. Blank nodes and names without an IRI are none. -/
def predicateOf (target : Target) : Option Term :=
  match target with
  | .iri "" => none
  | .iri iri => if (label? iri).isSome then none else some (.iri iri)
  | _ => none

/-- What a property means: its term, if it has one. The types of things are a term of their own. -/
def termOf (context : Context) (name : String) : Option Definition :=
  if context.standsFor name "@type" then some { target := .iri Vocabulary.rdfType, valueType := some "@vocab" }
  else context.find? name

/-! ## Collections -/

/-- The values of a mapping from languages to texts. -/
def languageEntries (context : Context) (members : Members) : List Entry :=
  members.flatMap fun (language, value) =>
    (asList value).map fun value =>
      if context.means language "@none" then { value } else { value, language := some language }

/-- The value with its key kept under a property. -/
def keepKey (property key : String) (value : Value) : Value :=
  let entries := match value with
    | .map entries => entries
    | value => [(.text "@id", value)]
  let kept := (Value.field? property entries).elim [] asList
  .map (Value.insertEntry (.text property) (.list (kept ++ [.text key])) entries)

/-- The values of a mapping from keys to values. The property that keeps the keys has to be a name. -/
def indexEntries (context : Context) (definition : Definition) (members : Members) : Reading (List Entry) :=
  let entries := members.flatMap fun (key, value) => (asList value).map fun value => (key, value)
  entries.mapM fun (key, value) =>
    match if context.means key "@none" then none else definition.index with
    | none => return { value }
    | some (.text property) => return { value := keepKey property key value }
    | some _ => fail

/-- The values of a mapping from identifiers to things. -/
def identifierEntries (context : Context) (members : Members) : List Entry :=
  members.map fun (key, value) =>
    match value with
    | .map entries =>
      if context.means key "@none" then { value }
      else
        let named : List (Value × Value) := [(.text "@id", .text key)]
        { value := .map (entries.foldl (fun sum (name, value) => Value.insertEntry name value sum) named) }
    | value => { value }

/-- The thing with one more type. -/
def withType (context : Context) (definition : Definition) (key : String) (value : Value) : Reading Value := do
  let entries ← match value with
    | .map entries => pure entries
    | .text name =>
      if definition.valueType = some "@vocab" then
        match ← require (context.expand? name) with
        | .iri iri => pure [(.text "@id", .text iri)]
        | _ => pure [(.text "@id", .null)]
      else pure [(.text "@id", .text name)]
    | _ => pure []
  let types := ((members? (.map entries)).bind fun members => context.member? members "@type").filter Value.truth
  let types := types.elim [] asList
  return .map (Value.insertEntry (.text "@type") (.list (types ++ [.text key])) entries)

/-- The values of a mapping from types to things. -/
def typeEntries (context : Context) (definition : Definition) (members : Members) : Reading (List Entry) :=
  members.mapM fun (key, value) => do
    match value with
    | .map _ | .text _ =>
      if context.means key "@none" then return { value }
      else return { value := ← withType context definition key value }
    | value => return { value }

/-- The values of a mapping from identifiers to graphs. What is no mapping is no graph. -/
def graphEntries (context : Context) (members : Members) : List Entry :=
  members.map fun (key, value) =>
    if context.means key "@none" then { value := single "@graph" value }
    else match value with
      | .map _ => { value := .map [(.text "@id", .text key), (.text "@graph", value)] }
      | value => { value }

/-- The values of a mapping that a term gives a meaning to. -/
def containedEntries (context : Context) (definition : Definition) (value : Value) (members : Members) :
    Reading (List Entry) :=
  let holds (kind : String) : Bool := definition.containers.contains kind
  if holds "@language" then return languageEntries context members
  else if context.isCurrent && holds "@graph" then
    if holds "@id" then return graphEntries context members
    else if holds "@index" then return members.map fun (_, value) => { value := single "@graph" value }
    else return [{ value := single "@graph" value }]
  else if context.isCurrent && holds "@id" then return identifierEntries context members
  else if context.isCurrent && holds "@type" then typeEntries context definition members
  else if holds "@index" then indexEntries context definition members
  else return [{ value }]

/-- The text of a JSON value as a value of its own. -/
def jsonValue (value : Value) : Value :=
  .map [(.text "@type", .text (Vocabulary.rdf "JSON")), (.text "@value", .text (Json.Canonical.write value))]

mutual

/-- A list with the lists in it as lists of the graph. -/
def nestedList : Value → Value
  | .list items => single "@list" (.list (nestedLists items))
  | value => value

/-- Values with the lists among them as lists of the graph. -/
def nestedLists : List Value → List Value
  | [] => []
  | value :: rest => nestedList value :: nestedLists rest

end

/-- The values that a member of a thing has. -/
def entriesOf (context : Context) (definition : Option Definition) (value : Value) : Reading (List Entry) :=
  match definition with
  | none => return (asList value).map ({ value := · })
  | some definition =>
    if definition.valueType = some "@json" then return [{ value := jsonValue value }]
    else if definition.containers.contains "@list" then
      return [{ value := nestedList (.list (asList value)) }]
    else match members? value with
      | some members => containedEntries context definition value members
      | none => return (asList value).map ({ value := · })

/-- The values with the lists and sets among them opened, unless a language stands beside them. -/
def flatten (context : Context) : Nat → List Entry → List Entry
  | 0, entries => entries
  | fuel + 1, entries =>
    entries.flatMap fun entry =>
      if entry.language.isSome then [entry] else
      let opened := match (members? entry.value).bind fun members => context.member? members "@set" with
        | some .null | none => entry.value
        | some set => set
      match opened with
      | .list items => flatten context fuel (items.map ({ value := · }))
      | opened => [{ value := opened }]

/-! ## Literals -/

/-- How a value that is no mapping is to be taken: as a mapping that says more about it, or as a literal in
the language of its term or else of the context. -/
inductive Expansion where
  | mapping (value : Value)
  | literal (language : Value)
  | double
  | nothing

/-- How a value that is no mapping is to be taken. -/
def expansionOf (context : Context) (definition : Option Definition) (value : Value) : Reading Expansion := do
  match definition.bind (·.valueType), value with
  | some "@json", value => return .mapping (jsonValue value)
  | _, .null => return .nothing
  | some "@id", .text name => return .mapping (single "@id" (.text (← require (context.identify? name))))
  | some "@vocab", .text name =>
    let iri ← match ← require (context.expand? name) with
      | .iri "" | .nothing | .unsaid => require (context.reference? name)
      | .iri iri => pure iri
    return .mapping (single "@id" (.text iri))
  | some kind, value => return .mapping (.map [(.text "@type", .text kind), (.text "@value", value)])
  | none, .float _ => return .double
  | none, _ => return .literal ((definition.bind (·.language)).getD context.language)

/-- The literal of a value. -/
def literalOf (value : Value) (language datatype : Option String) : Reading (Option Term) := do
  match value.toLiteral language datatype with
  | .ok literal => return some (.literal literal)
  | .error _ => fail

/-- The literal of a value in a language that stands beside it. One with a space is none. -/
def spokenLiteral (value : Value) (language : String) : Reading (Option Term) :=
  if language.contains ' ' then return none else literalOf value (some language) none

/-- The datatype that a mapping names. What is no text is named by its own text. -/
def datatypeOf (context : Context) (kind : Value) : Reading (Option String) := do
  match kind with
  | .text name =>
    match ← require (context.expand? name) with
    | .iri iri => return some iri
    | .nothing => return none
    | .unsaid => return some "0"
  | kind => return some kind.toText

/-- The literal of a mapping that gives a value or a language; none, if the mapping describes a thing. -/
def valueOf (context : Context) (members : Members) : Reading (Option (Option Term)) := do
  let language := (context.member? members "@language").filter Value.truth
  let kind := if language.isSome then none else (context.member? members "@type").filter Value.truth
  let value := (context.member? members "@value").getD .null
  let isJson := kind.any fun
    | .text name => context.means name "@json"
    | _ => false
  if isJson then return some (← literalOf (.text (Json.Canonical.write value)) none (Vocabulary.rdf "JSON"))
  else if language.isNone && !context.hasMember members "@value" then return none
  else match value, language, kind with
    | .null, _, _ => return some none
    | value, some (.text language), _ => return some (← spokenLiteral value language)
    | _, some _, _ => fail
    | value, none, some kind => return some (← literalOf value none (← datatypeOf context kind))
    | value, none, none => return some (← literalOf value none none)

/-- The name that a thing has among its nested members. -/
def nestedId? : Nat → Scope → Members → Option String
  | 0, _, _ => none
  | fuel + 1, scope, members =>
    members.findSome? fun (name, value) =>
      match scope.current.isCurrent && scope.current.means name "@nest", scope.current.find? name with
      | true, some definition =>
        (asList value).findSome? fun value => do
          let members ← members? value
          match (scope.current.member? members "@id").getD .null with
          | .text name => if name ≠ "" then return name else nestedId? fuel (← scope.forTerm definition) members
          | id => if id.truth then none else nestedId? fuel (← scope.forTerm definition) members
      | _, _ => none

/-! ## Things -/

mutual

/-- The thing that a mapping describes, if it names or describes one. -/
def thing : Nat → Bool → Scope → Bool → Value → Reading (Option Term)
  | 0, _, _, _, _ => fail
  | fuel + 1, isNamed, scope, isLoaded, value => do
    let some members := members? value | return none
    if ((scope.current.member? members "@value").filter Value.truth).isSome then return none
    let scope ← match if isLoaded then none else members.lookup "@context" with
      | none => pure scope
      | some source =>
        if source.truth then require (scope.nested?.bind (·.inside source true)) else pure ⟨{}, []⟩
    let types := ((scope.current.member? members "@type").filter Value.truth).elim [] asList
    let scope ← require (scope.forTypes types)
    let context := scope.current
    let own := (context.member? members "@id").getD .null
    let id := match own with
      | .null => (nestedId? fuel scope members).elim Value.null Value.text
      | own => own
    let subject ← match id with
      | .text name => thingOf context name
      | _ => do pure (some (← newBlank))
    match subject with
    | none => return none
    | some subject =>
      describe fuel isNamed scope subject (!(id matches .null)) members
      return some subject

/-- Adds what the members of a mapping say about a thing. -/
def describe : Nat → Bool → Scope → Term → Bool → Members → Reading Unit
  | 0, _, _, _, _, _ => fail
  | fuel + 1, isNamed, scope, subject, hasName, members =>
    members.forM fun (name, value) => do
      if name = "@context" || scope.current.means name "@id" then return
      else if scope.current.means name "@reverse" then
        let inner ← require (members? value)
        inner.forM fun (name, value) => property fuel isNamed scope subject hasName true name value
      else property fuel isNamed scope subject hasName false name value

/-- Adds what a member says about a thing: in the other direction if it is reversed. -/
def property : Nat → Bool → Scope → Term → Bool → Bool → String → Value → Reading Unit
  | 0, _, _, _, _, _, _, _ => fail
  | fuel + 1, isNamed, scope, subject, hasName, isReversed, name, value => do
    let context := scope.current
    let entries ← entriesOf context (context.find? name) value
    let things := (entries.filter (·.language.isNone)).map (·.value)
    if context.standsFor name "@graph" then
      things.forM fun value => do
        let _ ← thing fuel (isNamed || hasName) scope false value
    else if context.standsFor name "@set" || context.standsFor name "@included" then
      things.forM fun value => do
        let _ ← thing fuel isNamed scope false value
    else if context.isCurrent && context.means name "@nest" then
      let inner ← require (scope.forTerm (context.find? name))
      entries.forM fun entry => do
        (← require (if entry.language.isSome then none else members? entry.value)).forM fun (name, value) => do
          if context.means name "@id" then return
          else property fuel isNamed inner subject true false name value
    else
      let definition := termOf context name
      let target ← match definition with
        | some definition => pure definition.target
        | none => require (context.expand? name)
      let inner ← require (scope.forTerm definition)
      match predicateOf target with
      | none => return ()
      | some predicate =>
        let isReversed := isReversed != definition.any (·.isReverse)
        (flatten inner.current fuel entries).forM fun entry => do
          match ← object fuel isNamed inner definition entry with
          | none => return ()
          | some object =>
            if isReversed then add isNamed object predicate subject else add isNamed subject predicate object

/-- The object that a value stands for, if it stands for one. -/
def object : Nat → Bool → Scope → Option Definition → Entry → Reading (Option Term)
  | 0, _, _, _, _ => fail
  | fuel + 1, isNamed, scope, definition, entry => do
    let context := scope.current
    match entry.language, entry.value with
    | some _, .null => return none
    | some language, value => spokenLiteral value language
    | none, .map entries =>
      let members := (members? (.map entries)).getD []
      match (context.member? members "@list") with
      | some .null | none => described fuel isNamed scope members
      | some items => return some (← listOf fuel isNamed scope definition (asList items))
    | none, value =>
      match ← expansionOf context definition value with
      | .nothing => return none
      | .double => literalOf value none none
      | .literal (.text language) => literalOf value (some language) none
      | .literal .null => literalOf value none none
      | .literal _ => fail
      | .mapping value => described fuel isNamed scope ((members? value).getD [])

/-- The object that a mapping describes: a literal if it gives a value, or a thing. -/
def described : Nat → Bool → Scope → Members → Reading (Option Term)
  | 0, _, _, _ => fail
  | fuel + 1, isNamed, scope, members => do
    match ← valueOf scope.current members with
    | some literal => return literal
    | none => thing fuel isNamed scope false (.map (members.map fun (name, value) => (.text name, value)))

/-- The list of the objects that some values stand for. -/
def listOf : Nat → Bool → Scope → Option Definition → List Value → Reading Term
  | 0, _, _, _, _ => fail
  | fuel + 1, isNamed, scope, definition, items => do
    let first ← newBlank
    let (node, next) ← items.foldlM
      (fun (node, next) item => do
        if item matches .null then return (node, next)
        let current ← match next with
          | none => pure node
          | some next => do
            add isNamed node (.iri (Vocabulary.rdf "rest")) next
            pure next
        match ← object fuel isNamed scope definition { value := item } with
        | none => return (current, next)
        | some object =>
          add isNamed current (.iri (Vocabulary.rdf "first")) object
          return (current, some (← newBlank)))
      (first, none)
    match next with
    | some _ =>
      add isNamed node (.iri (Vocabulary.rdf "rest")) (.iri (Vocabulary.rdf "nil"))
      return first
    | none => return .iri (Vocabulary.rdf "nil")

end

mutual

/-- How much a value weighs by what stands inside what: a thing in a thing three times as much as a list in a
list. -/
def weight : Value → Nat
  | .list items => weights items + 1
  | .map entries => weightsOfEntries entries + 3
  | _ => 0

/-- The weight of the heaviest of some values. -/
def weights : List Value → Nat
  | [] => 0
  | value :: rest => max (weight value) (weights rest)

/-- The weight of the heaviest value among some entries. -/
def weightsOfEntries : List (Value × Value) → Nat
  | [] => 0
  | (_, value) :: rest => max (weight value) (weightsOfEntries rest)

end

/-- The weight of the heaviest document that is read. -/
def heaviest : Nat := 965

/-- Adds what a document says. -/
def document (fuel : Nat) (value : Value) : Reading Unit := do
  match value with
  | .list items => items.forM fun item => do
    let _ ← thing fuel false ⟨{}, []⟩ false item
  | .map entries =>
    match ((members? (.map entries)).bind (·.lookup "@context")).filter Value.truth with
    | some source =>
      let context ← require ((Context.load {} source).filter (·.hasPlainPrefixes))
      let _ ← thing fuel false ⟨context, []⟩ true value
    | none =>
      let _ ← thing fuel false ⟨{}, []⟩ false value
  | _ => fail

/-- The statements of a document. -/
def statements? (text : List Char) : Option (List Statement) :=
  match Json.parse text with
  | .error _ => none
  | .ok value =>
    if heaviest < weight value then none
    else ((document (8 * text.length + 64) value).run {}).map fun (_, draft) => draft.statements.reverse

end Sparql.Graph.JsonLd
