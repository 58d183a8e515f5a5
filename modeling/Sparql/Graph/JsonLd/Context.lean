import Sparql.Iri
import Sparql.Text.Letter
import Sparql.Value.Equality

/-!
# Contexts of JSON-LD

A context says what the names of a document stand for. Contexts nest: one that belongs to a term or to a
type counts inside of what it stands beside, and what is outside of it is still known.
-/

/-!
## References in JSON-LD

A reference that is no IRI stands for one next to a base. Steps and empty segments in the path of the result
are removed.
-/

namespace Sparql.Graph.JsonLd

/-- The slashes at the beginning of a path, of which two count as two and more as one. -/
def leadingSlashes (path : List Char) : List Char :=
  match path with
  | '/' :: '/' :: '/' :: _ => ['/']
  | '/' :: '/' :: _ => ['/', '/']
  | '/' :: _ => ['/']
  | _ => []

/-- A path without steps and without empty segments. -/
def normalPath (path : List Char) : List Char :=
  let slashes := leadingSlashes path
  let walked := (path.splitOn '/').foldl
    (fun walked segment =>
      if segment.isEmpty || segment = ['.'] then walked
      else if segment ≠ ['.', '.'] then walked ++ [segment]
      else if walked.isEmpty then (if slashes.isEmpty then [segment] else walked)
      else if walked.getLast? = some ['.', '.'] then walked ++ [segment]
      else walked.dropLast)
    []
  let joined := slashes ++ ['/'].intercalate walked
  if joined.isEmpty then ['.']
  else if path.getLast? = some '/' && joined.getLast? ≠ some '/' then joined ++ ['/']
  else joined

/-- A path put behind the first segment of a name: a path of its own below that segment. -/
def joinName? (base reference : Iri.Reference) : Option (List Char) := do
  let space := base.path.takeWhile (· ≠ '/')
  let below := base.path.drop space.length
  let joined ← Iri.Reference.resolve? (if below.isEmpty then ['/'] else below) reference.path
  return base.scheme ++ ':' :: space ++ joined ++ Iri.Reference.marked '#' reference.fragment

/-- A reference put behind a base with a hierarchy. -/
def joinBase? (base text : List Char) : Option (List Char) := do
  let parts ← Iri.Reference.ofText? [] (← Iri.Reference.resolve? base text)
  return { parts with path := normalPath parts.path }.toText

/-- The IRI that a reference stands for next to a base. One with a scheme stands for itself. -/
def resolveReference? (base : List Char) (reference : String) : Option String :=
  let text := reference.toList
  if (reference.splitOn "://").length ≠ 1 then some reference
  else do
    let outer ← Iri.Reference.ofText? [] base
    let inner ← Iri.Reference.ofText? [] text
    if !inner.scheme.isEmpty then return reference
    let isName := outer.scheme = "urn".toList || outer.scheme = "urn-x".toList
    let result ← if isName then joinName? outer inner else joinBase? base text
    return String.ofList (if text.getLast? = some '#' && result.getLast? ≠ some '#' then result ++ ['#'] else result)

/-! ## Names and their contexts -/

/-- The names that every document knows. -/
def keywords : List String := [
  "@graph", "@id", "@included", "@json", "@language", "@list", "@nest", "@none", "@reverse", "@set", "@type",
  "@value"]

/-- The members of a mapping by their names. -/
abbrev Members := List (String × Value)

/-- The members of a value that is a mapping. -/
def members? : Value → Option Members
  | .map entries => some (entries.map fun (name, value) => (name.text?.getD "", value))
  | _ => none

/-- The items of a list; any other value is a list of itself. -/
def asList : Value → List Value
  | .list items => items
  | value => [value]

/-- Whether a value is a list or a mapping. -/
def isNested : Value → Bool
  | .list _ | .map _ => true
  | _ => false

/-- The IRI of a term. -/
inductive Target where
  | iri (value : String)
  /-- It is said to have none. -/
  | nothing
  /-- Nothing is said about it. -/
  | unsaid
deriving DecidableEq, Repr, Inhabited

/-- The IRI, if there is one. -/
def Target.iri? : Target → Option String
  | iri value => some value
  | _ => none

/-- What a term stands for. -/
structure Definition where
  target : Target := .nothing
  /-- The type of values that give none themselves. -/
  valueType : Option String := none
  /-- What kinds of collections its values are. -/
  containers : List String := []
  /-- The property under which the keys of a collection are kept. -/
  index : Option Value := none
  /-- The language of texts that give none themselves, which may be null. -/
  language : Option Value := none
  isReverse : Bool := false
  /-- The context that counts inside. -/
  context : Option Value := none
  /-- Whether the term can begin other names. -/
  isPrefix : Bool := false
  isProtected : Bool := false
deriving Inhabited

/-- The rules by which a context is read. -/
inductive Version where
  | current
  /-- Those before terms could have contexts. -/
  | earlier
  /-- Those before terms could have contexts, but not for contexts inside. -/
  | earlierHere
deriving DecidableEq, Repr

/-- What the names of a document stand for. -/
structure Context where
  version : Version := .current
  /-- The language of texts, which may be null. -/
  language : Value := .null
  /-- The beginning of names without a colon. -/
  vocabulary : Value := .null
  base : List Char := Iri.localBase
  terms : List (String × Definition) := []
  /-- Keywords with the names that have been given to them, in the order in which that was done. -/
  aliases : List (String × String) := []
  /-- Whether the context counts for nested things. -/
  propagates : Bool := true

/-- A context inside others, innermost first. -/
structure Scope where
  current : Context
  outer : List Context := []

/-! ## Names -/

/-- A text cut at its first colon, unless two slashes follow it. -/
def splitName (name : String) : Option (String × String) :=
  match name.toList.dropWhile (· ≠ ':') with
  | [] => none
  | _ :: '/' :: '/' :: _ => none
  | _ :: own => some (String.ofList (name.toList.takeWhile (· ≠ ':')), String.ofList own)

/-- Whether a text ends in a mark that separates the parts of IRIs. -/
def endsInMark (iri : String) : Bool := iri.toList.getLast?.any ":/?#[]@".toList.contains

namespace Context

/-- Whether the context follows the current rules. -/
def isCurrent (context : Context) : Bool := context.version = .current

/-- Whether a name can be used: one with an at sign before letters or digits must be a keyword. -/
def isUsable (context : Context) (name : String) : Bool :=
  match name.toList with
  | '@' :: c :: _ =>
    !context.isCurrent || !(Text.isLetter c || Text.isMark c) || keywords.contains name
  | _ => true

/-- The definition of a term. -/
def find? (context : Context) (name : String) : Option Definition := context.terms.lookup name

/-- The names that mean a keyword, besides itself. -/
def namesOf (context : Context) (keyword : String) : List String :=
  (context.aliases.filter (·.1 == keyword)).map (·.2)

/-- Whether a name means a keyword. -/
def means (context : Context) (name keyword : String) : Bool :=
  name = keyword || (context.namesOf keyword).contains name

/-- Whether a name is a keyword or a term that stands for it. -/
def standsFor (context : Context) (name keyword : String) : Bool :=
  name = keyword || (context.find? name).any (·.target = .iri keyword)

/-- The member of a mapping under a keyword or under another name for it. -/
def member? (context : Context) (members : Members) (keyword : String) : Option Value :=
  ((context.namesOf keyword).findSome? fun name => members.lookup name).or (members.lookup keyword)

/-- Whether a mapping has a member under a keyword or under the first other name for it. -/
def hasMember (context : Context) (members : Members) (keyword : String) : Bool :=
  (members.lookup keyword).isSome || (context.namesOf keyword).head?.any fun name => (members.lookup name).isSome

/-- Whether a text is the vocabulary. -/
def isVocabulary (context : Context) (name : String) : Bool :=
  match context.vocabulary with
  | .text vocabulary => vocabulary = name
  | _ => false

/-- A name behind the vocabulary, if there is one. It has to be a text. -/
def inVocabulary? (context : Context) (name : String) : Option (Option String) :=
  match context.vocabulary with
  | .text "" => some none
  | .text vocabulary => some (some (vocabulary ++ name))
  | vocabulary => if vocabulary.truth then none else some none

/-- The IRI of a reference. -/
def reference? (context : Context) (name : String) : Option String := resolveReference? context.base name

/-- The IRI of a name with a prefix that the context knows. -/
def prefixed? (context : Context) (mark own : String) : Option String :=
  match context.find? mark with
  | some definition =>
    if definition.isPrefix then (definition.target.iri?.filter (· ≠ "")).map (· ++ own) else none
  | none => none

/-- The IRI of a name that is no term: by its prefix, or as a reference. -/
def expandReference? (context : Context) (name : String) : Option String :=
  match splitName name with
  | some ("_", _) => some name
  | some (mark, own) => ((context.prefixed? mark own).map some).getD (context.reference? name)
  | none => context.reference? name

/-- What a name stands for as a property or a type. -/
def expand? (context : Context) (name : String) : Option Target :=
  if !context.isUsable name then some (.iri "")
  else match context.find? name with
    | some definition => some definition.target
    | none =>
      if name.contains ':' then (context.expandReference? name).map Target.iri
      else (context.inVocabulary? name).map fun iri => (iri.map Target.iri).getD .nothing

/-- The IRI that a name stands for as a thing. A name with a space stands for none. -/
def identify? (context : Context) (name : String) : Option String := do
  let expanded ← if context.isUsable name then context.expandReference? name else some ""
  if expanded.startsWith "_:" then return expanded
  else if expanded.contains ' ' then return ""
  else context.reference? expanded

/-! ## Reading definitions -/

/-- What the source of a definition gives for a name, or else what is known of it; false, if a term is known of
which nothing is said. -/
def sourceOf (context : Context) (source : Members) (name : String) : Value :=
  match (source.lookup name).getD .null with
  | .map entries => ((members? (.map entries)).bind (·.lookup "@id")).getD .null
  | .null =>
    match (context.find? name).map (·.target) with
    | some (Target.iri iri) => .text iri
    | some Target.unsaid => .bool false
    | _ => .null
  | given => given

/-- A name in a definition with its prefix replaced until nothing changes. -/
def expandIn (context : Context) (source : Members) : Nat → String → Option String → Option String
  | 0, _, _ => none
  | fuel + 1, name, before => do
    if some name = before || keywords.contains name then return name
    match (splitName name).filter (·.1 ≠ "") with
    | some (mark, own) =>
      match context.sourceOf source mark with
      | .text iri => context.expandIn source fuel (iri ++ own) (some name)
      | .null =>
        if context.isVocabulary (mark ++ ":") then return name
        else match (context.find? mark).map (·.target) with
          | some (Target.iri iri) => context.expandIn source fuel (iri ++ own) (some name)
          | some Target.unsaid => none
          | _ => context.expandIn source fuel name (some name)
      | _ => none
    | none =>
      let own := ((splitName name).map (·.2)).orElse fun _ => if name.contains ':' then none else some name
      let next ← match own.map (context.sourceOf source) with
        | some (.text iri) => some (if iri = "" then name else iri)
        | some given => if given.truth then none else some name
        | none => some name
      if next.contains ':' then context.expandIn source fuel next (some name)
      else match ← context.inVocabulary? next with
        | some iri => return iri
        | none => context.expandIn source fuel next (some name)

/-- How often the names of a definition are replaced at most. -/
def maxReplacements : Nat := 900

/-- A name in a definition with its prefix replaced. -/
def expandName? (context : Context) (source : Members) (name : String) : Option String :=
  context.expandIn source maxReplacements name none

/-- The aliases without those that have a name. -/
def withoutAlias (context : Context) (name : String) : Context :=
  { context with aliases := context.aliases.filter (·.2 ≠ name) }

/-- The context in which a name means a keyword, if its target is one, and else none. -/
def withAlias (context : Context) (name : String) (target : Target) : Context :=
  match target with
  | .iri keyword =>
    if keywords.contains keyword then { context with aliases := context.aliases ++ [(keyword, name)] }
    else context.withoutAlias name
  | _ => context.withoutAlias name

/-- Defines a term, unless its definition is protected. -/
def define (context : Context) (name : String) (definition : Definition) : Context :=
  let isKept := context.isCurrent && (context.find? name).any (·.isProtected)
  let defined :=
    if !context.isUsable name || isKept then context
    else { context with terms := (name, definition) :: context.terms.filter (·.1 ≠ name) }
  defined.withAlias name definition.target

/-- Whether a term can begin other names: as it says, or if its IRI ends in a mark. -/
def beginsNames (context : Context) (target : Target) (said : Option Value) : Bool :=
  match said.getD .null with
  | .null => target.iri?.any endsInMark
  | said => if context.isCurrent then said.truth else target.iri?.any endsInMark

/-- The type of values that a definition gives. -/
def valueType? (context : Context) (source members : Members) : Option (Option String) :=
  match (members.lookup "@type").filter Value.truth with
  | none => some none
  | some (.text name) =>
    if name = "@id" || name = "@type" || name = "@vocab" then some (some name)
    else (context.expandName? source name).map some
  | some _ => none

/-- The target of a definition that names it itself. -/
def target? (context : Context) (source : Members) (given : Value) : Option Target :=
  match given with
  | .null => some .nothing
  | .text name => (context.expandName? source name).map Target.iri
  | _ => none

/-- The target of a term whose definition does not name it. -/
def impliedTarget? (context : Context) (source : Members) (name : String) : Option Target :=
  if name.contains ':' then (context.expandName? source name).map Target.iri
  else (context.inVocabulary? name).map fun iri => (iri.map Target.iri).getD .unsaid

/-- The kinds of collections that a definition names. -/
def containers? (members : Members) : Option (List String) :=
  match members.lookup "@container" with
  | none => some []
  | some (.list items) => if items.any isNested then none else some (items.filterMap Value.text?)
  | some value => if isNested value then none else some value.text?.toList

/-- The definition of a term by a mapping. -/
def definitionOf (context : Context) (source : Members) (name : String) (members : Members)
    (isProtected : Bool) : Option Definition := do
  let valueType ← context.valueType? source members
  let reversed := (members.lookup "@reverse").filter Value.truth
  let given := reversed.or (members.lookup "@id")
  let isType := given.any fun
    | .text "@type" => true
    | _ => false
  let target ←
    if isType then some (.iri Vocabulary.rdfType)
    else match given with
      | some given => context.target? source given
      | none => context.impliedTarget? source name
  let valueType := if isType then some "@vocab" else valueType
  if valueType.isNone && (members.lookup "@language").any isNested then none
  return {
    target
    valueType
    containers := ← containers? members
    index := (members.lookup "@index").filter Value.truth
    language := members.lookup "@language"
    isReverse := reversed.isSome
    context := members.lookup "@context"
    isPrefix := context.beginsNames target (members.lookup "@prefix")
    isProtected := ((members.lookup "@protected").map Value.truth).getD isProtected }

/-- The context with one more term. -/
def readTerm (context : Context) (source : Members) (isProtected : Bool) (name : String) (value : Value) :
    Option Context := do
  match value with
  | .map entries =>
    let definition ← context.definitionOf source name ((members? (.map entries)).getD []) isProtected
    return context.define name definition
  | .text iri =>
    if !context.isUsable iri then return context
    let target := Target.iri (← context.expandName? source iri)
    return context.define name { target, isPrefix := context.beginsNames target none, isProtected }
  | _ => return context.define name { isProtected }

/-- The base with a reference in place of it. -/
def setBase (context : Context) (value : Value) : Option Context :=
  match value with
  | .null => some { context with base := [] }
  | .text reference => do
    let reference := reference.toList.takeWhile (· ≠ '#')
    let _ ← Iri.Reference.ofText? [] reference
    return { context with base := (← context.reference? (String.ofList reference)).toList }
  | _ => none

/-- The context after one member of its source. -/
def readMember (source : Members) (isProtected : Bool) (context : Context) (name : String) (value : Value) :
    Option Context :=
  match name, value with
  | "@vocab", _ | "@version", _ | "@protected", _ => some context
  | "@import", _ => if value.truth then none else some context
  | "@propagate", .bool propagates => some { context with propagates }
  | "@language", language => some { context with language }
  | "@base", _ => context.setBase value
  | _, _ => context.readTerm source isProtected name value

/-- The version that a source names, which has to be a number. -/
def version? : Value → Option Version
  | .int value => some (if value = 0 then .earlierHere else if value < 2 then .earlier else .current)
  | .bool value => some (if value then .earlier else .earlierHere)
  | .float value =>
    let distance := value.add (Double.ofScaled true 11 (-1))
    some (if value.isZero then .earlierHere else if distance.isNegative then .earlier else .current)
  | _ => none

/-- The context after a source. -/
def readSource (context : Context) (source : Members) : Option Context := do
  let isProtected := (source.lookup "@protected").any Value.truth
  let version ← match source.lookup "@version" with
    | some named => version? named
    | none => some context.version
  let vocabulary := (source.lookup "@vocab").getD context.vocabulary
  source.foldlM (fun context (name, value) => context.readMember source isProtected name value)
    { context with version, vocabulary }

/-- The context without anything but its base and its rules. -/
def cleared (context : Context) : Context := { base := context.base, version := context.version }

/-- The sources in a value, with lists and mappings around them opened. What lies elsewhere cannot be
read. -/
def sources? : Nat → Value → Option (List (Option Members))
  | 0, _ => none
  | fuel + 1, value =>
    match value with
    | .null => some [none]
    | .list items => (items.mapM (sources? fuel)).map List.flatten
    | .map entries =>
      let members := (members? (.map entries)).getD []
      match members.lookup "@context" with
      | some inner => sources? fuel inner
      | none => some [some members]
    | _ => none

/-- The context after the sources in a value. -/
def load (context : Context) (value : Value) : Option Context := do
  let sources ← sources? maxReplacements value
  sources.foldlM
    (fun context source =>
      match source with
      | none => some context.cleared
      | some members => context.readSource members)
    context

/-- Whether every term whose IRI can begin others is a single word, as prefixes are. -/
def hasPlainPrefixes (context : Context) : Bool :=
  context.terms.all fun (name, definition) =>
    !(name.contains ' ' && definition.target.iri?.any fun iri => iri.toList.getLast?.any "#/:".toList.contains)

end Context

namespace Scope

/-- The scope around the current context. -/
def parent? (scope : Scope) : Option Scope :=
  match scope.outer with
  | [] => none
  | current :: outer => some ⟨current, outer⟩

/-- The scope that counts for nested things: without a context that counts for its own things only, which
must not be the outermost. -/
def nested? (scope : Scope) : Option Scope := if scope.current.propagates then some scope else scope.parent?

/-- The scope inside a value's context. -/
def inside (scope : Scope) (value : Value) (propagates : Bool) : Option Scope := do
  let version := if scope.current.version = .earlierHere then .current else scope.current.version
  let context ← { scope.current with propagates, version }.load value
  return ⟨context, scope.current :: scope.outer⟩

/-- The scope of a term's values. -/
def forTerm (scope : Scope) (definition : Option Definition) : Option Scope :=
  match definition.bind (·.context) with
  | some value => scope.inside value true
  | none => some scope

/-- The scope of a thing with some types: that of the first type which is a term, if it has a context. -/
def forTypes (scope : Scope) (types : List Value) : Option Scope := do
  let definition := types.findSome? fun type => type.text?.bind scope.current.find?
  let given := (definition.bind (·.context)).filter Value.truth
  match if scope.current.isCurrent then given else none with
  | some value => (← scope.nested?).inside value false
  | none => scope.nested?

end Scope

end Sparql.Graph.JsonLd
