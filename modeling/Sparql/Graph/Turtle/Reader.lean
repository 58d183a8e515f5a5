import Sparql.Graph.Turtle.Reading
import Sparql.Text.Basic

/-!
# Reading Turtle, TriG and N3

The three notations share their statements. TriG adds blocks that name the graph of their statements; N3
adds properties in the other direction, equality, implication, variables and formulas. A document is read
only if all of it can be read.
-/

/-!
## Directives of Turtle, TriG and N3

Prefixes and bases, which Turtle also writes without a mark, and the directives of N3: the list of keywords,
and symbols that stand for variables or for unknown things.
-/

namespace Sparql.Graph.Turtle

open Sparql.Text

namespace Reading

/-- The end of a statement: a point, or the bracket that closes what the statement is in. -/
def endStatement : Reading Unit := do
  let c ← next
  if c = '.' then skip 1 else ensure (c = '\x7d' || c = ']')

/-- Declares a prefix; what follows the colon of its name counts for nothing. -/
def declarePrefix : Reading Unit := do
  let (mark, _) ← require (← qualifiedName?)
  let space ← require (← resource?)
  let space ← resolve space.plainText.toList
  ensure (space.contains ':')
  modify fun state => { state with namespaces := (mark, String.ofList space) :: state.namespaces }

/-- Sets the base. -/
def declareBase : Reading Unit := do
  let base ← require (← resource?)
  let base ← resolve base.plainText.toList
  ensure (base.contains ':')
  modify fun state => { state with base }

/-- A directive that needs no point at its end, if one is here. -/
def plainDirective : Reading Bool := do
  if ← goTo? (behindAnyCase? "prefix" (← rest)) then
    declarePrefix
    return true
  if ← goTo? (behindAnyCase? "base" (← rest)) then
    declareBase
    return true
  return false

/-- The rest of a list with commas between its items, after those in reverse. A point follows it, unless the
document ends. -/
def listFrom {α : Type} (item? : Reading (Option α)) : Nat → List α → Reading (List α)
  | 0, _ => fail
  | fuel + 1, items => do
    let _ ← next?
    let items := (← require (← item?)) :: items
    match ← next? with
    | some ',' =>
      skip 1
      listFrom item? fuel items
    | some '.' => return items.reverse
    | _ => fail

/-- A list with commas between its items, which may be empty. -/
def commaList {α : Type} (item? : Reading (Option α)) : Reading (List α) := do
  if (← next) = '.' then return []
  listFrom item? ((← rest).length + 1) []

/-- A directive of N3, if one is here. -/
def logicDirective : Reading Bool := do
  if ← keyword "keywords" then
    ensure (← read).isLogic
    let words ← commaList bareWord?
    modify fun state => { state with keywords := some words }
    return true
  if ← keyword "forAll" then
    ensure (← read).isLogic
    (← commaList resource?).forM declareUniversal
    return true
  if ← keyword "forSome" then
    ensure (← read).isLogic
    (← commaList resource?).forM declareExistential
    return true
  return false

/-- A directive with an at sign, if one is here. -/
def markedDirective : Reading Bool := do
  if ← keyword "bind" then fail
  if ← logicDirective then return true
  if ← goTo? (behindPrefixMark? (← isKeyword "prefix") (← rest)) then
    declarePrefix
    return true
  if ← keyword "base" then
    declareBase
    return true
  return false

/-! ## Nodes -/

mutual

/-- A node, and the nodes that a path leads to from it. -/
def item? : Nat → Reading (Option Term)
  | 0 => fail
  | fuel + 1 => do
    match ← node? fuel none with
    | some term => return some (← path fuel term)
    | none =>
      match ← literal? with
      | some term => return some (← path fuel term)
      | none => return none

/-- The node at the end of a path, whose steps stand close behind each other. -/
def path : Nat → Term → Reading Term
  | 0, _ => fail
  | fuel + 1, start => do
    match ← rest with
    | [] => fail
    | c :: _ =>
      if c = '!' || c = '^' then
        skip 1
        let target ← newBlank
        let property ← require (← node? fuel none)
        if c = '!' then add start property target else add target property start
        path fuel target
      else return start

/-- The properties of a thing in brackets, whose opening one has been read. In N3 an equals sign may stand
first, behind which the thing has one name or several. -/
def described : Nat → Option Term → Reading Term
  | 0, _ => fail
  | fuel + 1, subject => do
    let subject ←
      if (← next) = '=' then do
        ensure (← read).isLogic
        skip 1
        let names ← objects fuel []
        let first ← require names.head?
        if 1 < names.length then addAll first ⟨.iri sameAs, true⟩ names
        if (← next) = ';' then skip 1
        pure first
      else match subject with
        | some subject => pure subject
        | none => newBlank
    properties fuel subject
    ensure ((← next) = ']')
    skip 1
    return subject

/-- A node: one in brackets, a formula, a list, a truth value, or a resource unless the node already has a
name. -/
def node? : Nat → Option Term → Reading (Option Term)
  | 0, _ => fail
  | fuel + 1, subject => do
    match ← next? with
    | none => return none
    | some c =>
      if c = '[' then
        skip 1
        return some (← nested 8 (described fuel subject))
      else if c = '\x7b' && (← read).isLogic then
        skip 1
        ensure (subject.isNone && !(← begins "$"))
        return some (← nested 8 (formula fuel))
      else if c = '(' then
        skip 1
        ensure (!(← begins "$"))
        return some (← listOf (← nested 4 (listItems fuel [])))
      else
        if ← keyword "this" then fail
        if ← keyword "true" then return some (← literal "true".toList none (some (Vocabulary.xsd "boolean")))
        if ← keyword "false" then return some (← literal "false".toList none (some (Vocabulary.xsd "boolean")))
        if subject.isSome then return none else resource?

/-- A formula, whose opening bracket has been read. The document does not state what is inside. -/
def formula : Nat → Reading Term
  | 0 => fail
  | fuel + 1 => do
    let quads := (← get).quads
    sentences fuel
    modify fun state => { state with quads }
    newBlank

/-- The sentences of a formula up to its closing bracket. -/
def sentences : Nat → Reading Unit
  | 0 => fail
  | fuel + 1 => do
    if (← next) = '\x7d' then skip 1
    else
      sentence fuel
      sentences fuel

/-- The items of a list up to its closing bracket, after those in reverse. -/
def listItems : Nat → List Term → Reading (List Term)
  | 0, _ => fail
  | fuel + 1, items => do
    if (← next) = ')' then
      skip 1
      return items.reverse
    else
      let item ← require (← item? fuel)
      listItems fuel (item :: items)

/-- A verb, if one begins here. -/
def verb? : Nat → Reading (Option Verb)
  | 0 => fail
  | fuel + 1 => do
    if (← next?).isNone then return none
    if ← keyword "has" then
      ensure (← read).isLogic
      return some ⟨← require (← item? fuel), true⟩
    if ← keyword "is" then
      ensure (← read).isLogic
      let predicate ← require (← item? fuel)
      let _ ← next
      ensure (← keyword "of")
      return some ⟨predicate, false⟩
    if ← keyword "a" then return some ⟨.iri Vocabulary.rdfType, true⟩
    match ← logicVerb? with
    | some verb => return some verb
    | none =>
      match ← item? fuel with
      | some predicate => return some ⟨predicate, true⟩
      | none =>
        ensure (!(← begins ">-") && !(← begins "<-"))
        return none

/-- The objects of a verb, after those in reverse. -/
def objects : Nat → List Term → Reading (List Term)
  | 0, _ => fail
  | fuel + 1, before => do
    let object ← require (← item? fuel)
    if (← next) = ',' then
      skip 1
      objects fuel (object :: before)
    else return (object :: before).reverse

/-- The properties of a subject, which may be none. -/
def properties : Nat → Term → Reading Unit
  | 0, _ => fail
  | fuel + 1, subject => do
    if (← next) = ';' then
      skip 1
      properties fuel subject
    else if ← mark ":-" then
      ensure (← read).isLogic
      let _ ← require (← node? fuel (some subject))
      properties fuel subject
    else
      match ← verb? fuel with
      | none => return ()
      | some verb =>
        addAll subject verb (← objects fuel [])
        if (← next) = ';' then properties fuel subject

/-- A directive or a statement. -/
def sentence : Nat → Reading Unit
  | 0 => fail
  | fuel + 1 => do
    if !(← read).isLogic then
      if ← plainDirective then return
    if ← markedDirective then endStatement
    else
      let subject ← require (← item? fuel)
      properties fuel subject
      endStatement

end

/-- How many steps reading can take at most. -/
def bound : Reading Nat := return 8 * (← rest).length + 8

/-- The name of a graph: a resource, or a blank node without a label. -/
def graphName? : Reading (Option Term) := do
  let _ ← next?
  match ← resource? with
  | some name => return some name
  | none =>
    let start ← rest
    if start.head? = some '[' then
      skip 1
      if (← next) = ']' then
        skip 1
        return some (← newBlank)
      goTo start
    return none

/-- The beginning of a block, if one is here. An equals sign may stand before its bracket. -/
def openBlock : Reading Bool := do
  let start ← get
  let isMarked ← goTo? (behindAnyCase? "graph" start.rest)
  let name ← graphName?
  ensure (!isMarked || name.isSome)
  if (← next) = '=' then
    skip 1
    let _ ← next
  if ← mark "\x7b" then
    ensure start.block.isNone
    modify fun state => { state with block := some name }
    return true
  else
    set start
    return false

/-- The end of a block, if one is open and ends here. -/
def closeBlock : Reading Bool := do
  if (← get).block.isSome then
    if ← mark "\x7d" then
      modify fun state => { state with block := none }
      return true
  return false

/-- The rest of a document. -/
def document : Nat → Reading Unit
  | 0 => fail
  | fuel + 1 => do
    if (← next?).isNone then ensure (← get).block.isNone
    else
      if !(← closeBlock) then
        if (← read).hasGraphs then
          if !(← openBlock) then sentence (← bound)
        else sentence (← bound)
      document fuel

end Reading

/-- The quads of a document in a notation. -/
def quads? (rules : Notation) (text : List Char) : Option (List Quad) :=
  let text := unifyLines text
  ((Reading.document (text.length + 1)).run rules |>.run { rest := text }).map fun (_, state) => state.quads.reverse

end Sparql.Graph.Turtle
