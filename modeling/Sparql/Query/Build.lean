import Sparql.Query.Basic
import Sparql.Term.Coercion
import Sparql.Text.Basic
import Sparql.Value.Equality
import Sparql.Value.Signature

/-!
# Building clauses

How the arguments of a call become clauses. Every argument is checked before a clause is changed, so a
refused call leaves the clauses as they were.
-/

namespace Sparql

open Sparql.Text

/-- A filter expression. Nothing at all and a blank text add no filter. -/
def filterExpression (value : Value) : Outcome (List FilterExpression) :=
  let unlessBlank (expression : FilterExpression) : List FilterExpression :=
    if isAllBlank expression.text.toList then [] else [expression]
  match value with
  | .null => .ok []
  | .text text => .ok (unlessBlank (.written text))
  | .term term => .ok (unlessBlank (.term term))
  | _ => refuse (.filterNotText value)

/-- The direction that a value names. -/
def directionOf (value : Value) : Outcome String :=
  match value with
  | .text direction => if directions.contains direction then .ok direction else refuse (.badDirection value)
  | _ => refuse (.badDirection value)

/-- The condition of a variable and a direction. -/
def directedCondition (key direction : Value) : Outcome OrderCondition := do
  let name ← key.asVariable
  let direction ← directionOf direction
  return .variable name (some direction)

/-- The condition of an entry of a mapping. -/
def mappedCondition (entry : Value × Value) : Outcome OrderCondition :=
  if entry.1.isVariable then directedCondition entry.1 entry.2 else refuse (.keyNotVariable entry.1)

/-- The conditions of one argument of an order or a grouping. -/
def conditionsOf (entry : Value) : Outcome (List OrderCondition) :=
  match entry.entries? with
  | some entries => entries.mapM mappedCondition
  | none =>
    match entry.items? with
    | some [key, direction] =>
      if key.isVariable then (directedCondition key direction).map ([·])
      else refuse (.pairNotVariable key)
    | some _ => refuse (.notOrderPair entry)
    | none =>
      if entry.isVariable then entry.asVariable.map fun name => [.variable name none]
      else match entry with
        | .text expression =>
          if isAllBlank expression.toList then refuse (.badOrderEntry entry)
          else .ok [.expression (trimmed expression)]
        | _ => refuse (.badOrderEntry entry)

/-- The conditions of the arguments in order. -/
def conditions (entries : List Value) : Outcome (List OrderCondition) :=
  (entries.mapM conditionsOf).map List.flatten

/-- The integer that a value stands for: itself, the whole part of a number, or the one a text writes. -/
def integerOf (clause : String) (value : Value) : Outcome Int :=
  let orRefuse : Option Int → Outcome Int
    | some number => .ok number
    | none => refuse (.notInteger clause value)
  match value with
  | .int number => .ok number
  | .float number => if number.isInfinite then misuse .overflow else orRefuse number.truncate?
  | .decimal (.infinite _) => misuse .overflow
  | .decimal number => orRefuse number.truncate?
  | _ => orRefuse (value.numeral?.bind Number.integer?)

/-- The bound that a value stands for, which must not be negative. -/
def boundOf (clause : String) (value : Value) : Outcome Int := do
  let number ← integerOf clause value
  if number < 0 then refuse (.negative clause number) else return number

/-- A cell of inline data: a term but no variable, a text, or nothing. -/
def cellOf (value : Value) : Outcome (Option Term) :=
  match value with
  | .null => .ok none
  | .term (.variable _) => refuse (.variableCell value)
  | .term term => .ok (some term)
  | .text text => .ok (some (.literal (.plain text)))
  | _ => refuse (.badCell value)

/-- A row of inline data with a given number of cells. -/
def rowOf (width : Nat) (value : Value) : Outcome (List (Option Term)) :=
  match value.items? with
  | none => refuse (.notValuesRow value)
  | some cells =>
    if cells.length ≠ width then refuse (.valuesRowLength cells width) else cells.mapM cellOf

/-- Rows of one cell each. Either all of the data are rows or none is. -/
def singleColumn (data : List Value) : Outcome (List Value) :=
  let isRow (value : Value) : Bool := value.items?.isSome
  if data.any isRow && !data.all isRow then refuse .mixedValuesRows
  else .ok (data.map fun value => if isRow value then value else .list [value])

/-- Inline data of one variable or a list of them. -/
def valuesBlock (named : Value) (data : List Value) : Outcome ValuesBlock := do
  let names := named.items?.getD [named]
  if names.isEmpty then refuse .noValuesVariables
  let names ← names.mapM Value.asVariable
  let data ← if names.length = 1 then singleColumn data else .ok data
  let rows ← data.mapM (rowOf names.length)
  return ⟨names, rows⟩

/-- Associations with one more: an equal name keeps its place and takes the new value. -/
def associate {α : Type} (name : String) (value : α) : List (String × α) → List (String × α)
  | [] => [(name, value)]
  | (n, v) :: rest => if n = name then (n, value) :: rest else (n, v) :: associate name value rest

/-- The variables and values of a mapping in order, with the values read by `read`. -/
def associations {α : Type} (read : Value → Outcome α) (entries : List (Value × Value)) :
    Outcome (List (String × α)) := do
  let pairs ← entries.mapM fun (key, value) => do
    let name ← key.asVariable
    let value ← read value
    return (name, value)
  return pairs.foldl (fun sum (name, value) => associate name value sum) []

/-- The IRIs of a collection. -/
def iriCollection (value : Value) : Outcome (List String) :=
  match value.elements? with
  | some values => values.mapM Value.asIri
  | none => misuse .wrongKind

/-- The mapping that a value is; what counts as nothing is the empty one. -/
def mappingOrNothing (value : Value) : Outcome (List (Value × Value)) :=
  if value.truth then
    match value.entries? with
    | some entries => .ok entries
    | none => refuse .bindsNotMappings
  else .ok []

/-- A branch of a tagged union: the branch itself, or patterns, bindings and tests. -/
def bindBranchOf (value : Value) : Outcome BindBranch :=
  match value with
  | .branch branch => .ok branch
  | _ =>
    match value.items? with
    | some [patterns, binds, filters] => do
      let binds ← mappingOrNothing binds
      let filters ← mappingOrNothing filters
      let patterns ← patterns.elementPatterns
      let binds ← associations Value.spell binds
      let filters ← associations iriCollection filters
      return ⟨patterns, binds, filters⟩
    | _ => refuse (.notBindBranch value)

/-- A tagged union of the given branches. -/
def bindUnionOf (branches : List Value) (optional : Value) : Outcome BindUnion := do
  if branches.isEmpty then refuse .noBindBranches
  let branches ← branches.mapM bindBranchOf
  return ⟨branches, optional.truth⟩

/-- What a key of a count mapping names. -/
def countTargetOf (key : Value) : Outcome CountTarget :=
  match key with
  | .text "*" => .ok .solutions
  | _ => key.asVariable.map .variable

/-- The counts of a mapping from targets to aliases; what counts as nothing has none. -/
def countsOf (value : Value) : Outcome (List (CountTarget × String)) :=
  if value.truth then
    match value.entries? with
    | some entries => entries.mapM fun (key, given) => do
      let target ← countTargetOf key
      let name ← given.asVariable
      return (target, name)
    | none => misuse .noSuchOperation
  else .ok []

/-- The form that a value names. -/
def formOf (value : Value) : Outcome Form :=
  match value with
  | .text name =>
    match Form.ofName? name with
    | some form => .ok form
    | none => refuse (.unknownForm value)
  | _ => refuse (.unknownForm value)

/-- A resource to describe: an IRI as it is, anything else a variable. -/
def describedOf (value : Value) : Outcome Term :=
  match value with
  | .term (.iri iri) => .ok (.iri iri)
  | _ => value.asVariable.map .variable

/-- The declaration of one name. -/
def declaration (name value : Value) : Outcome String := do
  let name ← name.spell
  let value ← value.spell
  return name ++ ": <" ++ value ++ ">"

/-- The declaration that a call gives as a text, if it does, and the names that it declares: those of a mapping
and of named arguments. -/
def declaredBy (value : Value) (named : List (String × Value)) :
    Outcome (Option String × List (Value × Value)) :=
  let named := named.map fun (name, value) => (Value.text name, value)
  match value with
  | .null => if named.isEmpty then refuse .emptyPrologue else .ok (none, named)
  | .map entries => .ok (none, named.foldl (fun sum (name, value) => Value.insertEntry name value sum) entries)
  | _ =>
    match value.text? with
    | some written => .ok (some written, named)
    | none => refuse (.badPrologue value)

/-! ## Queries as they are made -/

namespace Clauses

/-- A selection of variables and counts. -/
def select (named : List Value) (count : Value) : Outcome Clauses := do
  let names ← named.mapM Value.asVariable
  let counts ← countsOf count
  return { form := .select, projection := names.map .variable, counts }

/-- A description of resources. -/
def describe (resources : List Value) : Outcome Clauses := do
  let projection ← resources.mapM describedOf
  return { form := .describe, projection }

/-- A construction from a template. -/
def construct (patterns : List Value) : Outcome Clauses := do
  if patterns.isEmpty then refuse .emptyTemplate
  let template ← Value.asPatterns patterns
  return { form := .construct, template }

end Clauses

end Sparql
