import Sparql.Query.Build

/-!
# Changing clauses

The calls that change clauses which hold no other query. Each gives the new clauses or a failure, so the
clauses of a refused call are never seen.
-/

namespace Sparql

namespace Arguments

/-- The first parameter, by position or by name, and the positions after it. -/
def firstAndRest (arguments : Arguments) (name : String) : Outcome (Value × List Value) :=
  match arguments.positional, arguments.named with
  | first :: rest, [] => .ok (first, rest)
  | [], [(given, value)] => if given = name then .ok (value, []) else misuse .wrongKind
  | _, _ => misuse .wrongKind

/-- The positions of a call that takes no names. -/
def onlyPositions (arguments : Arguments) : Outcome (List Value) :=
  if arguments.named.isEmpty then .ok arguments.positional else misuse .wrongKind

/-- The only parameter. -/
def single (arguments : Arguments) (parameter : Parameter) : Outcome Value := do
  match ← arguments.bind [parameter] with
  | [value] => return value
  | _ => misuse .wrongKind

end Arguments

namespace Clauses

/-- Adds a filter. -/
def addFilter (clauses : Clauses) (expression : Value) : Outcome Clauses := do
  let filters ← filterExpression expression
  return { clauses with filters := clauses.filters ++ filters.map (·.text) }

/-- Sets the inline data. -/
def setValues (clauses : Clauses) (named : Value) (data : List Value) : Outcome Clauses := do
  let block ← valuesBlock named data
  return { clauses with values := some block }

/-- Adds a tagged union. -/
def addBindUnion (clauses : Clauses) (branches : List Value) (optional : Value) : Outcome Clauses := do
  let union ← bindUnionOf branches optional
  return { clauses with bindUnions := clauses.bindUnions ++ [union] }

/-- Sets the order. -/
def setOrder (clauses : Clauses) (entries : List Value) : Outcome Clauses := do
  let orderBy ← conditions entries
  return { clauses with orderBy }

/-- Adds a variable to the order. -/
def addOrder (clauses : Clauses) (direction : String) (value : Value) : Outcome Clauses := do
  let name ← value.asVariable
  return { clauses with orderBy := clauses.orderBy ++ [.variable name (some direction)] }

/-- Sets the grouping. -/
def setGroup (clauses : Clauses) (entries : List Value) : Outcome Clauses := do
  let groupBy ← conditions entries
  return { clauses with groupBy }

/-- Sets the graph that encloses the group. -/
def setGraph (clauses : Clauses) (value : Value) : Outcome Clauses := do
  let graph ← value.asResource
  return { clauses with graph := some graph }

/-- Adds graphs to read. -/
def addFromGraphs (clauses : Clauses) (values : List Value) : Outcome Clauses := do
  if values.isEmpty then refuse .noFromGraphs
  let graphs ← values.mapM Value.asIri
  return { clauses with fromGraphs := clauses.fromGraphs ++ graphs.map .iri }

/-- Sets how many solutions are passed over, unless nothing is given. -/
def setOffset (clauses : Clauses) (value : Value) : Outcome Clauses :=
  match value with
  | .null => .ok clauses
  | _ => (boundOf "OFFSET" value).map fun offset => { clauses with offset := some offset }

/-- Sets how many solutions are given at most, unless nothing is given. -/
def setLimit (clauses : Clauses) (value : Value) : Outcome Clauses :=
  match value with
  | .null => .ok clauses
  | _ => (boundOf "LIMIT" value).map fun limit => { clauses with limit := some limit }

/-- Adds a declaration. -/
def addDeclaration (clauses : Clauses) (declaration : String) : Clauses :=
  { clauses with prologue := clauses.prologue ++ [declaration] }

/-- The flag of a call, which is set unless the call says otherwise. -/
def flag (arguments : Arguments) : Outcome Bool :=
  (arguments.single ⟨"state", some (.bool true)⟩).map Value.truth

/-- The change that a named call makes. -/
def change? (name : String) (arguments : Arguments) : Option (Clauses → Outcome Clauses) :=
  match name with
  | "filter" => some fun clauses => do clauses.addFilter (← arguments.single ⟨"expression", none⟩)
  | "values" => some fun clauses => do
    let (named, data) ← arguments.firstAndRest "variables"
    clauses.setValues named data
  | "union_with_bind" => some fun clauses => do
    match ← arguments.options [⟨"optional", some (.bool false)⟩] with
    | [optional] => clauses.addBindUnion arguments.positional optional
    | _ => misuse .wrongKind
  | "order" | "order_by" => some fun clauses => do clauses.setOrder (← arguments.onlyPositions)
  | "asc" => some fun clauses => do clauses.addOrder "asc" (← arguments.single ⟨"variable", none⟩)
  | "desc" => some fun clauses => do clauses.addOrder "desc" (← arguments.single ⟨"variable", none⟩)
  | "group" | "group_by" => some fun clauses => do clauses.setGroup (← arguments.onlyPositions)
  | "distinct" => some fun clauses => (flag arguments).map fun distinct => { clauses with distinct }
  | "reduced" => some fun clauses => (flag arguments).map fun reduced => { clauses with reduced }
  | "graph" => some fun clauses => do clauses.setGraph (← arguments.single ⟨"graph_iri_or_var", none⟩)
  | "from_" => some fun clauses => do clauses.addFromGraphs (← arguments.onlyPositions)
  | "offset" => some fun clauses => do clauses.setOffset (← arguments.single ⟨"start", none⟩)
  | "limit" => some fun clauses => do clauses.setLimit (← arguments.single ⟨"length", none⟩)
  | _ => none

end Clauses

namespace OptionalGroup

/-- Adds patterns. -/
def addPatterns (group : OptionalGroup) (values : List Value) : Outcome OptionalGroup := do
  let patterns ← Value.asPatterns values
  return { group with patterns := group.patterns ++ patterns }

/-- Adds a filter. -/
def addFilter (group : OptionalGroup) (expression : Value) : Outcome OptionalGroup := do
  let filters ← filterExpression expression
  return { group with filters := group.filters ++ filters }

/-- The change that a named call makes. -/
def change? (name : String) (arguments : Arguments) : Option (OptionalGroup → Outcome OptionalGroup) :=
  match name with
  | "where" => some fun group => do group.addPatterns (← arguments.onlyPositions)
  | "filter" => some fun group => do group.addFilter (← arguments.single ⟨"expression", none⟩)
  | _ => none

/-- An optional part as messages show it. -/
def display (group : OptionalGroup) : String :=
  let shown : FilterExpression → Value
    | .written given => .text given
    | .term given => .term given
  "OptionalGroup(patterns=" ++ (Value.list (group.patterns.map .pattern)).display
    ++ ", filters=" ++ (Value.list (group.filters.map shown)).display ++ ")"

end OptionalGroup

end Sparql
