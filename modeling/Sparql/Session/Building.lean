import Sparql.Query.Change
import Sparql.Session.Store

/-!
# Building queries in a session

The calls that make queries and that make one query part of another. A call with a block hands the block
the query or the optional part that it is about.
-/

namespace Sparql.Session

/-- What a call with a block does to the object it is handed. -/
abbrev Block := ObjectRef → Session Unit

/-- The number of a query that stands as an argument. -/
def queryIndex? : Value → Option Nat
  | .object (.query index) _ => some index
  | _ => none

/-- The block of a call. One given by name as a value can only be nothing. -/
def blockOf (block : Option Block) (named : Value) : Option Block :=
  match block, named with
  | some block, _ => some block
  | none, .null => none
  | none, _ => some fun _ => fault .wrongKind

/-- The values of the parameters that only a name can give. -/
def options (arguments : Arguments) (parameters : List Parameter) : Session (List Value) :=
  ofOutcome (arguments.options parameters)

/-- The parameter that a block may be given by. -/
def blockParameter : Parameter := ⟨"block", some .null⟩

/-! ## New queries -/

/-- A selection of everything. -/
def selectAll : QueryRecord := { clauses := { form := .select } }

/-- A query of a named form, as a constructor makes it. -/
def newQuery (arguments : Arguments) : Outcome QueryRecord := do
  match ← arguments.bind [⟨"form", some (.text "ask")⟩, ⟨"client", some .null⟩] with
  | [form, binding] =>
    let form ← formOf form
    return { clauses := { form }, binding }
  | _ => misuse .wrongKind

/-- The query that a constructor makes. -/
def construct? (name : String) (arguments : Arguments) : Option (Outcome QueryRecord) :=
  let client : Parameter := ⟨"client", some .null⟩
  let count : Parameter := ⟨"count", some .null⟩
  match name with
  | "new" => some (newQuery arguments)
  | "ask" => some do
    let binding ← arguments.single client
    return { clauses := { form := .ask }, binding }
  | "select" => some do
    match ← arguments.options [count, client] with
    | [count, binding] => return { clauses := ← Clauses.select arguments.positional count, binding }
    | _ => misuse .wrongKind
  | "describe" => some do
    match ← arguments.options [client] with
    | [binding] => return { clauses := ← Clauses.describe arguments.positional, binding }
    | _ => misuse .wrongKind
  | "construct" => some do
    match ← arguments.options [client] with
    | [binding] => return { clauses := ← Clauses.construct arguments.positional, binding }
    | _ => misuse .wrongKind
  | _ => none

/-! ## Queries inside queries -/

/-- Adds patterns and sub-queries. -/
def addPatterns (index : Nat) (values : List Value) : Session Unit := do
  let patterns ← ofOutcome (Value.asPatterns (values.filter (!·.isQuery)))
  changeQuery index fun record => { record with
    clauses := { record.clauses with patterns := record.clauses.patterns ++ patterns }
    subqueries := record.subqueries ++ values.filterMap queryIndex? }

/-- Adds patterns and sub-queries, and then what a block adds. -/
def whereCall (index : Nat) (arguments : Arguments) (block : Option Block) : Session Reply := do
  let named ← options arguments [blockParameter]
  addPatterns index arguments.positional
  match blockOf block (named.headD .null) with
  | some block => block (.query index)
  | none => pure ()
  return .query index

/-- Makes a selection a sub-query of a query. -/
def subqueryCall (index : Nat) (arguments : Arguments) : Session Reply := do
  let named ← options arguments [⟨"count", some .null⟩]
  let clauses ← ofOutcome (Clauses.select arguments.positional (named.headD .null))
  let subquery ← addQuery { clauses }
  changeQuery index fun record => { record with subqueries := record.subqueries ++ [subquery] }
  return .query subquery

/-- Adds an optional part. -/
def optionalCall (index : Nat) (arguments : Arguments) (block : Option Block) : Session Reply := do
  let named ← options arguments [blockParameter]
  let patterns ← ofOutcome (Value.asPatterns arguments.positional)
  let group ← addGroup { patterns }
  match blockOf block (named.headD .null) with
  | some block => block (.group group)
  | none => pure ()
  changeQuery index fun record => { record with optionals := record.optionals ++ [group] }
  return .query index

/-- The queries of a clause: the one that a block fills, those given, or one made of patterns. -/
def branches (clause : BranchClause) (values : List Value) (block : Option Block) : Session (List Nat) := do
  match block with
  | some block =>
    if !values.isEmpty then refuse (.branchesAndBlock clause)
    let query ← addQuery selectAll
    block (.query query)
    return [query]
  | none =>
    if values.isEmpty then refuse (.noBranches clause)
    if values.all Value.isQuery then return values.filterMap queryIndex?
    if !values.all Value.isPatternLike then refuse (.mixedBranches clause)
    let query ← addQuery selectAll
    addPatterns query values
    return [query]

/-- Adds union branches. -/
def unionCall (index : Nat) (arguments : Arguments) (block : Option Block) : Session Reply := do
  let named ← options arguments [blockParameter]
  let added ← branches .union arguments.positional (blockOf block (named.headD .null))
  changeQuery index fun record => { record with unions := record.unions ++ added }
  return .query index

/-- Adds what is taken away. -/
def minusCall (index : Nat) (arguments : Arguments) (block : Option Block) : Session Reply := do
  let named ← options arguments [blockParameter]
  let added ← branches .minus arguments.positional (blockOf block (named.headD .null))
  changeQuery index fun record => { record with minuses := record.minuses ++ added }
  return .query index

/-- The endpoint of a federated part, the values after it and the names that are left. -/
def endpointOf (arguments : Arguments) : Outcome (Value × List Value × Arguments) :=
  match arguments.positional, arguments.named? "endpoint" with
  | endpoint :: rest, none => .ok (endpoint, rest, arguments)
  | [], some endpoint => .ok (endpoint, [], { named := arguments.named.filter (·.1 ≠ "endpoint") })
  | _, _ => misuse .wrongKind

/-- Adds a federated part. -/
def serviceCall (index : Nat) (arguments : Arguments) (block : Option Block) : Session Reply := do
  let (endpoint, values, rest) ← ofOutcome (endpointOf arguments)
  match ← options rest [⟨"silent", some (.bool false)⟩, blockParameter] with
  | [silent, named] =>
    let endpoint ← ofOutcome endpoint.asResource
    match ← branches .service values (blockOf block named) with
    | [query] =>
      let site : ServiceSite := ⟨endpoint, silent.truth⟩
      changeQuery index fun record => { record with services := record.services ++ [(site, query)] }
      return .query index
    | _ => refuse .manyServiceQueries
  | _ => fault .wrongKind

/-- Sets the first of the solutions and their number. The first is set even if the number is refused. -/
def sliceCall (index : Nat) (arguments : Arguments) : Session Reply := do
  match ← ofOutcome (arguments.bind [⟨"start", none⟩, ⟨"length", none⟩]) with
  | [start, length] =>
    let before ← query index
    let shifted ← ofOutcome (before.clauses.setOffset start)
    changeClauses index fun _ => shifted
    let limited ← ofOutcome (shifted.setLimit length)
    changeClauses index fun _ => limited
    return .query index
  | _ => fault .wrongKind

/-- Adds declarations one after the other. Those before one that cannot be written are added even so. -/
def declareCall (index : Nat) (value : Value) (named : List (String × Value)) : Session Reply := do
  let (written, entries) ← ofOutcome (declaredBy value named)
  written.forM fun text => changeClauses index (·.addDeclaration text)
  entries.forM fun entry => do
    let text ← ofOutcome (declaration entry.1 entry.2)
    changeClauses index (·.addDeclaration text)
  return .query index

/-- Adds the declarations that a call gives by position and by name. -/
def prologueCall (index : Nat) (arguments : Arguments) : Session Reply :=
  match arguments.positional with
  | [] => declareCall index .null arguments.named
  | [value] => declareCall index value arguments.named
  | _ => fault .wrongKind

/-- Changes the clauses of a query. -/
def changeCall (index : Nat) (change : Clauses → Outcome Clauses) : Session Reply := do
  let record ← query index
  let clauses ← ofOutcome (change record.clauses)
  changeClauses index fun _ => clauses
  return .query index

/-- A call that may have a block. -/
def blockCall? (index : Nat) (name : String) (arguments : Arguments) (block : Option Block) :
    Option (Session Reply) :=
  match name with
  | "where" | "whether" => some (whereCall index arguments block)
  | "optional" => some (optionalCall index arguments block)
  | "union" => some (unionCall index arguments block)
  | "minus" => some (minusCall index arguments block)
  | "service" => some (serviceCall index arguments block)
  | _ => none

end Sparql.Session
