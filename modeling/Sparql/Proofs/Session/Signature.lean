import Sparql.Proofs.Query.Refusal
import Sparql.Proofs.Session.Run
import Sparql.Proofs.Update.Refusal

/-!
# The parameters of builder methods

`Builder.Fits` lists the builder methods with the parameters that each declares. `Builder.Escapes` lists, method by
method, the arguments that are declared but neither taken nor refused.
-/

namespace Sparql

open Outcome Session

/-- Where builder methods are found: constructors of queries, queries, optional parts, and kinds of operations. -/
inductive Builder where
  | constructors
  | query
  | group
  | operations
deriving DecidableEq, Repr

namespace Builder

variable {arguments : Arguments}

/-- The arguments are those that a method declares. -/
inductive Fits (arguments : Arguments) : Builder → String → Prop
  | new {form client : Value}
      (bound : arguments.bind [⟨"form", some (.text "ask")⟩, ⟨"client", some .null⟩] = .ok [form, client]) :
      Fits arguments .constructors "new"
  | ask {client : Value} (bound : arguments.bind [⟨"client", some .null⟩] = .ok [client]) :
      Fits arguments .constructors "ask"
  | select {count client : Value}
      (bound : arguments.options [⟨"count", some .null⟩, ⟨"client", some .null⟩] = .ok [count, client]) :
      Fits arguments .constructors "select"
  | made {method : String} {client : Value} (isMethod : method ∈ ["describe", "construct"])
      (bound : arguments.options [⟨"client", some .null⟩] = .ok [client]) : Fits arguments .constructors method
  | blocked {method : String} {block : Value} (isMethod : method ∈ ["where", "whether", "optional", "union", "minus"])
      (bound : arguments.options [blockParameter] = .ok [block]) : Fits arguments .query method
  | subquery {count : Value} (bound : arguments.options [⟨"count", some .null⟩] = .ok [count]) :
      Fits arguments .query "with_subquery"
  | service {endpoint silent block : Value} {values : List Value} {rest : Arguments}
      (hasEndpoint : endpointOf arguments = .ok (endpoint, values, rest))
      (bound : rest.options [⟨"silent", some (.bool false)⟩, blockParameter] = .ok [silent, block]) :
      Fits arguments .query "service"
  | tagged {optional : Value} (bound : arguments.options [⟨"optional", some (.bool false)⟩] = .ok [optional]) :
      Fits arguments .query "union_with_bind"
  | values {named : Value} {data : List Value} (bound : arguments.firstAndRest "variables" = .ok (named, data)) :
      Fits arguments .query "values"
  | positions {method : String} (isMethod : method ∈ ["order", "order_by", "group", "group_by", "from_"])
      (bound : arguments.onlyPositions = .ok arguments.positional) : Fits arguments .query method
  | filter {expression : Value} (bound : arguments.bind [⟨"expression", none⟩] = .ok [expression]) :
      Fits arguments .query "filter"
  | directed {method : String} {value : Value} (isMethod : method ∈ ["asc", "desc"])
      (bound : arguments.bind [⟨"variable", none⟩] = .ok [value]) : Fits arguments .query method
  | flag {method : String} {state : Value} (isMethod : method ∈ ["distinct", "reduced"])
      (bound : arguments.bind [⟨"state", some (.bool true)⟩] = .ok [state]) : Fits arguments .query method
  | graph {value : Value} (bound : arguments.bind [⟨"graph_iri_or_var", none⟩] = .ok [value]) :
      Fits arguments .query "graph"
  | offset {start : Value} (bound : arguments.bind [⟨"start", none⟩] = .ok [start]) : Fits arguments .query "offset"
  | limit {length : Value} (bound : arguments.bind [⟨"length", none⟩] = .ok [length]) : Fits arguments .query "limit"
  | slice {start length : Value} (bound : arguments.bind [⟨"start", none⟩, ⟨"length", none⟩] = .ok [start, length]) :
      Fits arguments .query "slice"
  | declarations (atMostOne : arguments.positional.length ≤ 1) : Fits arguments .query "prefix"
  | groupWhere (bound : arguments.onlyPositions = .ok arguments.positional) : Fits arguments .group "where"
  | groupFilter {expression : Value} (bound : arguments.bind [⟨"expression", none⟩] = .ok [expression]) :
      Fits arguments .group "filter"
  | operation {kind : String} (fits : UpdateOperation.Fits kind arguments) : Fits arguments .operations kind

/-- The arguments that a method neither takes nor refuses. -/
inductive Escapes (arguments : Arguments) : Builder → String → Fault → Prop
  /-- Counts that are something, but no mapping. -/
  | count {count client : Value} {names : List String}
      (bound : arguments.options [⟨"count", some .null⟩, ⟨"client", some .null⟩] = .ok [count, client])
      (areNames : arguments.positional.mapM Value.asVariable = .ok names) (isNoMapping : IsNoMapping count) :
      Escapes arguments .constructors "select" .noSuchOperation
  | subqueryCount {count : Value} {names : List String}
      (bound : arguments.options [⟨"count", some .null⟩] = .ok [count])
      (areNames : arguments.positional.mapM Value.asVariable = .ok names) (isNoMapping : IsNoMapping count) :
      Escapes arguments .query "with_subquery" .noSuchOperation
  /-- A block that is data cannot be called, once the patterns beside it are read. -/
  | block {method : String} {block : Value} {patterns : List Pattern}
      (isMethod : method ∈ ["where", "whether", "optional"])
      (bound : arguments.options [blockParameter] = .ok [block]) (isGiven : block ≠ .null)
      (arePatterns : Value.asPatterns arguments.positional = .ok patterns) :
      Escapes arguments .query method .wrongKind
  | branchBlock {method : String} {block : Value} (isMethod : method ∈ ["union", "minus"])
      (bound : arguments.options [blockParameter] = .ok [block]) (isGiven : block ≠ .null)
      (noValues : arguments.positional = []) : Escapes arguments .query method .wrongKind
  | serviceBlock {endpoint silent block : Value} {rest : Arguments} {site : Term}
      (hasEndpoint : endpointOf arguments = .ok (endpoint, [], rest))
      (bound : rest.options [⟨"silent", some (.bool false)⟩, blockParameter] = .ok [silent, block])
      (isSite : endpoint.asResource = .ok site) (isGiven : block ≠ .null) :
      Escapes arguments .query "service" .wrongKind
  /-- A branch with patterns, or with IRIs of a test, that cannot be iterated. -/
  | tagged {optional : Value} (bound : arguments.options [⟨"optional", some (.bool false)⟩] = .ok [optional])
      (escapes : UnionEscapes arguments.positional) : Escapes arguments .query "union_with_bind" .wrongKind
  /-- Bounds that are infinite, or negative and too long for a message. -/
  | offset {start : Value} {fault : Fault} (bound : arguments.bind [⟨"start", none⟩] = .ok [start])
      (escapes : BoundEscapes "OFFSET" start fault) : Escapes arguments .query "offset" fault
  | limit {length : Value} {fault : Fault} (bound : arguments.bind [⟨"length", none⟩] = .ok [length])
      (escapes : BoundEscapes "LIMIT" length fault) : Escapes arguments .query "limit" fault
  | sliceStart {start length : Value} {fault : Fault}
      (bound : arguments.bind [⟨"start", none⟩, ⟨"length", none⟩] = .ok [start, length])
      (escapes : BoundEscapes "OFFSET" start fault) : Escapes arguments .query "slice" fault
  | sliceLength {start length : Value} {fault : Fault}
      (bound : arguments.bind [⟨"start", none⟩, ⟨"length", none⟩] = .ok [start, length])
      (startTaken : start = .null ∨ ∃ offset, boundOf "OFFSET" start = .ok offset)
      (escapes : BoundEscapes "LIMIT" length fault) : Escapes arguments .query "slice" fault
  /-- A template that cannot be iterated. -/
  | template {parameters : List Parameter} {delete insert condition graph : Value}
      (areParameters : UpdateOperation.parameters? "DeleteInsert" = some parameters)
      (bound : arguments.bind parameters = .ok [delete, insert, condition, graph])
      (escapes : UpdateOperation.TemplateEscapes delete insert condition) :
      Escapes arguments .operations "DeleteInsert" .wrongKind

end Builder

end Sparql
