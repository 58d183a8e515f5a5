import Sparql.Exchange.Client
import Sparql.Query.CacheKey
import Sparql.Query.Change
import Sparql.Query.Text
import Sparql.Update.Build

/-!
# Sessions

Queries, optional parts, operations and the client are shared: a query may be a part of another one and
still grow. A store holds them by number, and names registers for what calls have returned. A query that was
answered keeps its text and its answer from then on.
-/

namespace Sparql

/-- A query as it stands. Its parts that are shared are given by number. -/
structure QueryRecord where
  clauses : Clauses
  optionals : List Nat := []
  subqueries : List Nat := []
  unions : List Nat := []
  minuses : List Nat := []
  services : List (ServiceSite × Nat) := []
  /-- What executes the query, if anything does. -/
  binding : Value := .null
  /-- The text that is being sent or was answered, which stays whatever becomes of the clauses. -/
  frozen : Option String := none
  /-- The result that came back. -/
  result : Option QueryResult := none
deriving Repr

/-- What a call returns. -/
inductive Reply where
  | text (text : String)
  | truth (value : Bool)
  | query (index : Nat)
  | group (index : Nat)
  | operation (index : Nat)
  | client
  | cacheKey (key : CacheKey)
  | result (result : QueryResult)
  | solutions (rows : List Solution)
  | statements (statements : List Statement)
deriving Repr

/-- All that a session holds. -/
structure Store where
  queries : List QueryRecord := []
  groups : List OptionalGroup := []
  operations : List UpdateOperation := []
  client : Option Client := none
  wire : Wire := {}
  registers : List (String × Reply) := []
deriving Repr

/-- A part of a session. What it did stays done when it fails. -/
abbrev Session (α : Type) := ExceptT Failure (StateM Store) α

namespace Store

/-- What stands in a register. -/
def register? (store : Store) (name : String) : Option Reply :=
  (store.registers.find? (·.1 = name)).map (·.2)

/-- The store with a register set. -/
def setRegister (store : Store) (name : String) (reply : Reply) : Store :=
  { store with registers := (name, reply) :: store.registers.filter (·.1 ≠ name) }

/-- The store with a register set, or unset if there is nothing for it. -/
def restoreRegister (store : Store) (name : String) (reply : Option Reply) : Store :=
  match reply with
  | some reply => store.setRegister name reply
  | none => { store with registers := store.registers.filter (·.1 ≠ name) }

/-! ## Texts of queries -/

/-- A query with all that hangs on it, to a depth. A query that contains itself has no such tree. -/
def tree? (store : Store) : Nat → Nat → Option QueryTree
  | 0, _ => none
  | depth + 1, index => do
    let record ← store.queries[index]?
    let optionals ← record.optionals.mapM fun group => store.groups[group]?
    let subqueries ← record.subqueries.mapM (tree? store depth)
    let unions ← record.unions.mapM (tree? store depth)
    let minuses ← record.minuses.mapM (tree? store depth)
    let services ← record.services.mapM fun (site, query) => (tree? store depth query).map fun tree => (site, tree)
    return .node record.clauses optionals subqueries unions minuses services

/-- The tree of a query. A chain of queries that is longer than their number would repeat one of them. -/
def tree (store : Store) (index : Nat) : Except RenderError QueryTree :=
  match store.tree? (store.queries.length + 1) index with
  | some tree => .ok tree
  | none => .error .endlessNesting

/-- The text that a query has from its clauses. -/
def render (store : Store) (index : Nat) : Outcome String :=
  Outcome.ofRender (store.tree index >>= QueryTree.render)

/-- The text of a query: the one that was sent, once the query is answered. -/
def text (store : Store) (index : Nat) : Outcome String :=
  match (store.queries[index]?).bind (·.frozen) with
  | some text => .ok text
  | none => store.render index

/-- The text of an optional part. -/
def groupText (store : Store) (index : Nat) : Outcome String :=
  match store.groups[index]? with
  | some group => Outcome.ofRender (group.words.map spaced)
  | none => misuse .noSuchOperation

/-- The text of an operation. -/
def operationText (store : Store) (index : Nat) : Outcome String :=
  match store.operations[index]? with
  | some operation => operation.toText
  | none => misuse .noSuchOperation

/-! ## Objects as values -/

/-- What is shown of an object that has the given text. -/
def shownText : Outcome String → Except Fault String
  | .ok text => .ok text
  | .error (.fault fault) => .error fault
  | .error _ => .error .badValue

/-- A query as messages show it. -/
def queryDisplay (text : String) : String := "<Query:ID(" ++ text ++ ")>"

/-- How a query looks. -/
def queryLooks (store : Store) (index : Nat) : Appearance :=
  let text := shownText (store.text index)
  ⟨"Query", text.map queryDisplay, text⟩

/-- How an optional part looks. -/
def groupLooks (store : Store) (index : Nat) : Appearance :=
  let display := ((store.groups[index]?).map OptionalGroup.display).getD ""
  ⟨"OptionalGroup", .ok display, .ok display⟩

/-- How an operation looks. -/
def operationLooks (store : Store) (index : Nat) : Appearance :=
  match store.operations[index]? with
  | some operation => ⟨operation.action.kindName, shownText operation.display, shownText operation.toText⟩
  | none => ⟨"UpdateOperation", .error .noSuchOperation, .error .noSuchOperation⟩

/-- How the client looks. -/
def clientLooks (store : Store) : Appearance :=
  let display := (store.client.map Client.display).getD ""
  ⟨"Client", .ok display, .ok display⟩

/-- The client as a value. -/
def clientValue (store : Store) : Value := .object .client store.clientLooks

/-- A reply as an argument of a later call. -/
def valueOf (store : Store) : Reply → Value
  | .text text => .text text
  | .truth value => .bool value
  | .query index => .object (.query index) (store.queryLooks index)
  | .group index => .object (.group index) (store.groupLooks index)
  | .operation index => .object (.operation index) (store.operationLooks index)
  | .client => store.clientValue
  | .cacheKey key => .answer ⟨"CacheKey", .ok key.display, .ok key.display⟩ true none
  | .result result => result.toValue
  | .solutions rows => .tuple (rows.map Solution.toValue)
  | .statements graph => .list (graph.map Statement.toValue)

end Store

namespace Session

/-- Takes over an outcome. -/
def ofOutcome {α : Type} : Outcome α → Session α
  | .ok value => return value
  | .error failure => throw failure

/-- Ends a call by misuse. -/
def fault {α : Type} (cause : Fault) : Session α := throw (.fault cause)

/-- A refused argument. -/
def refuse {α : Type} (cause : ConstructionError) : Session α := throw (.construction cause)

/-! ## Queries and groups -/

/-- Adds a query. -/
def addQuery (record : QueryRecord) : Session Nat := do
  let store ← get
  set { store with queries := store.queries ++ [record] }
  return store.queries.length

/-- A query as it stands. -/
def query (index : Nat) : Session QueryRecord := do
  match (← get).queries[index]? with
  | some record => return record
  | none => fault .noSuchOperation

/-- Changes a query. -/
def changeQuery (index : Nat) (change : QueryRecord → QueryRecord) : Session Unit :=
  modify fun store => { store with queries := store.queries.modify index change }

/-- Changes the clauses of a query. -/
def changeClauses (index : Nat) (change : Clauses → Clauses) : Session Unit :=
  changeQuery index fun record => { record with clauses := change record.clauses }

/-- Adds an optional part. -/
def addGroup (group : OptionalGroup) : Session Nat := do
  let store ← get
  set { store with groups := store.groups ++ [group] }
  return store.groups.length

/-- Changes an optional part. -/
def changeGroup (index : Nat) (change : OptionalGroup → OptionalGroup) : Session Unit :=
  modify fun store => { store with groups := store.groups.modify index change }

/-- Adds an operation. -/
def addOperation (operation : UpdateOperation) : Session Nat := do
  let store ← get
  set { store with operations := store.operations ++ [operation] }
  return store.operations.length

/-- The text of a query. -/
def queryText (index : Nat) : Session String := do
  let store ← get
  ofOutcome (store.text index)

/-- The text that a query has from its clauses. -/
def renderedText (index : Nat) : Session String := do
  let store ← get
  ofOutcome (store.render index)

end Session

end Sparql
