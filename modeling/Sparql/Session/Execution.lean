import Sparql.Session.Building

/-!
# Executing in a session

A query that is bound to the client is executed once. Its text is fixed before it is sent and its result is
kept when it comes back; an execution that fails keeps nothing and fixes nothing.
-/

namespace Sparql.Session

/-- Runs an exchange of the client, if there is one. -/
def exchange {α : Type} (run : Client → Wire → Outcome α × Client × Wire) : Session α := do
  let store ← get
  match store.client with
  | none => fault .noSuchOperation
  | some client =>
    let (outcome, client, wire) := run client store.wire
    set { store with client := some client, wire }
    ofOutcome outcome

/-- Sends a query through the client and reads the answer. -/
def sendQuery (text form : String) (graphs : List String) : Session QueryResult :=
  exchange fun client wire => client.query text form graphs wire

/-- Sends an update through the client. -/
def sendUpdate (operation : Value) : Session Reply := do
  exchange fun client wire => client.update operation wire
  return .client

/-- Sends a query that stands in the session. -/
def sendIndexed (index : Nat) : Session QueryResult := do
  let text ← queryText index
  let record ← query index
  sendQuery text record.clauses.form.name record.clauses.graphNames

/-- Sends a query through what it is bound to. Only the client sends queries; a cache key has a query that
is no operation. -/
def sendBound (binding : Value) (index : Nat) : Session QueryResult :=
  match binding with
  | .object .client _ => sendIndexed index
  | .answer looks _ _ => fault (if looks.kind = "CacheKey" then .wrongKind else .noSuchOperation)
  | _ => fault .noSuchOperation

/-- Fixes the text of a query, or lets it follow the clauses again. -/
def setFrozen (index : Nat) (text : Option String) : Session Unit :=
  changeQuery index fun record => { record with frozen := text }

/-- Sends a query and keeps the result that comes back. -/
def sendKept (binding : Value) (index : Nat) : Session QueryResult := do
  let result ← sendBound binding index
  changeQuery index fun record => { record with result := some result }
  return result

/-- Fixes the text of a query while it is sent, and for good once the result is there. -/
def executeBound (binding : Value) (index : Nat) : Session QueryResult := do
  let text ← renderedText index
  setFrozen index (some text)
  try sendKept binding index
  catch failure =>
    setFrozen index none
    throw failure

/-- The result of a query: the one that is kept, or else the one that comes back now. -/
def execute (index : Nat) : Session QueryResult := do
  let record ← query index
  match record.result, record.binding with
  | some result, _ => return result
  | none, .null => refuse .unboundQuery
  | none, binding => executeBound binding index

/-- The cache key of a query. -/
def cacheKey (index : Nat) : Session CacheKey := do
  let text ← queryText index
  let record ← query index
  return .ofText text record.clauses.graphNames

/-- Whether the group of a query has no content. -/
def isEmptyGroup (record : QueryRecord) : Bool :=
  record.clauses.patterns.isEmpty && record.subqueries.isEmpty && record.optionals.isEmpty
    && record.clauses.filters.isEmpty && record.services.isEmpty && record.clauses.values.isNone
    && record.minuses.isEmpty && record.unions.isEmpty && record.clauses.bindUnions.isEmpty
    && record.clauses.graph.isNone

/-- The calls that execute a query, with what each hands out of the result. A call that hands out solutions or
statements one by one is the call together with the iteration over them. -/
def executingView? (name : String) : Option (QueryResult → Reply) :=
  match name with
  | "execute" | "result" => some .result
  | "solutions" | "each_solution" => some fun result => .solutions result.rows
  | "each_statement" => some fun result => .statements result.statements
  | "is_true" => some fun result => .truth result.truth
  | "is_false" => some fun result => .truth !result.truth
  | _ => none

/-- A call without arguments that looks at a query or executes it. -/
def readingCall? (index : Nat) (name : String) : Option (Session Reply) :=
  match name with
  | "to_text" | "str" => some do return .text (← queryText index)
  | "repr" => some do return .text (Store.queryDisplay (← queryText index))
  | "cache_key" => some do return .cacheKey (← cacheKey index)
  | "expects_statements" => some do return .truth (← query index).clauses.form.expectsStatements
  | "is_empty_group" => some do return .truth (isEmptyGroup (← query index))
  | _ => (executingView? name).map fun view => do return view (← execute index)

/-- A call that takes no arguments. -/
def withoutArguments (arguments : Arguments) (block : Option Block) (call : Session Reply) : Session Reply := do
  if !arguments.positional.isEmpty || !arguments.named.isEmpty || block.isSome then fault .wrongKind
  call

/-- Makes a query. -/
def constructCall (made : Outcome QueryRecord) : Session Reply := do
  let record ← ofOutcome made
  return .query (← addQuery record)

/-- A call that changes more than clauses, or makes another query, and takes no block. -/
def plainCall? (index : Nat) (name : String) (arguments : Arguments) : Option (Session Reply) :=
  match name with
  | "with_subquery" => some (subqueryCall index arguments)
  | "slice" => some (sliceCall index arguments)
  | "prefix" => some (prologueCall index arguments)
  | "new" => none
  | _ => (construct? name arguments).map constructCall

/-- A call on a query. -/
def queryCall (index : Nat) (name : String) (arguments : Arguments) (block : Option Block) : Session Reply :=
  match blockCall? index name arguments block with
  | some call => call
  | none =>
    match readingCall? index name with
    | some call => withoutArguments arguments block call
    | none =>
      match Clauses.change? name arguments, block with
      | some change, none => changeCall index change
      | some _, some _ => fault .wrongKind
      | none, _ =>
        match plainCall? index name arguments, block with
        | some call, none => call
        | some _, some _ => fault .wrongKind
        | none, _ => fault .noSuchOperation

/-- A call on an optional part. -/
def groupCall (index : Nat) (name : String) (arguments : Arguments) (block : Option Block) : Session Reply := do
  let some group := (← get).groups[index]? | fault .noSuchOperation
  match OptionalGroup.change? name arguments, name with
  | some change, _ =>
    if block.isSome then fault .wrongKind
    let group ← ofOutcome (change group)
    changeGroup index fun _ => group
    return .group index
  | none, "str" | none, "repr" => return .text group.display
  | none, _ => fault .noSuchOperation

/-- Changes an operation. -/
def changeOperation (index : Nat) (operation : UpdateOperation) : Session Unit :=
  modify fun store => { store with operations := store.operations.set index operation }

/-- A call on an operation. -/
def operationCall (index : Nat) (name : String) (arguments : Arguments) (block : Option Block) : Session Reply := do
  let some operation := (← get).operations[index]? | fault .noSuchOperation
  match name with
  | "to_text" | "str" => return .text (← ofOutcome operation.toText)
  | "repr" => return .text (← ofOutcome operation.display)
  | "silent" =>
    if block.isSome then fault .wrongKind
    changeOperation index (← ofOutcome (operation.setSilent arguments))
    return .operation index
  | _ => fault .noSuchOperation

/-! ## The client -/

/-- Sends a query object or a text. -/
def sendGiven (given : Value) : Session Reply := do
  match given with
  | .object (.query index) _ => return .result (← sendIndexed index)
  | _ =>
    match given.text? with
    | none => fault .wrongKind
    | some text =>
      match ← ofOutcome (TextKind.detect text) with
      | .update => refuse .updateAsQuery
      | kind => return .result (← sendQuery text kind.name [])

/-- Sends an operation or a text as an update. -/
def sendOperation (given : Value) : Session Reply := do
  match given with
  | .object (.operation index) _ =>
    let store ← get
    sendUpdate (.text (← ofOutcome (store.operationText index)))
  | _ => sendUpdate given

/-- Makes an operation of a named kind and sends it. -/
def sendNew (kind : String) (arguments : Arguments) : Session Reply := do
  let operation ← ofOutcome (UpdateOperation.ofCall kind arguments)
  sendUpdate (.text (← ofOutcome operation.toText))

/-- Makes a query that the client executes. It is bound to this client and to no other. -/
def boundQuery (client : Value) (name : String) (arguments : Arguments) : Option (Session Reply) :=
  let bound : Arguments := { arguments with named := arguments.named ++ [("client", client)] }
  match name with
  | "new" => none
  | _ => (construct? name bound).map fun made =>
    if (arguments.named? "client").isSome then fault .wrongKind else constructCall made

/-- A call that looks at the client. -/
def clientReading? (name : String) : Option (Client → String) :=
  match name with
  | "report" => some fun client => client.summary.report
  | "endpoint" => some Client.endpoint
  | "repr" | "str" => some Client.display
  | _ => none

/-- The arguments of a shortcut under the names that the operation gives them. -/
def shortcut (arguments : Arguments) (parameters : List Parameter) : Outcome Arguments := do
  let values ← arguments.bind parameters
  return { named := (parameters.map (·.name)).zip values }

/-- The operation that a shortcut of the client makes and sends. -/
def shortcut? (name : String) (arguments : Arguments) : Option (Session Reply) :=
  let optional (name : String) : Parameter := ⟨name, some .null⟩
  let needed (name : String) : Parameter := ⟨name, none⟩
  let silent : Parameter := ⟨"silent", some (.bool false)⟩
  let template (name : String) : Parameter := ⟨name, some (.tuple [])⟩
  let send (kind : String) (parameters : List Parameter) : Session Reply := do
    let arguments ← ofOutcome (shortcut arguments parameters)
    sendNew kind arguments
  match name with
  | "insert_data" => some (send "InsertData" [needed "data", optional "graph"])
  | "delete_data" => some (send "DeleteData" [needed "data", optional "graph"])
  | "delete_insert" =>
    some (send "DeleteInsert" [template "delete", template "insert", template "where", optional "graph"])
  | "clear_graph" => some (send "Clear" [needed "graph", silent])
  | "clear" => some (send "Clear" [needed "target", silent])
  | "load" => some (send "Load" [needed "source", optional "into", silent])
  | "create" => some (send "Create" [needed "graph", silent])
  | "drop" => some (send "Drop" [optional "graph", optional "target", silent])
  | _ => none

/-- A call on the client. -/
def clientCall (name : String) (arguments : Arguments) (block : Option Block) : Session Reply := do
  let some client := (← get).client | fault .noSuchOperation
  match clientReading? name with
  | some read => return .text (read client)
  | none =>
    if block.isSome then fault .wrongKind
    match boundQuery (← get).clientValue name arguments, shortcut? name arguments, name with
    | some call, _, _ => call
    | none, some call, _ => call
    | none, none, "query" => do sendGiven (← ofOutcome (arguments.single ⟨"query", none⟩))
    | none, none, "update" => do sendOperation (← ofOutcome (arguments.single ⟨"operation", none⟩))
    | none, none, _ => fault .noSuchOperation

end Sparql.Session
