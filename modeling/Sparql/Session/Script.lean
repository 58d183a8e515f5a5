import Sparql.Session.Execution
import Sparql.Session.Expression

/-!
# Scripts

A script is a list of calls, each on an object or on a kind of object, whose arguments may be what earlier
calls returned. A call that names an unset register is passed over; a call that fails leaves what it did
before it failed. The calls of a block run on the object that the block is handed.
-/

namespace Sparql

/-- What a scripted call is made on. -/
inductive Receiver where
  /-- The queries: a constructor is called. -/
  | queries
  /-- The operations: a constructor is called. -/
  | operations
  | register (name : String)
deriving DecidableEq, Repr, Inhabited

/-- A scripted call. -/
inductive Step where
  | call (receiver : Receiver) (method : String) (positional : List Expression)
    (named : List (String × Expression)) (block : Option (List Step)) (target : Option String)
deriving Inhabited

namespace Step

/-- The receiver of a call. -/
def receiver : Step → Receiver
  | call receiver .. => receiver

/-- The registers that a call names. -/
def registers : Step → List String
  | call receiver _ positional named _ _ =>
    (match receiver with
      | .register name => [name]
      | _ => [])
      ++ Expression.registersOf positional ++ Expression.registersOf (named.map (·.2))

/-- Whether all registers that a call names are set. -/
def isReady (step : Step) (store : Store) : Bool :=
  step.registers.all fun name => (store.register? name).isSome

end Step

namespace Session

/-- The register of the object that a block is handed. -/
def blockRegister : String := "it"

/-- The values of arguments. -/
def evaluateArguments (positional : List Expression) (named : List (String × Expression)) : Session Arguments := do
  let store ← get
  let registers (name : String) : Value := ((store.register? name).map store.valueOf).getD .null
  let positional ← ofOutcome (Expression.evaluateAll registers positional)
  let values ← ofOutcome (Expression.evaluateAll registers (named.map (·.2)))
  return ⟨positional, (named.map (·.1)).zip values⟩

/-- A call on what stands in a register. -/
def replyCall (reply : Reply) (method : String) (arguments : Arguments) (block : Option Block) : Session Reply :=
  match reply, method with
  | .query index, _ => queryCall index method arguments block
  | .group index, _ => groupCall index method arguments block
  | .operation index, _ => operationCall index method arguments block
  | .client, _ => clientCall method arguments block
  | .text text, "str" => return .text text
  | .text text, "repr" => return .text (Text.quoted text)
  | .truth value, "str" | .truth value, "repr" => return .text (Value.bool value).display
  | _, _ => fault .noSuchOperation

/-- A call on a receiver. -/
def receiverCall (receiver : Receiver) (method : String) (arguments : Arguments) (block : Option Block) :
    Session Reply := do
  match receiver with
  | .queries =>
    match construct? method arguments with
    | some made => do
      if block.isSome then fault .wrongKind
      constructCall made
    | none => fault .noSuchOperation
  | .operations =>
    if block.isSome && UpdateOperation.kinds.contains method then fault .wrongKind
    let operation ← ofOutcome (UpdateOperation.ofCall method arguments)
    return .operation (← addOperation operation)
  | .register name =>
    match (← get).register? name with
    | some reply => replyCall reply method arguments block
    | none => fault .noSuchOperation

/-- The reply that an object is. -/
def replyOf : ObjectRef → Reply
  | .query index => .query index
  | .group index => .group index
  | .operation index => .operation index
  | .client => .client

/-- Runs a part of a session with an object in the register of blocks. -/
def withBlockRegister (object : ObjectRef) (run : Session Unit) : Session Unit := do
  let before := (← get).register? blockRegister
  modify fun store => store.setRegister blockRegister (replyOf object)
  try run
  finally modify fun store => store.restoreRegister blockRegister before

mutual

/-- Makes a call and stores what it returns. -/
def runCall : Step → Session Reply
  | .call receiver method positional named block target => do
    let arguments ← evaluateArguments positional named
    let reply ← receiverCall receiver method arguments (runBlock block)
    match target with
    | some name => modify fun store => store.setRegister name reply
    | none => pure ()
    return reply

/-- What a block does, if there is one. -/
def runBlock : Option (List Step) → Option Block
  | none => none
  | some steps => some fun object => withBlockRegister object (runAll steps)

/-- Makes the calls of a block that are ready, up to the first that fails. -/
def runAll : List Step → Session Unit
  | [] => pure ()
  | step :: rest => do
    if step.isReady (← get) then
      let _ ← runCall step
    runAll rest

end

/-! ## Reports -/

/-- What a script shows of a call. -/
inductive Report where
  | skipped
  | failed (failure : Failure) (receiver : Option (Outcome String))
  | query (text : Outcome String)
  | group (text : Outcome String)
  | operation (text : Outcome String)
  | client (display : String)
  | cacheKey (key : CacheKey)
  | result (result : QueryResult)
  | solutions (rows : List Solution)
  | statements (statements : List Statement)
  | value (value : Value)
deriving Repr

/-- What a script shows of a reply. -/
def reportReply (store : Store) : Reply → Report
  | .text text => .value (.text text)
  | .truth value => .value (.bool value)
  | .query index => .query (store.text index)
  | .group index => .group (store.groupText index)
  | .operation index => .operation (store.operationText index)
  | .client => .client ((store.client.map Client.display).getD "")
  | .cacheKey key => .cacheKey key
  | .result result => .result result
  | .solutions rows => .solutions rows
  | .statements statements => .statements statements

/-- The text of a receiver that is a query. -/
def receiverText (store : Store) (receiver : Receiver) : Option (Outcome String) :=
  match receiver with
  | .register name =>
    match store.register? name with
    | some (.query index) => some (store.text index)
    | _ => none
  | _ => none

/-- Makes a call, and tells what it showed and what happened meanwhile. -/
def report (store : Store) (step : Step) : (Report × List Event) × Store :=
  let quiet := { store with wire := { store.wire with events := [] } }
  if step.isReady store then
    let (outcome, after) := (runCall step).run quiet
    let shown := match outcome with
      | .ok reply => reportReply after reply
      | .error failure => .failed failure (receiverText after step.receiver)
    ((shown, after.wire.events.reverse), after)
  else ((.skipped, []), quiet)

/-- Makes all calls of a script. -/
def reportAll (store : Store) : List Step → List (Report × List Event)
  | [] => []
  | step :: rest =>
    let (shown, after) := report store step
    shown :: reportAll after rest

end Session

end Sparql
