import Sparql.Graph.Sink
import Sparql.Query.Build

/-!
# Arguments of a script

The arguments of a scripted call are built when the call is made: they may name registers, and building a
term or a pattern may fail.
-/

namespace Sparql

/-- How an argument is built. -/
inductive Expression where
  | constant (value : Value)
  /-- A number or a time whose text cannot be read. -/
  | unreadable
  /-- Whatever stands in a register. -/
  | register (name : String)
  | variable (name : String)
  | literal (text : String) (language datatype : Option String)
  | list (items : List Expression)
  | tuple (items : List Expression)
  | map (entries : List (Expression × Expression))
  | pattern (items : List Expression)
  | branch (parts : List Expression)
  | graph (statements : List Expression)
deriving Repr, Inhabited

namespace Expression

mutual

/-- The registers that an expression names. -/
def registers : Expression → List String
  | .register name => [name]
  | .list items | .tuple items | .pattern items | .branch items | .graph items => registersOf items
  | .map entries => registersOfEntries entries
  | .constant _ | .unreadable | .variable _ | .literal .. => []

/-- The registers that some expressions name. -/
def registersOf : List Expression → List String
  | [] => []
  | item :: rest => registers item ++ registersOf rest

/-- The registers that the entries of a mapping name. -/
def registersOfEntries : List (Expression × Expression) → List String
  | [] => []
  | (key, value) :: rest => registers key ++ registers value ++ registersOfEntries rest

end

/-- The variable of a name. One mark before it is dropped. -/
def namedVariable (name : String) : Outcome Value :=
  match name.toList with
  | [] => misuse .unnamedVariable
  | '?' :: rest => .ok (.term (.variable (String.ofList rest)))
  | _ => .ok (.term (.variable name))

/-- The statement of three terms. -/
def statementOf (value : Value) : Outcome Statement :=
  match value.items? with
  | some [.term subject, .term predicate, .term object] => .ok ⟨subject, predicate, object⟩
  | _ => misuse .wrongKind

/-- The statements of some values, each once. -/
def graphOf (values : List Value) : Outcome Value := do
  let statements ← values.mapM statementOf
  return .graph (Graph.distinct statements)

/-- The value of a constant: a scalar, a term, or a pattern or a branch that is there already, whatever stands in
it. Objects stand in registers, and all else is built. -/
def constantValue (value : Value) : Outcome Value :=
  match value with
  | .null | .bool _ | .int _ | .float _ | .decimal _ | .text _ | .bytes _ | .date _ | .time _ | .moment _
  | .term _ | .pattern _ | .branch _ => .ok value
  | _ => misuse .wrongKind

mutual

/-- The value of an expression, given what stands in the registers. -/
def evaluate (registers : String → Value) : Expression → Outcome Value
  | .constant value => constantValue value
  | .unreadable => misuse .badValue
  | .register name => .ok (registers name)
  | .variable name => namedVariable name
  | .literal text language datatype =>
    match Literal.ofText text language datatype with
    | .ok built => .ok (.term (.literal built))
    | .error cause => misuse cause.fault
  | .list items => (evaluateAll registers items).map .list
  | .tuple items => (evaluateAll registers items).map .tuple
  | .pattern items => do
    let values ← evaluateAll registers items
    let pattern ← (Value.list values).asPattern
    return .pattern pattern
  | .branch parts => do
    let values ← evaluateAll registers parts
    let branch ← bindBranchOf (.list values)
    return .branch branch
  | .graph statements => do
    let values ← evaluateAll registers statements
    graphOf values
  | .map entries => do
    let entries ← evaluateEntries registers entries
    match Value.ofEntries? entries with
    | some entries => return .map entries
    | none => misuse .wrongKind

/-- The values of some expressions in order. -/
def evaluateAll (registers : String → Value) : List Expression → Outcome (List Value)
  | [] => .ok []
  | item :: rest => do
    let value ← evaluate registers item
    let others ← evaluateAll registers rest
    return value :: others

/-- The entries of a mapping in order. -/
def evaluateEntries (registers : String → Value) :
    List (Expression × Expression) → Outcome (List (Value × Value))
  | [] => .ok []
  | (key, value) :: rest => do
    let key ← evaluate registers key
    let value ← evaluate registers value
    let others ← evaluateEntries registers rest
    return (key, value) :: others

end

/-- The value of an expression without registers. -/
def value (expression : Expression) : Outcome Value := expression.evaluate fun _ => .null

end Expression

end Sparql
