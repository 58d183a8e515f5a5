import Sparql.Value.Display
import Sparql.Value.Equality

/-!
# Results

What an answer comes to: a truth value, a table of solutions or the statements of a graph.
-/

namespace Sparql

/-- One row of bindings. The keys are names as they came, each once. -/
structure Solution where
  bindings : List (Value × Term)
deriving Repr, Inhabited

namespace Solution

/-- Bindings with one more: an equal key keeps its place and takes the new term. -/
def insertBinding (key : Value) (term : Term) : List (Value × Term) → List (Value × Term)
  | [] => [(key, term)]
  | (k, t) :: rest => if k.sameKey key then (k, term) :: rest else (k, t) :: insertBinding key term rest

/-- The solution with one more binding. -/
def bind (solution : Solution) (key : Value) (term : Term) : Solution :=
  ⟨insertBinding key term solution.bindings⟩

/-- The term under a name that has no mark. -/
def find? (solution : Solution) (name : String) : Option Term :=
  (solution.bindings.find? fun (key, _) => match key with
    | .text spelling => spelling = name
    | _ => false).map (·.2)

/-- The name that a key asks for: its text without question marks before it. -/
def wantedName (key : Value) : String := String.ofList (key.toText.toList.dropWhile (· = '?'))

/-- The term under a key. -/
def get? (solution : Solution) (key : Value) : Option Term := solution.find? (wantedName key)

/-- Whether a text or a term names a bound variable. -/
def contains (solution : Solution) (key : Value) : Bool :=
  key.text?.isSome && (solution.get? key).isSome

/-- How many variables are bound. -/
def size (solution : Solution) : Nat := solution.bindings.length

/-- The keys in order. -/
def keys (solution : Solution) : List Value := solution.bindings.map (·.1)

/-- A solution as messages show it. -/
def display (solution : Solution) : String :=
  "Solution(" ++ (Value.map (solution.bindings.map fun (key, term) => (key, .term term))).display ++ ")"

/-- A key as iteration yields it: a name, or nothing if there is none. -/
def keyValue (key : Value) : Value := (key.text?.map Value.text).getD .null

/-- A solution as a value, which is iterated by keys. -/
def toValue (solution : Solution) : Value :=
  .answer ⟨"Solution", .ok solution.display, .ok solution.display⟩ (0 < solution.size)
    (some (solution.keys.map keyValue))

end Solution

/-- A statement as a tuple of its terms. -/
def Statement.toValue (statement : Statement) : Value :=
  .tuple [.term statement.subject, .term statement.predicate, .term statement.object]

/-- The result of a query. -/
inductive QueryResult where
  | boolean (value : Bool)
  | solutions (declared : List Value) (rows : List Solution)
  | graph (statements : List Statement)
deriving Repr

/-- The three shapes of results. -/
inductive ResultKind where
  | boolean
  | solutions
  | graph
deriving DecidableEq, Repr

/-- The name of a shape. -/
def ResultKind.name : ResultKind → String
  | .boolean => "boolean"
  | .solutions => "solutions"
  | .graph => "graph"

namespace QueryResult

/-- The shape of a result. -/
def kind : QueryResult → ResultKind
  | .boolean _ => .boolean
  | .solutions .. => .solutions
  | .graph _ => .graph

/-- How many rows or statements there are; a truth value is one. -/
def size : QueryResult → Nat
  | .boolean _ => 1
  | .solutions _ rows => rows.length
  | .graph statements => statements.length

/-- Whether the result is true or has anything in it. -/
def truth : QueryResult → Bool
  | .boolean value => value
  | result => 0 < result.size

/-- The rows of a table; other results have none. -/
def rows : QueryResult → List Solution
  | .solutions _ rows => rows
  | _ => []

/-- The statements of a graph; other results have none. -/
def statements : QueryResult → List Statement
  | .graph statements => statements
  | _ => []

/-- The name of a result's type. -/
def typeName : QueryResult → String
  | .boolean _ => "BooleanResult"
  | .solutions .. => "SolutionsResult"
  | .graph _ => "GraphResult"

/-- A result as messages show it. -/
def display (result : QueryResult) : String :=
  let fields := match result with
    | .boolean value => ["value=" ++ (Value.bool value).display]
    | .solutions declared rows => ["variables=" ++ (Value.tuple declared).display,
        "solutions=" ++ Value.parenthesized (rows.map Solution.display)]
    | .graph statements => ["statements=" ++ (Value.tuple (statements.map Statement.toValue)).display]
  Value.applied result.typeName (fields ++ ["kind=" ++ Text.quoted result.kind.name])

/-- A result as a value. A table is iterated by rows and a graph by statements. -/
def toValue (result : QueryResult) : Value :=
  let looks : Appearance := ⟨result.typeName, .ok result.display, .ok result.display⟩
  .answer looks result.truth (match result with
    | .boolean _ => none
    | .solutions _ rows => some (rows.map Solution.toValue)
    | .graph statements => some (statements.map Statement.toValue))

end QueryResult

end Sparql
