import Sparql.Term.Coercion
import Sparql.Text.Case
import Sparql.Update.Basic
import Sparql.Value.Signature

/-!
# Building update operations

Operations are checked when they are built: data must be ground, templates must be patterns, and graph
names must be IRIs.
-/

namespace Sparql

namespace UpdateOperation

/-- The text of an operation. -/
def toText (operation : UpdateOperation) : Outcome String :=
  match operation.words? with
  | none => misuse .abstractOperation
  | some words => (Outcome.ofRender words).map (String.intercalate " ")

/-- An operation as messages show it. -/
def display (operation : UpdateOperation) : Outcome String :=
  operation.toText.map fun text => "<" ++ operation.action.kindName ++ "(" ++ text ++ ")>"

/-- The triples of some data, none of which may hold a variable. -/
def groundPatterns (keyword : String) (data : Value) : Outcome (List Pattern) :=
  match data.elements? with
  | none => refuse (.dataNotIterable keyword)
  | some values => do
    let patterns ← Value.asPatterns values
    match patterns.find? fun pattern => !pattern.variableNames.isEmpty with
    | some pattern => refuse (.dataWithVariables keyword pattern)
    | none => return patterns

/-- A graph name, if one is given. -/
def optionalIri : Value → Outcome (Option String)
  | .null => .ok none
  | value => value.asIri.map some

/-- Data and the graph it belongs to. -/
def dataAndGraph (keyword : String) (data graph : Value) : Outcome (List Pattern × Option String) := do
  let patterns ← groundPatterns keyword data
  let graph ← optionalIri graph
  return (patterns, graph)

/-- Inserts ground triples. -/
def insertData (data graph : Value) : Outcome UpdateOperation :=
  (dataAndGraph "INSERT DATA" data graph).map fun (patterns, graph) => ⟨.insertData patterns graph, false⟩

/-- Deletes ground triples. -/
def deleteData (data graph : Value) : Outcome UpdateOperation :=
  (dataAndGraph "DELETE DATA" data graph).map fun (patterns, graph) => ⟨.deleteData patterns graph, false⟩

/-- Deletes and inserts what the templates give for each match of the condition. -/
def deleteInsert (delete insert condition graph : Value) : Outcome UpdateOperation := do
  let delete ← delete.elementPatterns
  let insert ← insert.elementPatterns
  let condition ← condition.elementPatterns
  if delete.isEmpty && insert.isEmpty then refuse .emptyDeleteInsert
  let graph ← optionalIri graph
  return ⟨.deleteInsert delete insert condition graph, false⟩

/-- Loads a document into a graph. -/
def load (source into silent : Value) : Outcome UpdateOperation := do
  let source ← source.asIri
  let into ← optionalIri into
  return ⟨.load source into, silent.truth⟩

/-- The target that a word names. -/
def targetOfWord? : String → Option GraphTarget
  | "default" => some .default
  | "named" => some .named
  | "all" => some .all
  | _ => none

/-- The target given by a word, in either case. -/
def targetOf (keyword : String) (target : Value) : Outcome (Option GraphTarget) :=
  match target with
  | .null => .ok none
  | _ =>
    match target.text? with
    | some word =>
      let word := Text.lowered word
      match targetOfWord? word with
      | some target => .ok (some target)
      | none => refuse (.badTarget keyword (.text word))
    | none => refuse (.badTarget keyword target)

/-- One graph or a group of them, but not both. -/
def managedTarget (keyword : String) (graph target : Value) : Outcome GraphTarget := do
  match graph, target with
  | .null, _ =>
    match ← targetOf keyword target with
    | some target => return target
    | none => refuse (.noTarget keyword)
  | _, .null => return .graph (← graph.asIri)
  | _, _ => refuse (.graphAndTarget keyword)

/-- Empties graphs. -/
def clear (graph target silent : Value) : Outcome UpdateOperation :=
  (managedTarget "CLEAR" graph target).map fun target => ⟨.clear target, silent.truth⟩

/-- Removes graphs. -/
def drop (graph target silent : Value) : Outcome UpdateOperation :=
  (managedTarget "DROP" graph target).map fun target => ⟨.drop target, silent.truth⟩

/-- Creates a graph. -/
def create (graph silent : Value) : Outcome UpdateOperation :=
  graph.asIri.map fun graph => ⟨.create graph, silent.truth⟩

/-- The names of all kinds of operations. -/
def kinds : List String :=
  ["InsertData", "DeleteData", "DeleteInsert", "Load", "Clear", "Drop", "Create", "UpdateOperation"]

/-- The operation of a named kind with the given arguments. A name that is no kind of operation is misuse. -/
def ofCall (kind : String) (arguments : Arguments) : Outcome UpdateOperation := do
  let optional (name : String) : Parameter := ⟨name, some .null⟩
  let flag : Parameter := ⟨"silent", some (.bool false)⟩
  match kind with
  | "InsertData" =>
    match ← arguments.bind [⟨"data", none⟩, optional "graph"] with
    | [data, graph] => insertData data graph
    | _ => misuse .wrongKind
  | "DeleteData" =>
    match ← arguments.bind [⟨"data", none⟩, optional "graph"] with
    | [data, graph] => deleteData data graph
    | _ => misuse .wrongKind
  | "DeleteInsert" =>
    let template (name : String) : Parameter := ⟨name, some (.tuple [])⟩
    match ← arguments.bind [template "delete", template "insert", template "where", optional "graph"] with
    | [delete, insert, condition, graph] => deleteInsert delete insert condition graph
    | _ => misuse .wrongKind
  | "Load" =>
    match ← arguments.bind [⟨"source", none⟩, optional "into", flag] with
    | [source, into, silent] => load source into silent
    | _ => misuse .wrongKind
  | "Clear" =>
    match ← arguments.bind [optional "graph", optional "target", flag] with
    | [graph, target, silent] => clear graph target silent
    | _ => misuse .wrongKind
  | "Drop" =>
    match ← arguments.bind [optional "graph", optional "target", flag] with
    | [graph, target, silent] => drop graph target silent
    | _ => misuse .wrongKind
  | "Create" =>
    match ← arguments.bind [⟨"graph", none⟩, flag] with
    | [graph, silent] => create graph silent
    | _ => misuse .wrongKind
  | "UpdateOperation" =>
    match ← arguments.bind [flag] with
    | [silent] => return ⟨.abstract, silent.truth⟩
    | _ => misuse .wrongKind
  | _ => misuse .noSuchOperation

/-- The operation with silence asked for or not. -/
def setSilent (operation : UpdateOperation) (arguments : Arguments) : Outcome UpdateOperation := do
  match ← arguments.bind [⟨"state", some (.bool true)⟩] with
  | [state] => return { operation with silent := state.truth }
  | _ => misuse .wrongKind

end UpdateOperation

end Sparql
