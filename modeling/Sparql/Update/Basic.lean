import Sparql.Term.Pattern

/-!
# Update operations

The operations that change a store, and the text of each. Data and templates are blocks of triples, which a
graph name may enclose.
-/

namespace Sparql

/-- Which graphs a management operation acts on. -/
inductive GraphTarget where
  | graph (iri : String)
  | default
  | named
  | all
deriving DecidableEq, Repr

/-- What an operation does. -/
inductive UpdateAction where
  | insertData (data : List Pattern) (graph : Option String)
  | deleteData (data : List Pattern) (graph : Option String)
  | deleteInsert (delete insert condition : List Pattern) (graph : Option String)
  | load (source : String) (into : Option String)
  | clear (target : GraphTarget)
  | drop (target : GraphTarget)
  | create (graph : String)
  /-- An operation of no particular kind, which has no text. -/
  | abstract
deriving DecidableEq, Repr

/-- An operation, and whether the store shall pass over a failure of it. -/
structure UpdateOperation where
  action : UpdateAction
  silent : Bool := false
deriving DecidableEq, Repr

namespace UpdateAction

/-- The name of the operation's kind. -/
def kindName : UpdateAction → String
  | .insertData .. => "InsertData"
  | .deleteData .. => "DeleteData"
  | .deleteInsert .. => "DeleteInsert"
  | .load .. => "Load"
  | .clear .. => "Clear"
  | .drop .. => "Drop"
  | .create .. => "Create"
  | .abstract => "UpdateOperation"

end UpdateAction

namespace UpdateOperation

/-- Words between braces. -/
def braces (words : List String) : List String := "\x7b" :: words ++ ["\x7d"]

/-- Triples between braces. -/
def block (patterns : List Pattern) : Except RenderError (List String) :=
  (Pattern.renderAll patterns).map braces

/-- Triples between braces, inside those of a graph if one is given. -/
def graphBlock (patterns : List Pattern) : Option String → Except RenderError (List String)
  | none => block patterns
  | some graph => do
    let inner ← block patterns
    let name ← renderIri graph
    return braces (("GRAPH " ++ name) :: inner)

/-- The words of a target. -/
def targetWords : GraphTarget → Except RenderError (List String)
  | .graph iri => (renderIri iri).map fun name => ["GRAPH", name]
  | .default => .ok ["DEFAULT"]
  | .named => .ok ["NAMED"]
  | .all => .ok ["ALL"]

/-- The word that asks for silence. -/
def silence (silent : Bool) : List String := if silent then ["SILENT"] else []

/-- A keyword and a block, unless the block's template is empty. -/
def templateWords (keyword : String) (patterns : List Pattern) : Except RenderError (List String) :=
  if patterns.isEmpty then .ok [] else (block patterns).map (keyword :: ·)

/-- The words of an operation; one of no particular kind has none. -/
def words? (operation : UpdateOperation) : Option (Except RenderError (List String)) :=
  match operation.action with
  | .insertData data graph => some ((graphBlock data graph).map ("INSERT DATA" :: ·))
  | .deleteData data graph => some ((graphBlock data graph).map ("DELETE DATA" :: ·))
  | .deleteInsert delete insert condition graph => some do
    let scope ← match graph with
      | none => .ok []
      | some iri => (renderIri iri).map fun name => ["WITH " ++ name]
    let deletion ← templateWords "DELETE" delete
    let insertion ← templateWords "INSERT" insert
    let condition ← block condition
    return scope ++ deletion ++ insertion ++ "WHERE" :: condition
  | .load source into => some do
    let source ← renderIri source
    let destination ← match into with
      | none => .ok []
      | some iri => (renderIri iri).map fun name => ["INTO", "GRAPH", name]
    return "LOAD" :: silence operation.silent ++ source :: destination
  | .clear target => some ((targetWords target).map fun words => "CLEAR" :: silence operation.silent ++ words)
  | .drop target => some ((targetWords target).map fun words => "DROP" :: silence operation.silent ++ words)
  | .create graph => some ((renderIri graph).map fun name =>
      "CREATE" :: silence operation.silent ++ ["GRAPH", name])
  | .abstract => none

end UpdateOperation

end Sparql
