import Sparql.Term.Basic

/-!
# Graphs and what they are read into

A graph is a set of statements, kept as a list in which each stands once. What a document says is read into a
sink: a single graph, or a dataset, which keeps the statements of several graphs apart.
-/

namespace Sparql.Graph

/-- The statements with one more, unless it is among them. -/
def insert (statements : List Statement) (statement : Statement) : List Statement :=
  if statements.any (·.same statement) then statements else statements ++ [statement]

/-- The statements in order, each once. -/
def distinct (statements : List Statement) : List Statement := statements.foldl insert []

/-- A statement and the name of its graph, if it is named. -/
structure Quad where
  statement : Statement
  graph : Option Term := none
deriving DecidableEq, Repr

/-- A statement of a dataset, with the graphs it stands in; the one without a name is the default. -/
structure Entry where
  statement : Statement
  graphs : List (Option Term)
deriving DecidableEq, Repr

/-- The entries of a dataset with a quad. A statement that is there stands in one more graph, unless it stands in
that one too. -/
def addEntry (quad : Quad) : List Entry → List Entry
  | [] => [⟨quad.statement, [quad.graph]⟩]
  | entry :: rest =>
    if entry.statement.same quad.statement then
      { entry with graphs := if entry.graphs.contains quad.graph then entry.graphs else entry.graphs ++ [quad.graph] }
        :: rest
    else entry :: addEntry quad rest

/-- What a document is read into. -/
inductive Sink where
  /-- A single graph, to which the names of graphs mean nothing. -/
  | graph (statements : List Statement)
  /-- Several graphs. Listed, they are all of them together if `unites`, and else the default one. -/
  | dataset (unites : Bool) (entries : List Entry)
deriving Repr

namespace Sink

/-- The sink with a quad. -/
def add (sink : Sink) (quad : Quad) : Sink :=
  match sink with
  | .graph statements => .graph (insert statements quad.statement)
  | .dataset unites entries => .dataset unites (addEntry quad entries)

/-- The statements that a sink lists. -/
def statements : Sink → List Statement
  | .graph statements => statements
  | .dataset unites entries => (entries.filter fun entry => unites || entry.graphs.contains none).map Entry.statement

end Sink

end Sparql.Graph
