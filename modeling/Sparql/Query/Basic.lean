import Sparql.Term.Pattern

/-!
# Queries

The clauses of a query. Clauses that hold no other query are gathered in `Clauses`; a query as a whole is a
tree, because sub-queries, unions, minuses and services hold queries themselves.
-/

namespace Sparql

/-- What a query asks for. -/
inductive Form where
  | ask
  | select
  | describe
  | construct
deriving DecidableEq, Repr

namespace Form

/-- The name of a form in lower case. -/
def name : Form → String
  | .ask => "ask"
  | .select => "select"
  | .describe => "describe"
  | .construct => "construct"

/-- The keyword of a form. -/
def keyword : Form → String
  | .ask => "ASK"
  | .select => "SELECT"
  | .describe => "DESCRIBE"
  | .construct => "CONSTRUCT"

/-- The form of a name in lower case. -/
def ofName? : String → Option Form
  | "ask" => some .ask
  | "select" => some .select
  | "describe" => some .describe
  | "construct" => some .construct
  | _ => none

/-- Whether the answer is a graph. -/
def expectsStatements : Form → Bool
  | .construct | .describe => true
  | .ask | .select => false

end Form

/-- The directions of an order. -/
def directions : List String := ["asc", "desc"]

/-- One entry of an order or a grouping. -/
inductive OrderCondition where
  | variable (name : String) (direction : Option String)
  | expression (text : String)
deriving DecidableEq, Repr

/-- A filter expression: a text, or a term that stands for its own text. -/
inductive FilterExpression where
  | written (text : String)
  | term (term : Term)
deriving DecidableEq, Repr

/-- The text of a filter expression. -/
def FilterExpression.text : FilterExpression → String
  | written text => text
  | term given => given.plainText

/-- An optional part: patterns, and filters that act inside it only. -/
structure OptionalGroup where
  patterns : List Pattern := []
  filters : List FilterExpression := []
deriving DecidableEq, Repr, Inhabited

/-- Inline data. A missing cell is undefined. -/
structure ValuesBlock where
  names : List String
  rows : List (List (Option Term))
deriving DecidableEq, Repr

/-- A union whose branches tag their solutions. -/
structure BindUnion where
  branches : List BindBranch
  optional : Bool
deriving DecidableEq, Repr

/-- What a count runs over: all solutions, or the values of a variable. -/
inductive CountTarget where
  | solutions
  | variable (name : String)
deriving DecidableEq, Repr

/-- Where a federated part is evaluated, and whether a failure of it is passed over. -/
structure ServiceSite where
  endpoint : Term
  silent : Bool
deriving DecidableEq, Repr

/-- The clauses that hold no other query. -/
structure Clauses where
  form : Form
  projection : List Term := []
  counts : List (CountTarget × String) := []
  template : List Pattern := []
  fromGraphs : List Term := []
  patterns : List Pattern := []
  filters : List String := []
  values : Option ValuesBlock := none
  bindUnions : List BindUnion := []
  graph : Option Term := none
  orderBy : List OrderCondition := []
  groupBy : List OrderCondition := []
  offset : Option Int := none
  limit : Option Int := none
  distinct : Bool := false
  reduced : Bool := false
  prologue : List String := []
deriving DecidableEq, Repr

/-- The names of the graphs that are read, without any mark. -/
def Clauses.graphNames (clauses : Clauses) : List String := clauses.fromGraphs.map Term.plainText

/-- A query with everything that hangs on it. -/
inductive QueryTree where
  | node (clauses : Clauses) (optionals : List OptionalGroup) (subqueries unions minuses : List QueryTree)
      (services : List (ServiceSite × QueryTree))
deriving Repr

namespace QueryTree

/-- The query's own clauses. -/
def clauses : QueryTree → Clauses
  | node clauses .. => clauses

/-- Whether the group has no content at all. -/
def hasEmptyGroup : QueryTree → Bool
  | node clauses optionals subqueries unions minuses services =>
    clauses.patterns.isEmpty && subqueries.isEmpty && optionals.isEmpty && clauses.filters.isEmpty
      && services.isEmpty && clauses.values.isNone && minuses.isEmpty && unions.isEmpty
      && clauses.bindUnions.isEmpty && clauses.graph.isNone

end QueryTree

end Sparql
