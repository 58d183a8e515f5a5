import Sparql.Value.Display

/-!
# Refused arguments

Every way in which an argument of a builder call, an update operation or an exchange can be refused, with
its message. The offending value is part of the cause.
-/

namespace Sparql

/-- The clauses that take branches. -/
inductive BranchClause where
  | union
  | minus
  | service
deriving DecidableEq, Repr

/-- The keyword of a clause. -/
def BranchClause.keyword : BranchClause → String
  | .union => "UNION"
  | .minus => "MINUS"
  | .service => "SERVICE"

/-- Why an argument is refused. -/
inductive ConstructionError where
  | notVariableName (value : Value)
  | notTerm (value : Value)
  | notResource (value : Value)
  | notIri (value : Value)
  | notThreeTerms (value : Value)
  | literalSubject (value : Value)
  | badPredicate (value : Value)
  | filterNotText (value : Value)
  | badDirection (value : Value)
  | keyNotVariable (value : Value)
  | notOrderPair (value : Value)
  | pairNotVariable (value : Value)
  | badOrderEntry (value : Value)
  | notInteger (clause : String) (value : Value)
  | negative (clause : String) (value : Int)
  | variableCell (value : Value)
  | badCell (value : Value)
  | notBindBranch (value : Value)
  | bindsNotMappings
  | unknownForm (value : Value)
  | emptyTemplate
  | branchesAndBlock (clause : BranchClause)
  | noBranches (clause : BranchClause)
  | mixedBranches (clause : BranchClause)
  | manyServiceQueries
  | noBindBranches
  | noValuesVariables
  | mixedValuesRows
  | notValuesRow (value : Value)
  | valuesRowLength (cells : List Value) (expected : Nat)
  | noFromGraphs
  | emptyPrologue
  | badPrologue (value : Value)
  | unboundQuery
  | updateAsQuery
  | unknownKeyword (text : String)
  | dataNotIterable (operation : String)
  | dataWithVariables (operation : String) (pattern : Pattern)
  | emptyDeleteInsert
  | graphAndTarget (operation : String)
  | badTarget (operation : String) (value : Value)
  | noTarget (operation : String)
deriving Repr

/-- The value that a cause is about and that its wording shows, if there is one. -/
def ConstructionError.shown? : ConstructionError → Option Value
  | .notVariableName value | .notTerm value | .notResource value | .notIri value | .notThreeTerms value
  | .literalSubject value | .badPredicate value | .filterNotText value | .badDirection value
  | .keyNotVariable value | .notOrderPair value | .pairNotVariable value | .badOrderEntry value
  | .notInteger _ value | .variableCell value | .badCell value | .notBindBranch value | .unknownForm value
  | .notValuesRow value | .badPrologue value | .badTarget _ value => some value
  | .negative _ value => some (.int value)
  | .valuesRowLength cells _ => some (.list cells)
  | _ => none

/-- The wording of each cause. -/
def ConstructionError.message : ConstructionError → String
  | .notVariableName value => "Not a variable name: " ++ value.display
  | .notTerm value => "Cannot use " ++ value.kindName ++ " as an RDF term: " ++ value.display
  | .notResource value => "Expected an IRI or variable, got " ++ value.display
  | .notIri value => "Expected an IRI, got " ++ value.display
  | .notThreeTerms value => "A triple pattern needs exactly 3 terms, got " ++ value.display
  | .literalSubject value => "Literal in subject position: " ++ value.display
  | .badPredicate value => "Predicate must be an IRI or variable: " ++ value.display
  | .filterNotText value => "Filter expression must be a string, got " ++ value.display
  | .badDirection value => "Direction must be 'asc' or 'desc', got " ++ value.display
  | .keyNotVariable value => "Mapping keys must be variables, got " ++ value.display
  | .notOrderPair value => "Order pair must have two elements, got " ++ value.display
  | .pairNotVariable value =>
    "First element of an order pair must be a variable, got " ++ value.display
  | .badOrderEntry value =>
    "Order/group entries must be variables, (variable, direction) pairs, "
      ++ "mappings or expression strings, got " ++ value.display
  | .notInteger clause value => clause ++ " must be an integer, got " ++ value.display
  | .negative clause value => clause ++ " must be >= 0, got " ++ toString value
  | .variableCell value => "VALUES cells cannot be variables: " ++ value.display
  | .badCell value => "VALUES cells must be RDF terms, strings or None, got " ++ value.display
  | .notBindBranch value => "Bind branch must be (patterns, binds, filters), got " ++ value.display
  | .bindsNotMappings => "Bind branch binds and filters must be mappings"
  | .unknownForm value => "Unknown query form: " ++ value.display
  | .emptyTemplate => "CONSTRUCT needs at least one template pattern"
  | .branchesAndBlock clause => clause.keyword ++ " takes either arguments or a block, not both"
  | .noBranches clause => clause.keyword ++ " needs triple patterns, queries or a block"
  | .mixedBranches clause => clause.keyword ++ " arguments are triple patterns or queries, not both"
  | .manyServiceQueries => "SERVICE takes exactly one query"
  | .noBindBranches => "union_with_bind needs at least one branch"
  | .noValuesVariables => "VALUES needs at least one variable"
  | .mixedValuesRows => "VALUES data must all be rows or all be scalars"
  | .notValuesRow value => "VALUES row must be a list, got " ++ value.display
  | .valuesRowLength cells expected =>
    "VALUES row " ++ (Value.list cells).display ++ " has " ++ toString cells.length
      ++ " cells, expected " ++ toString expected
  | .noFromGraphs => "FROM needs at least one graph IRI"
  | .emptyPrologue => "prefix needs a declaration string or a name → IRI mapping"
  | .badPrologue value => "prefix must be a string or a mapping, got " ++ value.display
  | .unboundQuery => "Query is not bound to a client"
  | .updateAsQuery => "Update text must be sent with update()"
  | .unknownKeyword text =>
    "Cannot detect query form of: " ++ Text.quoted (String.ofList (text.toList.take 80))
  | .dataNotIterable operation => operation ++ " data must be an iterable of triples"
  | .dataWithVariables operation pattern =>
    operation ++ " data must not contain variables: " ++ Value.displayPattern pattern
  | .emptyDeleteInsert => "DELETE/INSERT needs a delete or an insert template"
  | .graphAndTarget operation => operation ++ " takes a graph or a target, not both"
  | .badTarget operation value =>
    operation ++ " target must be one of ('default', 'named', 'all'), got " ++ value.display
  | .noTarget operation => operation ++ " needs a graph or a target"

end Sparql
