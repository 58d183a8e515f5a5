import Sparql.Query.Basic
import Sparql.Text.Case

/-!
# Query text

A query is written as words with single spaces between them. The group of a query holds, inside the graph
that encloses it if there is one, its sub-queries, patterns, optional parts, filters, services and inline
data, in this order; its minuses and tagged unions stand outside that graph. A query with union branches
has its own group as the first of them.
-/

namespace Sparql

/-- Words with single spaces between them. -/
def spaced (words : List String) : String := String.intercalate " " words

/-- The text of an order or group entry. -/
def OrderCondition.toText : OrderCondition → String
  | .expression text => text
  | .variable name none => variableText name
  | .variable name (some direction) => Text.uppered direction ++ "(" ++ variableText name ++ ")"

/-- A filter. -/
def filterText (expression : String) : String := "FILTER(" ++ expression ++ ")"

/-- An optional part. -/
def OptionalGroup.words (group : OptionalGroup) : Except RenderError (List String) := do
  let patterns ← Pattern.renderAll group.patterns
  return "OPTIONAL \x7b" :: patterns ++ group.filters.map (filterText ·.text) ++ ["\x7d"]

namespace BindBranch

/-- The test that a variable equals one of some IRIs. -/
def testText (name : String) (iris : List String) : Except RenderError String := do
  let tests ← iris.mapM fun iri => (renderIri iri).map fun text => variableText name ++ " = " ++ text
  return String.intercalate " || " tests

/-- A binding of a variable to a plain text. -/
def bindText (name value : String) : String :=
  "BIND(" ++ (Literal.plain value).toText ++ " AS " ++ variableText name ++ ")"

/-- A branch: its patterns, its tests and its bindings between braces. -/
def words (branch : BindBranch) : Except RenderError (List String) := do
  let patterns ← Pattern.renderAll branch.patterns
  let tests ← branch.filters.mapM fun (name, iris) => testText name iris
  let binds := branch.binds.map fun (name, value) => bindText name value
  return "\x7b" :: patterns ++ tests.map filterText ++ binds ++ ["\x7d"]

end BindBranch

/-- Parts with a word between each two. -/
def joinWith {α : Type} (word : α) : List (List α) → List α
  | [] => []
  | [part] => part
  | part :: rest => part ++ word :: joinWith word rest

/-- A tagged union. -/
def BindUnion.words (block : BindUnion) : Except RenderError (List String) := do
  let branches ← block.branches.mapM BindBranch.words
  let body := joinWith "UNION" branches
  return if block.optional then "OPTIONAL \x7b" :: body ++ ["\x7d"] else body

/-- A cell of inline data. -/
def cellText : Option Term → Except RenderError String
  | none => .ok "UNDEF"
  | some term => term.render

/-- A row of inline data. -/
def rowWords (row : List (Option Term)) : Except RenderError (List String) := do
  let cells ← row.mapM cellText
  return ["(", spaced cells, ")"]

/-- Inline data. -/
def ValuesBlock.words (block : ValuesBlock) : Except RenderError (List String) := do
  let rows ← block.rows.mapM rowWords
  return ("VALUES (" ++ spaced (block.names.map variableText) ++ ") \x7b") :: rows.flatten ++ ["\x7d"]

/-- A sub-query between braces. -/
def subqueryText (text : String) : String := "\x7b " ++ text ++ " \x7d ."

/-! Nested queries are given as they come out. Of several parts that cannot be written, the first one in the
order of the text tells why. -/

/-- What writing some words comes to. -/
abbrev Written := Except RenderError (List String)

/-- What writing several parts comes to. -/
abbrev WrittenParts := Except RenderError (List (List String))

/-- A federated part, given its group. -/
def serviceWords (site : ServiceSite) (group : Written) : Written := do
  let endpoint ← site.endpoint.render
  let group ← group
  return "SERVICE" :: (if site.silent then ["SILENT"] else []) ++ endpoint :: group

/-- The words inside the graph of a group, given what its nested queries come to. -/
def innerWords (clauses : Clauses) (optionals : List OptionalGroup) (subqueries : Written)
    (services : WrittenParts) : Written := do
  let subqueries ← subqueries
  let patterns ← Pattern.renderAll clauses.patterns
  let optionals ← optionals.mapM OptionalGroup.words
  let services ← services
  let values ← match clauses.values with
    | none => .ok []
    | some block => block.words
  return subqueries.map subqueryText ++ patterns ++ optionals.flatten ++ clauses.filters.map filterText
    ++ services.flatten ++ values

/-- The words inside the graph that encloses them, if there is one. -/
def enclosedWords (graph : Option Term) (inner : Written) : Written :=
  match graph with
  | none => inner
  | some term => do
    let name ← term.render
    let inner ← inner
    return ("GRAPH " ++ name) :: "\x7b" :: inner ++ ["\x7d"]

/-- The query's own group, given what its nested queries come to. -/
def ownGroupWords (clauses : Clauses) (optionals : List OptionalGroup) (subqueries : Written)
    (services minuses : WrittenParts) : Written := do
  let enclosed ← enclosedWords clauses.graph (innerWords clauses optionals subqueries services)
  let minuses ← minuses
  let bindUnions ← clauses.bindUnions.mapM BindUnion.words
  return "\x7b" :: enclosed ++ (minuses.map ("MINUS" :: ·)).flatten ++ bindUnions.flatten ++ ["\x7d"]

/-- A group with its union branches, the own one first. -/
def unionWords (own : List String) (unions : List (List String)) : List String :=
  if unions.isEmpty then own else "\x7b" :: joinWith "UNION" (own :: unions) ++ ["\x7d"]

/-- A count, distinct if the query is. -/
def countText (distinct : Bool) (target : CountTarget) (result : String) : String :=
  let name := match target with
    | .solutions => "*"
    | .variable name => variableText name
  "(COUNT(" ++ (if distinct then "DISTINCT " ++ name else name) ++ ") AS " ++ variableText result ++ ")"

/-- The words after the form of a projecting query. Distinctness belongs to the counts when they are all
there is. -/
def projectionWords (clauses : Clauses) : Except RenderError (List String) := do
  let onlyCounts := clauses.projection.isEmpty && !clauses.counts.isEmpty
  let modifiers := (if clauses.distinct && !onlyCounts then ["DISTINCT"] else [])
    ++ (if clauses.reduced then ["REDUCED"] else [])
  if clauses.projection.isEmpty && clauses.counts.isEmpty then return modifiers ++ ["*"]
  let terms ← clauses.projection.mapM Term.render
  return modifiers ++ terms ++ clauses.counts.map fun (target, result) =>
    countText clauses.distinct target result

/-- The words between the form and the graphs. -/
def headWords (clauses : Clauses) : Except RenderError (List String) :=
  match clauses.form with
  | .ask => .ok []
  | .select | .describe => projectionWords clauses
  | .construct => do
    let template ← Pattern.renderAll clauses.template
    return "\x7b" :: template ++ ["\x7d"]

/-- A keyword and the entries after it, if there are any. -/
def conditionWords (keyword : String) (conditions : List OrderCondition) : List String :=
  if conditions.isEmpty then [] else keyword :: conditions.map OrderCondition.toText

/-- A keyword and a number, if there is one. -/
def boundWords (keyword : String) : Option Int → Except RenderError (List String)
  | none => .ok []
  | some value => if Number.isLong value then .error .longNumber else .ok [keyword ++ " " ++ toString value]

/-- The words after the group. -/
def modifierWords (clauses : Clauses) : Except RenderError (List String) := do
  let offset ← boundWords "OFFSET" clauses.offset
  let limit ← boundWords "LIMIT" clauses.limit
  return conditionWords "GROUP BY" clauses.groupBy ++ conditionWords "ORDER BY" clauses.orderBy ++ offset ++ limit

/-- The declarations before the form. -/
def prologueWords (clauses : Clauses) : List String := clauses.prologue.map ("PREFIX " ++ ·)

namespace QueryTree

/-- The whole query, given its group. A description of nothing in particular has no group. -/
def textAround (tree : QueryTree) (group : Written) : Except RenderError String := do
  let clauses := tree.clauses
  let head ← headWords clauses
  let graphs ← clauses.fromGraphs.mapM fun graph => graph.render.map ("FROM " ++ ·)
  let condition ← if clauses.form = .describe && tree.hasEmptyGroup then .ok [] else group.map ("WHERE" :: ·)
  let modifiers ← modifierWords clauses
  return spaced (prologueWords clauses ++ clauses.form.keyword :: head ++ graphs ++ condition ++ modifiers)

mutual

/-- The group of a query, union branches included. -/
def groupWords : QueryTree → Written
  | node clauses optionals subqueries unions minuses services => do
    let own ← ownGroupWords clauses optionals (texts subqueries) (serviceGroups services) (groups minuses)
    let unions ← groups unions
    return unionWords own unions

/-- The groups of several queries. -/
def groups : List QueryTree → WrittenParts
  | [] => .ok []
  | tree :: rest => do
    let group ← groupWords tree
    let others ← groups rest
    return group :: others

/-- The federated parts of several services. -/
def serviceGroups : List (ServiceSite × QueryTree) → WrittenParts
  | [] => .ok []
  | (site, tree) :: rest => do
    let service ← serviceWords site (groupWords tree)
    let others ← serviceGroups rest
    return service :: others

/-- The texts of several queries. -/
def texts : List QueryTree → Written
  | [] => .ok []
  | tree :: rest => do
    let text ← tree.textAround (groupWords tree)
    let others ← texts rest
    return text :: others

end

/-- The text of a query. -/
def render (tree : QueryTree) : Except RenderError String := tree.textAround tree.groupWords

end QueryTree

end Sparql
