import Sparql.Proofs.Syntax.Group
import Sparql.Query.Text

/-!
# The tokens of queries

A query as tokens, clause by clause as it is written. Terms and raw texts go into a query as they are, so its
text has these tokens if each of its terms is a single token and its raw texts are plain: they hold nothing
that could begin a string, a comment or a group, and close what they open.
-/

namespace Sparql

open Syntax

/-! ## Terms and raw texts -/

/-- The written form of a term. -/
def Term.chars : Term → List Char
  | .iri value => '<' :: (value.toList ++ ['>'])
  | .blank label => '_' :: ':' :: label.toList
  | .literal value => value.chars
  | .variable name => '?' :: name.toList

/-- A term as a token. -/
def Term.token (term : Term) : Token :=
  match term with
  | .iri _ => .iri term.chars
  | .blank _ => .blank term.chars
  | .literal _ => .literal term.chars
  | .variable _ => .variable term.chars

/-- Whether a term is written as a single token. -/
def Term.IsToken (term : Term) : Prop := readToken? term.chars = some (term.token, [])

instance (term : Term) : Decidable term.IsToken := inferInstanceAs (Decidable (_ = _))

/-- The tokens of a raw text. -/
def rawTokens (text : String) : List Token := (lex text.toList).getD []

/-- A character that raw texts do not hold if they are plain. -/
def isStructural (c : Char) : Bool := isQuote c || c = '#' || c = '\x7b' || c = '\x7d'

/-- A text without quotes, hash signs and braces, whose parentheses are balanced. A parenthesis inside an IRI
is a character of the IRI. -/
structure IsPlain (text : String) : Prop where
  notStructural : ∀ c ∈ text.toList, isStructural c = false
  balanced : IsBalanced '(' ')' (rawTokens text)

instance (text : String) : Decidable (IsPlain text) :=
  decidable_of_iff (text.toList.any isStructural = false ∧ IsBalanced '(' ')' (rawTokens text))
    ⟨fun both => ⟨by simpa using both.1, both.2⟩, fun plain => ⟨by simpa using plain.1, plain.2⟩⟩

/-! ## Clauses -/

/-- Whether a term can relate two others: an IRI or a variable. -/
def Term.isVerb (term : Term) : Bool := !(term.isLiteral || term.isBlank)

/-- A predicate as a token. -/
def Pattern.predicateToken (pattern : Pattern) : Token :=
  if pattern.predicate = .iri Vocabulary.rdfType then .word ['a'] else pattern.predicate.token

/-- A pattern as tokens. -/
def Pattern.tokens (pattern : Pattern) : List Token :=
  [pattern.subject.token, pattern.predicateToken, pattern.object.token, .mark '.']

/-- A filter as tokens. -/
def filterTokens (body : List Token) : List Token := .keyword .filter :: bracketed body

/-- An optional part as tokens. -/
def OptionalGroup.tokens (group : OptionalGroup) : List Token :=
  .keyword .optional :: braced (group.patterns.flatMap Pattern.tokens
    ++ group.filters.flatMap fun filter => filterTokens (rawTokens filter.text))

namespace BindBranch

/-- The test that a variable equals one of some IRIs, as tokens. -/
def testTokens (name : String) (iris : List String) : List Token :=
  List.intercalate [.mark '|', .mark '|'] <| iris.map fun iri =>
    [(Term.variable name).token, .mark '=', (Term.iri iri).token]

/-- A binding of a variable to a plain text, as tokens. -/
def bindTokens (name value : String) : List Token :=
  .keyword .bind :: bracketed [(Term.literal (.plain value)).token, .keyword .as, (Term.variable name).token]

/-- A branch of a tagged union as tokens. -/
def tokens (branch : BindBranch) : List Token :=
  braced (branch.patterns.flatMap Pattern.tokens
    ++ branch.filters.flatMap (fun filter => filterTokens (testTokens filter.1 filter.2))
    ++ branch.binds.flatMap fun binding => bindTokens binding.1 binding.2)

end BindBranch

/-- A tagged union as tokens. -/
def BindUnion.tokens (block : BindUnion) : List Token :=
  let body := joinWith (.keyword .union) (block.branches.map BindBranch.tokens)
  if block.optional then .keyword .optional :: braced body else body

/-- A cell of inline data as a token. -/
def cellToken : Option Term → Token
  | none => .word "UNDEF".toList
  | some term => term.token

/-- Inline data as tokens. -/
def ValuesBlock.tokens (block : ValuesBlock) : List Token :=
  .keyword .values :: bracketed (block.names.map fun name => (Term.variable name).token)
    ++ braced (block.rows.flatMap fun row => bracketed (row.map cellToken))

/-! ## Groups -/

/-- A sub-query as tokens, given those of its text. -/
def subqueryTokens (text : List Token) : List Token := braced text ++ [.mark '.']

/-- A federated part as tokens. -/
def serviceTokens (site : ServiceSite) (group : List Token) : List Token :=
  .keyword .service :: (if site.silent then [.keyword .silent] else []) ++ site.endpoint.token :: group

/-- What stands inside the graph of a group, as tokens. -/
def innerTokens (clauses : Clauses) (optionals : List OptionalGroup) (subqueries services : List (List Token)) :
    List Token :=
  subqueries.flatMap subqueryTokens ++ clauses.patterns.flatMap Pattern.tokens
    ++ optionals.flatMap OptionalGroup.tokens
    ++ clauses.filters.flatMap (fun filter => filterTokens (rawTokens filter))
    ++ services.flatten ++ clauses.values.toList.flatMap ValuesBlock.tokens

/-- Tokens inside the graph that encloses them, if there is one. -/
def enclosedTokens (graph : Option Term) (inner : List Token) : List Token :=
  match graph with
  | none => inner
  | some term => .keyword .graph :: term.token :: braced inner

/-- The query's own group as tokens. -/
def ownGroupTokens (clauses : Clauses) (optionals : List OptionalGroup)
    (subqueries services minuses : List (List Token)) : List Token :=
  braced (enclosedTokens clauses.graph (innerTokens clauses optionals subqueries services)
    ++ minuses.flatMap (.keyword .minus :: ·) ++ clauses.bindUnions.flatMap BindUnion.tokens)

/-- A group with its union branches as tokens. -/
def unionTokens (own : List Token) (unions : List (List Token)) : List Token :=
  if unions.isEmpty then own else braced (joinWith (.keyword .union) (own :: unions))

/-! ## Texts -/

/-- The keyword of a form. -/
def Form.token : Form → Token
  | ask => .keyword .ask
  | select => .keyword .select
  | describe => .keyword .describe
  | construct => .keyword .construct

/-- A count as tokens. -/
def countTokens (distinct : Bool) (target : CountTarget) (result : String) : List Token :=
  let name := match target with
    | .solutions => .mark '*'
    | .variable name => (Term.variable name).token
  bracketed (.word "COUNT".toList :: bracketed ((if distinct then [.word "DISTINCT".toList] else []) ++ [name])
    ++ [.keyword .as, (Term.variable result).token])

/-- What stands behind the form of a projecting query, as tokens. -/
def projectionTokens (clauses : Clauses) : List Token :=
  let onlyCounts := clauses.projection.isEmpty && !clauses.counts.isEmpty
  let modifiers := (if clauses.distinct && !onlyCounts then [.word "DISTINCT".toList] else [])
    ++ (if clauses.reduced then [.word "REDUCED".toList] else [])
  if clauses.projection.isEmpty && clauses.counts.isEmpty then modifiers ++ [.mark '*']
  else modifiers ++ clauses.projection.map Term.token
    ++ clauses.counts.flatMap fun count => countTokens clauses.distinct count.1 count.2

/-- What stands between the form and the graphs, as tokens. -/
def formTokens (clauses : Clauses) : List Token :=
  match clauses.form with
  | .ask => []
  | .select | .describe => projectionTokens clauses
  | .construct => braced (clauses.template.flatMap Pattern.tokens)

/-- What stands before the group of a query, as tokens. -/
def headTokens (clauses : Clauses) : List Token :=
  clauses.prologue.flatMap (fun declaration => .keyword .prologue :: rawTokens declaration)
    ++ clauses.form.token :: formTokens clauses
    ++ clauses.fromGraphs.flatMap fun graph => [.word "FROM".toList, graph.token]

/-- An order or group entry as tokens. -/
def OrderCondition.tokens : OrderCondition → List Token
  | .expression text => rawTokens text
  | .variable name none => [(Term.variable name).token]
  | .variable name (some direction) =>
    .word (Text.uppered direction).toList :: bracketed [(Term.variable name).token]

/-- A keyword of two words and the entries after it, as tokens. -/
def conditionTokens (word : String) (conditions : List OrderCondition) : List Token :=
  if conditions.isEmpty then []
  else [.word word.toList, .word "BY".toList] ++ conditions.flatMap OrderCondition.tokens

/-- A keyword and a number as tokens. -/
def boundTokens (word : String) (bound : Option Int) : List Token :=
  bound.toList.flatMap fun value => .word word.toList :: rawTokens (toString value)

/-- What stands behind the group of a query, as tokens. -/
def modifierTokens (clauses : Clauses) : List Token :=
  conditionTokens "GROUP" clauses.groupBy ++ conditionTokens "ORDER" clauses.orderBy
    ++ boundTokens "OFFSET" clauses.offset ++ boundTokens "LIMIT" clauses.limit

namespace QueryTree

/-- Whether the text of a query has no group: it describes nothing in particular. -/
def isGroupless (tree : QueryTree) : Bool := tree.clauses.form = .describe && tree.hasEmptyGroup

/-- A whole query as tokens, given its group. -/
def tokensAround (tree : QueryTree) (group : List Token) : List Token :=
  headTokens tree.clauses ++ (if tree.isGroupless then [] else .keyword .where :: group)
    ++ modifierTokens tree.clauses

mutual

/-- The group of a query as tokens. -/
def groupTokens : QueryTree → List Token
  | node clauses optionals subqueries unions minuses services =>
    unionTokens (ownGroupTokens clauses optionals (textTokens subqueries) (serviceGroupTokens services)
      (groupsTokens minuses)) (groupsTokens unions)

/-- The groups of several queries as tokens. -/
def groupsTokens : List QueryTree → List (List Token)
  | [] => []
  | tree :: rest => groupTokens tree :: groupsTokens rest

/-- The federated parts of several services as tokens. -/
def serviceGroupTokens : List (ServiceSite × QueryTree) → List (List Token)
  | [] => []
  | (site, tree) :: rest => serviceTokens site (groupTokens tree) :: serviceGroupTokens rest

/-- The texts of several queries as tokens. -/
def textTokens : List QueryTree → List (List Token)
  | [] => []
  | tree :: rest => tree.tokensAround (groupTokens tree) :: textTokens rest

end

end QueryTree

/-! ## What goes into a query -/

/-- The terms of an optional part. -/
def OptionalGroup.terms (group : OptionalGroup) : List Term := group.patterns.flatMap Pattern.terms

/-- The terms of a branch of a tagged union. -/
def BindBranch.terms (branch : BindBranch) : List Term :=
  branch.patterns.flatMap Pattern.terms
    ++ branch.filters.flatMap (fun filter => .variable filter.1 :: filter.2.map .iri)
    ++ branch.binds.flatMap fun binding => [.variable binding.1, .literal (.plain binding.2)]

/-- The terms of inline data. -/
def ValuesBlock.terms (block : ValuesBlock) : List Term :=
  block.names.map .variable ++ block.rows.flatMap fun row => row.flatMap Option.toList

/-- The variables of a count. -/
def countTerms (target : CountTarget) (result : String) : List Term :=
  match target with
  | .solutions => [.variable result]
  | .variable name => [.variable name, .variable result]

/-- The variable of an order or group entry, if it is one. -/
def OrderCondition.terms : OrderCondition → List Term
  | .expression _ => []
  | .variable name _ => [.variable name]

/-- The text of an order or group entry, if it is one. -/
def OrderCondition.expressions : OrderCondition → List String
  | .expression text => [text]
  | .variable _ _ => []

namespace Clauses

/-- The terms of the clauses. -/
def terms (clauses : Clauses) : List Term :=
  clauses.projection ++ clauses.counts.flatMap (fun count => countTerms count.1 count.2)
    ++ clauses.template.flatMap Pattern.terms ++ clauses.fromGraphs
    ++ clauses.patterns.flatMap Pattern.terms ++ clauses.values.toList.flatMap ValuesBlock.terms
    ++ clauses.bindUnions.flatMap (fun block => block.branches.flatMap BindBranch.terms)
    ++ clauses.graph.toList ++ (clauses.groupBy ++ clauses.orderBy).flatMap OrderCondition.terms

/-- The raw texts of the clauses. -/
def rawTexts (clauses : Clauses) : List String :=
  clauses.filters ++ (clauses.groupBy ++ clauses.orderBy).flatMap OrderCondition.expressions
    ++ clauses.prologue

end Clauses

namespace QueryTree

/-- The terms of a query, those of the queries that hang on it apart. -/
def terms : QueryTree → List Term
  | node clauses optionals _ _ _ services =>
    clauses.terms ++ optionals.flatMap OptionalGroup.terms ++ services.map fun service => service.1.endpoint

/-- The raw texts of a query, those of the queries that hang on it apart. -/
def rawTexts : QueryTree → List String
  | node clauses optionals _ _ _ _ =>
    clauses.rawTexts ++ optionals.flatMap fun group => group.filters.map FilterExpression.text

/-- The patterns in the group of a query, those of the queries that hang on it apart. -/
def patterns : QueryTree → List Pattern
  | node clauses optionals _ _ _ _ =>
    clauses.patterns ++ clauses.bindUnions.flatMap (fun block => block.branches.flatMap BindBranch.patterns)
      ++ optionals.flatMap OptionalGroup.patterns

/-- The optional parts of a query. -/
def optionals : QueryTree → List OptionalGroup
  | node _ optionals _ _ _ _ => optionals

mutual

/-- A query and all that hang on it. -/
def within : QueryTree → List QueryTree
  | node clauses optionals subqueries unions minuses services =>
    node clauses optionals subqueries unions minuses services ::
      (withinAll subqueries ++ withinAll unions ++ withinAll minuses ++ withinServices services)

/-- Several queries and all that hang on them. -/
def withinAll : List QueryTree → List QueryTree
  | [] => []
  | tree :: rest => within tree ++ withinAll rest

/-- The queries of several services and all that hang on them. -/
def withinServices : List (ServiceSite × QueryTree) → List QueryTree
  | [] => []
  | (_, tree) :: rest => within tree ++ withinServices rest

end

theorem mem_within (tree : QueryTree) : tree ∈ tree.within := by
  cases tree
  exact List.mem_cons_self

section Trans

variable {part inner : QueryTree}

mutual

/-- What hangs on a part of a query hangs on the query. -/
theorem mem_within_trans (tree : QueryTree) (isPart : part ∈ tree.within) (isInner : inner ∈ part.within) :
    inner ∈ tree.within := by
  cases tree with
  | node clauses optionals subqueries unions minuses services =>
      simp only [within, List.mem_cons, List.mem_append] at isPart ⊢
      rcases isPart with rfl | ((inSubqueries | inUnions) | inMinuses) | inServices
      · simpa only [within, List.mem_cons, List.mem_append] using isInner
      · exact .inr (.inl (.inl (.inl (mem_withinAll_trans subqueries inSubqueries isInner))))
      · exact .inr (.inl (.inl (.inr (mem_withinAll_trans unions inUnions isInner))))
      · exact .inr (.inl (.inr (mem_withinAll_trans minuses inMinuses isInner)))
      · exact .inr (.inr (mem_withinServices_trans services inServices isInner))

theorem mem_withinAll_trans (trees : List QueryTree) (isPart : part ∈ withinAll trees) (isInner : inner ∈ part.within) :
    inner ∈ withinAll trees := by
  cases trees with
  | nil => cases isPart
  | cons tree rest =>
      refine List.mem_append.mpr ((List.mem_append.mp isPart).imp ?_ ?_)
      · exact fun isPart => mem_within_trans tree isPart isInner
      · exact fun isPart => mem_withinAll_trans rest isPart isInner

theorem mem_withinServices_trans (services : List (ServiceSite × QueryTree)) (isPart : part ∈ withinServices services)
    (isInner : inner ∈ part.within) : inner ∈ withinServices services := by
  cases services with
  | nil => cases isPart
  | cons service rest =>
      rcases service with ⟨site, tree⟩
      refine List.mem_append.mpr ((List.mem_append.mp isPart).imp ?_ ?_)
      · exact fun isPart => mem_within_trans tree isPart isInner
      · exact fun isPart => mem_withinServices_trans rest isPart isInner

end

end Trans

/-- Whether the terms of a query are single tokens, its raw texts are plain, and the predicates of its patterns can
stand there. -/
structure IsReadable (tree : QueryTree) : Prop where
  terms : ∀ term ∈ tree.terms, term.IsToken
  rawTexts : ∀ text ∈ tree.rawTexts, IsPlain text
  verbs : ∀ pattern ∈ tree.patterns, pattern.predicate.isVerb

instance (tree : QueryTree) : Decidable tree.IsReadable :=
  decidable_of_iff ((∀ term ∈ tree.terms, term.IsToken) ∧ (∀ text ∈ tree.rawTexts, IsPlain text) ∧
      ∀ pattern ∈ tree.patterns, pattern.predicate.isVerb)
    ⟨fun all => ⟨all.1, all.2.1, all.2.2⟩, fun readable => ⟨readable.1, readable.2, readable.3⟩⟩

/-- Whether the tagged unions of a query have branches. -/
def HasBranches (tree : QueryTree) : Prop := ∀ block ∈ tree.clauses.bindUnions, block.branches ≠ []

/-- Whether a query can be read: besides, its tagged unions have branches, and where its entries have a direction, it
is one of the two. -/
structure IsLegible (tree : QueryTree) : Prop extends tree.IsReadable where
  branches : tree.HasBranches
  directions : ∀ name direction,
    .variable name (some direction) ∈ tree.clauses.groupBy ++ tree.clauses.orderBy → direction ∈ Sparql.directions

end QueryTree

end Sparql
