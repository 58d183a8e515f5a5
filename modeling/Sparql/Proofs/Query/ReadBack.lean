import Sparql.Proofs.Query.Spelling
import Sparql.Proofs.Syntax.Unique

/-!
# Groups read back as their queries

What the group of a query reads as: its own parts in the order in which the clauses were added, the parts that
a graph encloses before those that stand outside it, and below them the same for every query that hangs on it.
The tokens of the group have this reading and no other.
-/

namespace Sparql

open Syntax

/-! ## Readings -/

/-- A pattern as a part of a group. -/
def Pattern.part (pattern : Pattern) : Part :=
  .triple pattern.subject.token pattern.predicateToken pattern.object.token

/-- An optional part: its patterns and then its filters. -/
def OptionalGroup.part (group : OptionalGroup) : Part :=
  .optional (group.patterns.map Pattern.part
    ++ group.filters.map fun filter => .filter none (rawTokens filter.text))

/-- A branch of a tagged union: its patterns, its tests and its bindings. -/
def BindBranch.parts (branch : BindBranch) : List Part :=
  branch.patterns.map Pattern.part
    ++ branch.filters.map (fun filter => .filter none (testTokens filter.1 filter.2))
    ++ branch.binds.map fun binding =>
      .bind [(Term.literal (.plain binding.2)).token] (Term.variable binding.1).token

/-- A tagged union, which may be optional as a whole. -/
def BindUnion.part (block : BindUnion) : Part :=
  let union := .union (block.branches.map BindBranch.parts)
  if block.optional then .optional [union] else union

/-- Inline data. -/
def ValuesBlock.part (block : ValuesBlock) : Part :=
  .values (block.names.map fun name => (Term.variable name).token)
    (block.rows.map fun row => row.map cellToken)

/-- A sub-query, which is a group by itself. -/
def subqueryPart (query : Part) : Part := .union [[query]]

/-- What stands inside the graph of a group. -/
def innerParts (clauses : Clauses) (optionals : List OptionalGroup) (subqueries services : List Part) :
    List Part :=
  subqueries.map subqueryPart ++ clauses.patterns.map Pattern.part ++ optionals.map OptionalGroup.part
    ++ clauses.filters.map (fun filter => .filter none (rawTokens filter)) ++ services
    ++ clauses.values.toList.map ValuesBlock.part

/-- Parts inside the graph that encloses them, if there is one. -/
def enclosedParts (graph : Option Term) (inner : List Part) : List Part :=
  match graph with
  | none => inner
  | some term => [.graph term.token inner]

/-- The query's own group: what its graph encloses, its minuses and its tagged unions. -/
def ownParts (clauses : Clauses) (optionals : List OptionalGroup) (subqueries services : List Part)
    (minuses : List (List Part)) : List Part :=
  enclosedParts clauses.graph (innerParts clauses optionals subqueries services) ++ minuses.map .minus
    ++ clauses.bindUnions.map BindUnion.part

/-- A group with its union branches: one union, of which the own group is the first branch. -/
def unionParts (own : List Part) (unions : List (List Part)) : List Part :=
  if unions.isEmpty then own else [.union (own :: unions)]

namespace QueryTree

/-- A whole query, given its group. -/
def queryPart (tree : QueryTree) (group : List Part) : Part :=
  if tree.isGroupless then .query (headTokens tree.clauses ++ modifierTokens tree.clauses) none []
  else .query (headTokens tree.clauses) (some group) (modifierTokens tree.clauses)

mutual

/-- What the group of a query reads as. -/
def groupParts : QueryTree → List Part
  | node clauses optionals subqueries unions minuses services =>
    unionParts (ownParts clauses optionals (queryParts subqueries) (serviceParts services) (groupsParts minuses))
      (groupsParts unions)

/-- What the groups of several queries read as. -/
def groupsParts : List QueryTree → List (List Part)
  | [] => []
  | tree :: rest => groupParts tree :: groupsParts rest

/-- What the federated parts of several services read as. -/
def serviceParts : List (ServiceSite × QueryTree) → List Part
  | [] => []
  | (site, tree) :: rest => .service site.silent site.endpoint.token (groupParts tree) :: serviceParts rest

/-- What the texts of several queries read as. -/
def queryParts : List QueryTree → List Part
  | [] => []
  | tree :: rest => tree.queryPart (groupParts tree) :: queryParts rest

end

end QueryTree

/-! ## Tokens -/

theorem Term.isTerm_token (term : Term) : term.token.isTerm := by
  cases term <;> rfl

theorem Pattern.isTriple {pattern : Pattern} (isVerb : pattern.predicate.isVerb) :
    IsTriple pattern.subject.token pattern.predicateToken pattern.object.token := by
  refine ⟨pattern.subject.isTerm_token, ?_, pattern.object.isTerm_token⟩
  unfold predicateToken
  split
  · exact .inr rfl
  · cases isPredicate : pattern.predicate with
    | iri _ => exact .inr rfl
    | «variable» _ => exact .inl rfl
    | blank _ | literal _ => rw [isPredicate] at isVerb; cases isVerb

/-- Tokens without braces. -/
def Braceless (tokens : List Token) : Prop := .mark '{' ∉ tokens ∧ .mark '}' ∉ tokens

namespace Braceless

variable {first second : List Token}

theorem nil : Braceless [] := by simp [Braceless]

theorem append (isFirst : Braceless first) (isSecond : Braceless second) : Braceless (first ++ second) := by
  simp_all [Braceless]

theorem cons {token : Token} (notMark : token ≠ .mark '{' ∧ token ≠ .mark '}') (others : Braceless first) :
    Braceless (token :: first) := by
  simp [Braceless, others.1, others.2, notMark.1.symm, notMark.2.symm]

theorem flatMap {α : Type} {items : List α} {spelling : α → List Token}
    (each : ∀ item ∈ items, Braceless (spelling item)) : Braceless (items.flatMap spelling) := by
  constructor <;> intro mem <;> rcases List.mem_flatMap.mp mem with ⟨item, isItem, mem⟩
  · exact (each item isItem).1 mem
  · exact (each item isItem).2 mem

end Braceless

theorem Term.token_ne_brace (term : Term) : term.token ≠ .mark '{' ∧ term.token ≠ .mark '}' :=
  ⟨term.token_ne_mark '{', term.token_ne_mark '}'⟩

theorem braceless_rawTokens {text : String} (notStructural : ∀ c ∈ text.toList, isStructural c = false) :
    Braceless (rawTokens text) := by
  have noComment : '#' ∉ text.toList := fun mem => by cases notStructural '#' mem
  have isTokens := exists_rawTokens notStructural
  constructor <;> intro mem
  · cases notStructural _ (mem_of_mark_mem noComment isTokens mem)
  · cases notStructural _ (mem_of_mark_mem noComment isTokens mem)

theorem Pattern.braceless (pattern : Pattern) : Braceless pattern.tokens := by
  have predicate : pattern.predicateToken ≠ .mark '{' ∧ pattern.predicateToken ≠ .mark '}' := by
    unfold predicateToken
    split
    · simp
    · exact pattern.predicate.token_ne_brace
  exact .cons pattern.subject.token_ne_brace (.cons predicate
    (.cons pattern.object.token_ne_brace (by simp [Braceless])))

/-! ## Clauses -/

theorem Pattern.isParts {pattern : Pattern} (isVerb : pattern.predicate.isVerb) :
    IsParts pattern.tokens [pattern.part] :=
  .triple (isTriple isVerb)

theorem isParts_patterns {patterns : List Pattern} (verbs : ∀ pattern ∈ patterns, pattern.predicate.isVerb) :
    IsParts (patterns.flatMap Pattern.tokens) (patterns.map Pattern.part) :=
  .map fun pattern mem => Pattern.isParts (verbs pattern mem)

theorem isParts_filter {body : List Token} (balanced : IsBalanced '(' ')' body) :
    IsParts (filterTokens body) [.filter none body] :=
  (IsPart.filter balanced).isParts

theorem OptionalGroup.isParts {group : OptionalGroup} (verbs : ∀ pattern ∈ group.patterns, pattern.predicate.isVerb)
    (arePlain : ∀ filter ∈ group.filters, IsPlain filter.text) : IsParts group.tokens [group.part] := by
  have filters : IsParts (group.filters.flatMap fun filter => filterTokens (rawTokens filter.text))
      (group.filters.map fun filter => .filter none (rawTokens filter.text)) :=
    .map fun filter mem => isParts_filter (arePlain filter mem).balanced
  exact (IsPart.optional ((isParts_patterns verbs).append filters).isGroup).isParts

namespace BindBranch

theorem balanced_testTokens (name : String) (iris : List String) : IsBalanced '(' ')' (testTokens name iris) := by
  unfold testTokens
  induction iris with
  | nil => rfl
  | cons iri iris ih =>
      have test : IsBalanced '(' ')' [(Term.variable name).token, .mark '=', (Term.iri iri).token] := rfl
      cases iris with
      | nil => simpa using test
      | cons second iris =>
          simp only [List.map_cons, List.intercalate_cons_cons] at ih ⊢
          have alternative : IsBalanced '(' ')' [.mark '|', .mark '|'] := rfl
          exact (test.append alternative).append ih

theorem isGroup {branch : BindBranch} (verbs : ∀ pattern ∈ branch.patterns, pattern.predicate.isVerb) :
    IsGroup branch.tokens branch.parts := by
  have filters : IsParts (branch.filters.flatMap fun filter => filterTokens (testTokens filter.1 filter.2))
      (branch.filters.map fun filter => .filter none (testTokens filter.1 filter.2)) :=
    .map fun filter _ => isParts_filter (balanced_testTokens filter.1 filter.2)
  have binds : IsParts (branch.binds.flatMap fun binding => bindTokens binding.1 binding.2)
      (branch.binds.map fun binding =>
        .bind [(Term.literal (.plain binding.2)).token] (Term.variable binding.1).token) := by
    refine .map fun binding _ => ?_
    have balanced : IsBalanced '(' ')' [(Term.literal (.plain binding.2)).token] := rfl
    exact (IsPart.bind rfl balanced).isParts
  exact (((isParts_patterns verbs).append filters).append binds).isGroup

end BindBranch

theorem BindUnion.isParts {block : BindUnion} (hasBranches : block.branches ≠ [])
    (verbs : ∀ branch ∈ block.branches, ∀ pattern ∈ branch.patterns, pattern.predicate.isVerb) :
    IsParts block.tokens [block.part] := by
  have areGroups : List.Forall₂ IsGroup (block.branches.map BindBranch.tokens)
      (block.branches.map BindBranch.parts) := by
    rw [List.forall₂_map_left_iff, List.forall₂_map_right_iff, List.forall₂_same]
    exact fun branch mem => BindBranch.isGroup (verbs branch mem)
  have union := IsPart.union areGroups (by simpa using hasBranches)
  unfold tokens part
  cases block.optional with
  | false => exact union.isParts
  | true => exact (IsPart.optional union.isParts.isGroup).isParts

theorem isCell_cellToken (cell : Option Term) : (cellToken cell).isCell := by
  rcases cell with _ | (_ | _ | _ | _) <;> rfl

theorem ValuesBlock.isParts (block : ValuesBlock) : IsParts block.tokens [block.part] := by
  have names : (block.names.map fun name => (Term.variable name).token).all Token.isVariable := by
    simp [Term.token, Token.isVariable]
  have cells : ∀ row ∈ block.rows.map fun row => row.map cellToken, row.all Token.isCell := by
    intro row mem
    rcases List.mem_map.mp mem with ⟨cells, _, rfl⟩
    simp [isCell_cellToken]
  have values := (IsPart.values names cells).isParts
  simpa [tokens, part, List.flatMap_map] using values

/-! ## Groups -/

section Groups

variable {clauses : Clauses} {optionals : List OptionalGroup} {nested branches removed : List QueryTree}
  {federated : List (ServiceSite × QueryTree)}
  {subqueriesTokens servicesTokens minusesTokens unionsTokens : List (List Token)}
  {queries services : List Part} {minuses unions : List (List Part)}

theorem isParts_inner (readable : (QueryTree.node clauses optionals nested branches removed federated).IsReadable)
    (areQueries : List.Forall₂ (fun tokens query => IsGroup (braced tokens) [query]) subqueriesTokens queries)
    (areServices : List.Forall₂ IsPart servicesTokens services) :
    IsParts (innerTokens clauses optionals subqueriesTokens servicesTokens)
      (innerParts clauses optionals queries services) := by
  have subqueries : IsParts (subqueriesTokens.flatMap subqueryTokens) (queries.map subqueryPart) := by
    refine .flatten (List.forall₂_map_left_iff.mpr (List.forall₂_map_right_iff.mpr ?_))
    refine areQueries.imp fun tokens query isGroup => ?_
    have union := IsPart.union (.cons isGroup .nil) (by simp)
    exact union.isParts_stopped
  have verbs := readable.verbs
  simp only [QueryTree.patterns, List.forall_mem_append, List.forall_mem_flatMap] at verbs
  have patterns : IsParts (clauses.patterns.flatMap Pattern.tokens) (clauses.patterns.map Pattern.part) :=
    isParts_patterns verbs.1.1
  have optional : IsParts (optionals.flatMap OptionalGroup.tokens) (optionals.map OptionalGroup.part) :=
    .map fun group mem => OptionalGroup.isParts (verbs.2 group mem) (readable.optionals_filters group mem)
  have filters : IsParts (clauses.filters.flatMap fun filter => filterTokens (rawTokens filter))
      (clauses.filters.map fun filter => .filter none (rawTokens filter)) :=
    .map fun filter mem => isParts_filter (readable.clauses_rawTexts filter
      (List.mem_append_left _ (List.mem_append_left _ mem))).balanced
  have parts : IsParts servicesTokens.flatten services := .flatten (areServices.imp fun _ _ => IsPart.isParts)
  have values : IsParts (clauses.values.toList.flatMap ValuesBlock.tokens)
      (clauses.values.toList.map ValuesBlock.part) :=
    .map fun block _ => block.isParts
  exact ((((subqueries.append patterns).append optional).append filters).append parts).append values

theorem isParts_enclosed {graph : Option Term} {tokens : List Token} {parts : List Part}
    (isParts : IsParts tokens parts) : IsParts (enclosedTokens graph tokens) (enclosedParts graph parts) := by
  cases graph with
  | none => exact isParts
  | some term => exact (IsPart.graph term.isTerm_token isParts.isGroup).isParts

theorem isGroup_own (legible : (QueryTree.node clauses optionals nested branches removed federated).IsLegible)
    (isInner : IsParts (innerTokens clauses optionals subqueriesTokens servicesTokens)
      (innerParts clauses optionals queries services))
    (areMinuses : List.Forall₂ IsGroup minusesTokens minuses) :
    IsGroup (ownGroupTokens clauses optionals subqueriesTokens servicesTokens minusesTokens)
      (ownParts clauses optionals queries services minuses) := by
  have verbs := legible.verbs
  simp only [QueryTree.patterns, List.forall_mem_append, List.forall_mem_flatMap] at verbs
  have minusParts : IsParts (minusesTokens.flatMap (.keyword .minus :: ·)) (minuses.map .minus) := by
    refine .flatten (List.forall₂_map_left_iff.mpr (List.forall₂_map_right_iff.mpr ?_))
    exact areMinuses.imp fun _ _ isGroup => (IsPart.minus isGroup).isParts
  have blocks : IsParts (clauses.bindUnions.flatMap BindUnion.tokens) (clauses.bindUnions.map BindUnion.part) :=
    .map fun block mem => BindUnion.isParts (legible.branches block mem) (verbs.1.2 block mem)
  exact (((isParts_enclosed isInner).append minusParts).append blocks).isGroup

theorem isGroup_union {tokens : List Token} {own : List Part} (isOwn : IsGroup tokens own)
    (areUnions : List.Forall₂ IsGroup unionsTokens unions) :
    IsGroup (unionTokens tokens unionsTokens) (unionParts own unions) := by
  cases areUnions with
  | nil => exact isOwn
  | cons first others =>
      have union := IsPart.union (.cons isOwn (.cons first others)) (by simp)
      exact union.isParts.isGroup

end Groups

/-! ## Texts -/

theorem Braceless.isHead {head : List Token} (braceless : Braceless head) : IsHead head := by
  refine ⟨balanced_of_notMem braceless.1 braceless.2, ?_⟩
  rintro before after rfl
  exact absurd (by simp) braceless.1

theorem Braceless.balanced_braced {tokens : List Token} (braceless : Braceless tokens) :
    IsBalanced '{' '}' (braced tokens) := by
  simp [IsBalanced, braced, depthAfter, depthAfter_append, depthAfter_of_notMem braceless.1 braceless.2]

/-- The braces of a template do not begin a group, because no keyword of one stands before them. -/
theorem isHead_template {front template back : List Token} (isFront : Braceless front)
    (isTemplate : Braceless template) (isBack : Braceless back) :
    IsHead (front ++ .keyword .construct :: (braced template ++ back)) := by
  have keyword : IsBalanced '{' '}' [.keyword .construct] := rfl
  have balancedFront : IsBalanced '{' '}' front := balanced_of_notMem isFront.1 isFront.2
  have balancedBack : IsBalanced '{' '}' back := balanced_of_notMem isBack.1 isBack.2
  refine ⟨balancedFront.append (keyword.append (isTemplate.balanced_braced.append balancedBack)), ?_⟩
  intro before after same _
  have aligned : (front ++ [.keyword .construct]) ++ .mark '{' :: (template ++ .mark '}' :: back) =
      (before ++ [.keyword .where]) ++ .mark '{' :: after := by
    simpa [braced] using same
  rcases eq_or_of_append_cons aligned with ⟨sameFront, _⟩ | ⟨left, isLeft, _⟩ | ⟨left, _, isLeft⟩
  · have sameKeyword := List.append_inj_right' sameFront rfl
    cases sameKeyword
  · have mem : .mark '{' ∈ front ++ [.keyword .construct] := isLeft ▸ by simp
    simp [isFront.1] at mem
  · have mem : .mark '{' ∈ template ++ .mark '}' :: back := isLeft ▸ by simp
    simp [isTemplate.1, isBack.1] at mem

theorem braceless_terms (terms : List Term) : Braceless (terms.map Term.token) := by
  constructor <;> intro mem <;> rcases List.mem_map.mp mem with ⟨term, _, same⟩
  · exact term.token_ne_mark _ same
  · exact term.token_ne_mark _ same

theorem braceless_countTokens (distinct : Bool) (target : CountTarget) (result : String) :
    Braceless (countTokens distinct target result) := by
  cases distinct <;> cases target <;> simp [countTokens, Braceless, bracketed, Term.token]

theorem braceless_projection (clauses : Clauses) : Braceless (projectionTokens clauses) := by
  have counts : Braceless
      (clauses.counts.flatMap fun count => countTokens clauses.distinct count.1 count.2) :=
    .flatMap fun count _ => braceless_countTokens clauses.distinct count.1 count.2
  have optionalWord : ∀ (condition : Bool) (word : List Char),
      Braceless (if condition then [.word word] else []) := by
    intro condition word
    cases condition <;> simp [Braceless]
  unfold projectionTokens
  dsimp only
  have modifiers := (optionalWord (clauses.distinct && !(clauses.projection.isEmpty && !clauses.counts.isEmpty))
    "DISTINCT".toList).append (optionalWord clauses.reduced "REDUCED".toList)
  split
  · exact modifiers.append (by simp [Braceless])
  · exact (modifiers.append (braceless_terms clauses.projection)).append counts

theorem braceless_conditions (word : String) {conditions : List OrderCondition}
    (arePlain : ∀ text ∈ conditions.flatMap OrderCondition.expressions, IsPlain text) :
    Braceless (conditionTokens word conditions) := by
  have entries : Braceless (conditions.flatMap OrderCondition.tokens) := by
    refine .flatMap fun condition mem => ?_
    cases condition with
    | expression text =>
        have isText : text ∈ conditions.flatMap OrderCondition.expressions :=
          List.mem_flatMap.mpr ⟨_, mem, List.mem_singleton_self text⟩
        exact braceless_rawTokens (arePlain text isText).notStructural
    | «variable» name direction =>
        cases direction <;> simp [OrderCondition.tokens, Braceless, bracketed, Term.token]
  unfold conditionTokens
  split
  · exact .nil
  · exact .append (by simp [Braceless]) entries

theorem braceless_bound (word : String) (bound : Option Int) : Braceless (boundTokens word bound) :=
  .flatMap fun value _ => .cons (by simp) (braceless_rawTokens (notStructural_toString value))

theorem braceless_modifiers {clauses : Clauses} (arePlain : ∀ text ∈ clauses.rawTexts, IsPlain text) :
    Braceless (modifierTokens clauses) := by
  simp only [Clauses.rawTexts, List.forall_mem_append, List.flatMap_append] at arePlain
  exact (((braceless_conditions _ arePlain.1.2.1).append (braceless_conditions _ arePlain.1.2.2)).append
    (braceless_bound _ _)).append (braceless_bound _ _)

theorem isHead_headTokens {clauses : Clauses} (arePlain : ∀ text ∈ clauses.rawTexts, IsPlain text)
    {back : List Token} (isBack : Braceless back) : IsHead (headTokens clauses ++ back) := by
  have prologue : Braceless
      (clauses.prologue.flatMap fun declaration => .keyword .prologue :: rawTokens declaration) :=
    .flatMap fun declaration mem =>
      .cons (by simp) (braceless_rawTokens (arePlain declaration (List.mem_append_right _ mem)).notStructural)
  have graphs : Braceless
      (clauses.fromGraphs.flatMap fun graph => [.word "FROM".toList, graph.token]) :=
    .flatMap fun graph _ => .cons (by simp) (.cons graph.token_ne_brace .nil)
  have template : Braceless (clauses.template.flatMap Pattern.tokens) :=
    .flatMap fun pattern _ => pattern.braceless
  unfold headTokens formTokens
  rw [List.append_assoc, List.append_assoc]
  cases clauses.form with
  | ask => exact (prologue.append (.cons (by simp [Form.token]) (graphs.append isBack))).isHead
  | select | describe =>
      have projecting := (braceless_projection clauses).append (graphs.append isBack)
      exact (prologue.append (.cons (by simp [Form.token]) projecting)).isHead
  | construct => exact isHead_template prologue template (graphs.append isBack)

/-- Every query begins with a declaration or with its form. -/
theorem headTokens_eq_cons (clauses : Clauses) :
    ∃ token left, headTokens clauses = token :: left ∧ token.startsQuery := by
  unfold headTokens
  cases clauses.prologue with
  | nil => exact ⟨clauses.form.token, _, rfl, by cases clauses.form <;> rfl⟩
  | cons declaration declarations => exact ⟨.keyword .prologue, _, rfl, rfl⟩

namespace QueryTree

theorem isGroup_text {tree : QueryTree} {tokens : List Token} {group : List Part} (legible : tree.IsLegible)
    (isGroup : IsGroup tokens group) : IsGroup (braced (tree.tokensAround tokens)) [tree.queryPart group] := by
  have arePlain := legible.clauses_rawTexts
  have modifiers := braceless_modifiers arePlain
  have isQuery : IsQuery (tree.tokensAround tokens) (tree.queryPart group) := by
    unfold tokensAround queryPart
    split
    · rw [List.append_nil]
      exact .bare (isHead_headTokens arePlain modifiers)
    · have isHead := isHead_headTokens arePlain .nil
      rw [List.append_nil] at isHead
      rw [List.append_assoc]
      exact .around isHead isGroup (balanced_of_notMem modifiers.1 modifiers.2)
  rcases headTokens_eq_cons tree.clauses with ⟨token, left, isCons, starts⟩
  unfold tokensAround at isQuery ⊢
  rw [isCons] at isQuery ⊢
  exact isQuery.isGroup starts

mutual

/-- The tokens of a group read as the query that it is the group of, and as nothing else. -/
theorem isGroup_group (tree : QueryTree) (legible : ∀ part ∈ tree.within, part.IsLegible) :
    IsGroup tree.groupTokens tree.groupParts := by
  cases tree with
  | node clauses optionals subqueries unions minuses services =>
      simp only [within, List.forall_mem_cons, List.forall_mem_append] at legible
      rcases legible with ⟨itself, ⟨⟨inSubqueries, inUnions⟩, inMinuses⟩, inServices⟩
      have inner := isParts_inner itself.toIsReadable (isGroups_texts subqueries inSubqueries)
        (isParts_services services inServices)
      exact isGroup_union (isGroup_own itself inner (isGroups_groups minuses inMinuses))
        (isGroups_groups unions inUnions)

theorem isGroups_groups (trees : List QueryTree) (legible : ∀ part ∈ withinAll trees, part.IsLegible) :
    List.Forall₂ IsGroup (groupsTokens trees) (groupsParts trees) := by
  cases trees with
  | nil => exact .nil
  | cons tree rest =>
      simp only [withinAll, List.forall_mem_append] at legible
      exact .cons (isGroup_group tree legible.1) (isGroups_groups rest legible.2)

theorem isParts_services (services : List (ServiceSite × QueryTree))
    (legible : ∀ part ∈ withinServices services, part.IsLegible) :
    List.Forall₂ IsPart (serviceGroupTokens services) (serviceParts services) := by
  cases services with
  | nil => exact .nil
  | cons service rest =>
      rcases service with ⟨site, tree⟩
      simp only [withinServices, List.forall_mem_append] at legible
      exact .cons (IsPart.service site.silent site.endpoint.isTerm_token (isGroup_group tree legible.1))
        (isParts_services rest legible.2)

theorem isGroups_texts (trees : List QueryTree) (legible : ∀ part ∈ withinAll trees, part.IsLegible) :
    List.Forall₂ (fun tokens query => IsGroup (braced tokens) [query]) (textTokens trees) (queryParts trees) := by
  cases trees with
  | nil => exact .nil
  | cons tree rest =>
      simp only [withinAll, List.forall_mem_append] at legible
      exact .cons (isGroup_text (legible.1 tree tree.mem_within) (isGroup_group tree legible.1))
        (isGroups_texts rest legible.2)

end

/-- The text of a group reads as the query that it is the group of, and as nothing else. -/
theorem readsAs_iff {tree : QueryTree} {words : List String} (legible : ∀ part ∈ tree.within, part.IsLegible)
    (rendered : tree.groupWords = .ok words) (parts : List Part) :
    ReadsAs (spaced words) parts ↔ parts = tree.groupParts := by
  have isTokens := (spellWords_group tree legible rendered).spaced.lex_eq
  have isGroup : ReadsGroup (tree.groupTokens ++ []) parts [] ↔ _ := (isGroup_group tree legible).reads
  rw [List.append_nil] at isGroup
  unfold ReadsAs
  rw [isTokens]
  simpa using isGroup

/-- The whole text of a query, between braces, reads as the query and as nothing else. -/
theorem text_readsAs_iff {tree : QueryTree} {text : String} (legible : ∀ part ∈ tree.within, part.IsLegible)
    (written : tree.render = .ok text) (parts : List Part) :
    ReadsAs (spaced ["\x7b", text, "\x7d"]) parts ↔ parts = [tree.queryPart tree.groupParts] := by
  have spells : Spells text.toList (tree.tokensAround tree.groupTokens) :=
    spells_textAround (legible tree tree.mem_within) (fun _ => spellWords_group tree legible) written
  have isTokens := ((SpellWords.cons spells_openingBrace (.cons spells (.singleton spells_closingBrace))).spaced).lex_eq
  have isGroup : ReadsGroup (braced (tree.tokensAround tree.groupTokens) ++ []) parts [] ↔ _ :=
    (isGroup_text (legible tree tree.mem_within) (isGroup_group tree legible)).reads
  rw [List.append_nil] at isGroup
  unfold ReadsAs
  rw [isTokens]
  simpa [braced] using isGroup

end QueryTree

end Sparql
