import Sparql.Proofs.Query.Ingredient
import Sparql.Proofs.Query.Tokens

/-!
# Writing readable queries

Every IRI that goes into a group is a term of the query or of one that hangs on it. A term that is a single
token can be written, so the group of a readable query has a text unless the bound of a sub-query is too long.
-/

namespace Sparql

open Syntax

/-! ## IRIs -/

theorem not_isForbiddenInIri {c : Char} (allowed : isIriChar c) : isForbiddenInIri c = false := by
  simp only [isIriChar, Bool.and_eq_true, decide_eq_true_eq, bne_iff_ne] at allowed
  rcases allowed with ⟨⟨visible, listed⟩, notTick⟩
  have notSpace : c ≠ ' ' := by
    rintro rfl
    exact absurd visible (by decide)
  simp only [isForbiddenInIri, Bool.or_eq_false_iff, decide_eq_false_iff_not]
  simp_all

/-- An IRI that is a single token can be written. -/
theorem isWritableIri_of_isToken {iri : String} (isToken : (Term.iri iri).IsToken) : isWritableIri iri := by
  have isRead : readIriOrMark (iri.toList ++ ['>']) = ((Term.iri iri).token, []) := Option.some.inj isToken
  unfold readIriOrMark readIri? at isRead
  split at isRead
  · rename_i found
    split at found <;> cases found
    have whole : (iri.toList ++ ['>']).takeWhile isIriChar = iri.toList := by
      simpa [Term.token, Term.chars] using congrArg Prod.fst isRead
    have allowed : ∀ c ∈ iri.toList, isIriChar c := by
      rw [← whole]
      exact List.all_eq_true.mp List.all_takeWhile
    simpa [isWritableIri] using fun c mem => not_isForbiddenInIri (allowed c mem)
  · cases isRead

/-! ## Clauses -/

section Ingredients

variable {iri : String}

@[simp]
theorem Term.iri_mem_ingredients {term : Term} : .iri iri ∈ term.ingredients ↔ .iri iri = term := by
  cases term <;> simp [ingredients]

@[simp]
theorem iri_mem_cellIngredients {cell : Option Term} : .iri iri ∈ cellIngredients cell ↔ some (.iri iri) = cell := by
  cases cell <;> simp [cellIngredients]

@[simp]
theorem Pattern.iri_mem_ingredients {pattern : Pattern} :
    .iri iri ∈ pattern.ingredients ↔ .iri iri ∈ pattern.terms := by
  simp [ingredients]

@[simp]
theorem OptionalGroup.iri_mem_ingredients {group : OptionalGroup} :
    .iri iri ∈ group.ingredients ↔ .iri iri ∈ group.terms := by
  simp [ingredients, terms]

@[simp]
theorem BindBranch.iri_mem_ingredients {branch : BindBranch} :
    .iri iri ∈ branch.ingredients ↔ .iri iri ∈ branch.terms := by
  simp [ingredients, terms]

@[simp]
theorem BindUnion.iri_mem_ingredients {block : BindUnion} :
    .iri iri ∈ block.ingredients ↔ .iri iri ∈ block.branches.flatMap BindBranch.terms := by
  simp [ingredients]

@[simp]
theorem ValuesBlock.iri_mem_ingredients {block : ValuesBlock} :
    .iri iri ∈ block.ingredients ↔ .iri iri ∈ block.terms := by
  simp [ingredients, terms, eq_comm]

@[simp]
theorem iri_mem_getD_map {α : Type} {found : Option α} {ingredients : α → List Ingredient} :
    .iri iri ∈ (found.map ingredients).getD [] ↔ ∃ value ∈ found, .iri iri ∈ ingredients value := by
  cases found <;> simp

namespace Clauses

variable {clauses : Clauses}

theorem iri_mem_terms_of_group (mem : .iri iri ∈ clauses.groupIngredients) : .iri iri ∈ clauses.terms := by
  simp only [groupIngredients, List.mem_append, iri_mem_getD_map, List.mem_flatMap, Term.iri_mem_ingredients,
    Pattern.iri_mem_ingredients, ValuesBlock.iri_mem_ingredients, BindUnion.iri_mem_ingredients] at mem
  simp only [terms, List.mem_append, List.mem_flatMap, Option.mem_toList]
  rcases mem with ((⟨_, isGraph, rfl⟩ | pattern) | values) | bindUnion
  · exact .inl (.inr isGraph)
  · exact .inl (.inl (.inl (.inl (.inr pattern))))
  · exact .inl (.inl (.inl (.inr values)))
  · exact .inl (.inl (.inr bindUnion))

theorem iri_mem_terms_of_text (mem : .iri iri ∈ clauses.textIngredients) : .iri iri ∈ clauses.terms := by
  have ofHead : .iri iri ∈ clauses.headIngredients → .iri iri ∈ clauses.terms := by
    unfold headIngredients terms
    cases clauses.form <;> simp +contextual
  have ofGraphs : .iri iri ∈ clauses.fromGraphs.flatMap Term.ingredients → .iri iri ∈ clauses.terms := by
    simp +contextual [terms]
  simp only [textIngredients, List.mem_append] at mem
  rcases mem with ((head | graphs) | offset) | limit
  · exact ofHead head
  · exact ofGraphs graphs
  · simp at offset
  · simp at limit

end Clauses

/-! ## Groups -/

namespace QueryTree

theorem IsReadable.isWritableIri_of_mem {tree : QueryTree} (readable : tree.IsReadable)
    (mem : .iri iri ∈ tree.terms) : isWritableIri iri :=
  isWritableIri_of_isToken (readable.terms _ mem)

theorem IsReadable.isWritableIri_of_text {tree : QueryTree} (readable : tree.IsReadable)
    (mem : .iri iri ∈ tree.clauses.textIngredients) : isWritableIri iri := by
  cases tree
  exact readable.isWritableIri_of_mem
    (List.mem_append_left _ (List.mem_append_left _ (Clauses.iri_mem_terms_of_text mem)))

mutual

/-- Every IRI of a readable group can be written. -/
theorem isWritableIri_of_group (tree : QueryTree) (readable : ∀ part ∈ tree.within, part.IsReadable)
    (mem : .iri iri ∈ tree.groupIngredients) : isWritableIri iri := by
  cases tree with
  | node clauses optionals subqueries unions minuses services =>
      simp only [within, List.forall_mem_cons, List.forall_mem_append] at readable
      rcases readable with ⟨itself, ⟨⟨inSubqueries, inUnions⟩, inMinuses⟩, inServices⟩
      simp only [groupIngredients, List.mem_append] at mem
      rcases mem with ((((own | optional) | subquery) | union) | minus) | service
      · have isTerm := Clauses.iri_mem_terms_of_group own
        exact itself.isWritableIri_of_mem (List.mem_append_left _ (List.mem_append_left _ isTerm))
      · have isTerm : .iri iri ∈ optionals.flatMap OptionalGroup.terms := by
          simpa only [List.mem_flatMap, OptionalGroup.iri_mem_ingredients] using optional
        exact itself.isWritableIri_of_mem (List.mem_append_left _ (List.mem_append_right _ isTerm))
      · exact isWritableIri_of_texts subqueries inSubqueries subquery
      · exact isWritableIri_of_groups unions inUnions union
      · exact isWritableIri_of_groups minuses inMinuses minus
      · have endpoints : ∀ service ∈ services, service.1.endpoint.IsToken := fun service mem =>
          itself.terms _ (List.mem_append_right _ (List.mem_map_of_mem mem))
        exact isWritableIri_of_services services endpoints inServices service

theorem isWritableIri_of_groups (trees : List QueryTree) (readable : ∀ part ∈ withinAll trees, part.IsReadable)
    (mem : .iri iri ∈ groupsIngredients trees) : isWritableIri iri := by
  cases trees with
  | nil => cases mem
  | cons tree rest =>
      simp only [withinAll, List.forall_mem_append] at readable
      rcases List.mem_append.mp mem with mem | mem
      · exact isWritableIri_of_group tree readable.1 mem
      · exact isWritableIri_of_groups rest readable.2 mem

theorem isWritableIri_of_services (services : List (ServiceSite × QueryTree))
    (endpoints : ∀ service ∈ services, service.1.endpoint.IsToken)
    (readable : ∀ part ∈ withinServices services, part.IsReadable)
    (mem : .iri iri ∈ servicesIngredients services) : isWritableIri iri := by
  cases services with
  | nil => cases mem
  | cons service rest =>
      rcases service with ⟨site, tree⟩
      simp only [withinServices, List.forall_mem_append, List.forall_mem_cons] at readable endpoints
      simp only [servicesIngredients, List.mem_append, Term.iri_mem_ingredients] at mem
      rcases mem with (isEndpoint | mem) | mem
      · exact isWritableIri_of_isToken (isEndpoint ▸ endpoints.1)
      · exact isWritableIri_of_group tree readable.1 mem
      · exact isWritableIri_of_services rest endpoints.2 readable.2 mem

theorem isWritableIri_of_texts (trees : List QueryTree) (readable : ∀ part ∈ withinAll trees, part.IsReadable)
    (mem : .iri iri ∈ textsIngredients trees) : isWritableIri iri := by
  cases trees with
  | nil => cases mem
  | cons tree rest =>
      simp only [withinAll, List.forall_mem_append] at readable
      simp only [textsIngredients, List.mem_append] at mem
      rcases mem with (mem | mem) | mem
      · exact (readable.1 tree tree.mem_within).isWritableIri_of_text mem
      · exact isWritableIri_of_group tree readable.1 mem
      · exact isWritableIri_of_texts rest readable.2 mem

end

/-- A readable group is written exactly if the numbers that bound its sub-queries can be. -/
theorem groupWords_isOk_iff {tree : QueryTree} (readable : ∀ part ∈ tree.within, part.IsReadable) :
    tree.groupWords.isOk ↔
      ∀ value : Int, .number value ∈ tree.groupIngredients → Number.isLong value = false := by
  rw [groupWords_isOk, List.all_eq_true]
  constructor
  · intro all value mem
    simpa [Ingredient.isWritable] using all _ mem
  · intro numbers ingredient mem
    cases ingredient with
    | iri iri => exact isWritableIri_of_group tree readable mem
    | number value => simpa [Ingredient.isWritable] using numbers value mem

end QueryTree

end Ingredients

end Sparql
