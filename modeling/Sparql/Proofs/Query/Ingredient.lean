import Sparql.Proofs.Outcome
import Sparql.Query.Text
import Sparql.Update.Build

/-!
# What can be written

Only two things that texts are made of may be impossible to write: an IRI with a character that no IRI may hold,
and a number with more digits than are written. A text is written exactly if all of these that go into it can
be.
-/

namespace Sparql

/-- What goes into a text and perhaps cannot be written. -/
inductive Ingredient where
  | iri (iri : String)
  | number (value : Int)
deriving DecidableEq, Repr

/-- Whether an ingredient can be written. -/
def Ingredient.isWritable : Ingredient → Bool
  | .iri text => isWritableIri text
  | .number value => !Number.isLong value

/-- The IRI that a term is, if it is one. -/
def Term.ingredients : Term → List Ingredient
  | .iri text => [.iri text]
  | .blank _ | .literal _ | .variable _ => []

/-- The IRIs of a pattern. -/
def Pattern.ingredients (pattern : Pattern) : List Ingredient :=
  pattern.terms.flatMap Term.ingredients

/-- The IRIs of an optional part. -/
def OptionalGroup.ingredients (group : OptionalGroup) : List Ingredient :=
  group.patterns.flatMap Pattern.ingredients

/-- The IRIs of a branch: those of its patterns and those that its variables may equal. -/
def BindBranch.ingredients (branch : BindBranch) : List Ingredient :=
  branch.patterns.flatMap Pattern.ingredients
    ++ branch.filters.flatMap fun filter => filter.2.map .iri

/-- The IRIs of a tagged union. -/
def BindUnion.ingredients (block : BindUnion) : List Ingredient :=
  block.branches.flatMap BindBranch.ingredients

/-- The IRI of a cell, if it holds one. -/
def cellIngredients : Option Term → List Ingredient
  | none => []
  | some term => term.ingredients

/-- The IRIs of inline data. -/
def ValuesBlock.ingredients (block : ValuesBlock) : List Ingredient :=
  block.rows.flatMap fun row => row.flatMap cellIngredients

namespace Clauses

/-- What the clauses bring into the group. -/
def groupIngredients (clauses : Clauses) : List Ingredient :=
  (clauses.graph.map Term.ingredients).getD []
    ++ clauses.patterns.flatMap Pattern.ingredients
    ++ (clauses.values.map ValuesBlock.ingredients).getD []
    ++ clauses.bindUnions.flatMap BindUnion.ingredients

/-- What stands between the form and the graphs. -/
def headIngredients (clauses : Clauses) : List Ingredient :=
  match clauses.form with
  | .ask => []
  | .select | .describe => clauses.projection.flatMap Term.ingredients
  | .construct => clauses.template.flatMap Pattern.ingredients

/-- What the clauses bring into the text around the group. -/
def textIngredients (clauses : Clauses) : List Ingredient :=
  clauses.headIngredients ++ clauses.fromGraphs.flatMap Term.ingredients
    ++ clauses.offset.toList.map .number ++ clauses.limit.toList.map .number

end Clauses

namespace QueryTree

mutual

/-- What goes into the group of a query. Of its unions, minuses and services only the groups do. -/
def groupIngredients : QueryTree → List Ingredient
  | node clauses optionals subqueries unions minuses services =>
    clauses.groupIngredients ++ optionals.flatMap OptionalGroup.ingredients ++ textsIngredients subqueries
      ++ groupsIngredients unions ++ groupsIngredients minuses ++ servicesIngredients services

/-- What goes into the groups of several queries. -/
def groupsIngredients : List QueryTree → List Ingredient
  | [] => []
  | tree :: rest => groupIngredients tree ++ groupsIngredients rest

/-- What goes into several services. -/
def servicesIngredients : List (ServiceSite × QueryTree) → List Ingredient
  | [] => []
  | (site, tree) :: rest => site.endpoint.ingredients ++ groupIngredients tree ++ servicesIngredients rest

/-- What goes into the texts of several queries. -/
def textsIngredients : List QueryTree → List Ingredient
  | [] => []
  | tree :: rest => tree.clauses.textIngredients ++ groupIngredients tree ++ textsIngredients rest

end

/-- What goes into the text of a query. -/
def ingredients (tree : QueryTree) : List Ingredient :=
  tree.clauses.textIngredients ++ tree.groupIngredients

end QueryTree

/-! ## Clauses -/

open Outcome

theorem renderIri_isOk (iri : String) : (renderIri iri).isOk = isWritableIri iri := by
  unfold renderIri
  split <;> simp_all [Except.isOk, Except.toBool]

theorem Term.render_isOk (term : Term) : term.render.isOk = term.ingredients.all (·.isWritable) := by
  cases term with
  | iri text => simpa [ingredients, Ingredient.isWritable, render] using renderIri_isOk text
  | blank _ | literal _ | «variable» _ => rfl

/-- The class relation is written as a keyword, but could be written as an IRI as well. -/
theorem Pattern.renderPredicate_isOk (predicate : Term) :
    (renderPredicate predicate).isOk = predicate.ingredients.all (·.isWritable) := by
  unfold renderPredicate
  split
  · rename_i isType
    subst isType
    rfl
  · exact predicate.render_isOk

theorem Pattern.render_isOk (pattern : Pattern) :
    pattern.render.isOk = pattern.ingredients.all (·.isWritable) := by
  unfold render
  refine (isOk_bind fun _ => isOk_bind fun _ => isOk_bind_pure).trans ?_
  simp [ingredients, terms, Term.render_isOk, renderPredicate_isOk]

theorem Pattern.renderAll_isOk (patterns : List Pattern) :
    (renderAll patterns).isOk = (patterns.flatMap Pattern.ingredients).all (·.isWritable) := by
  simp [renderAll, isOk_mapM, render_isOk, List.all_flatMap]

theorem OptionalGroup.words_isOk (group : OptionalGroup) :
    group.words.isOk = group.ingredients.all (·.isWritable) := by
  unfold words
  rw [isOk_bind_pure, Pattern.renderAll_isOk]
  rfl

theorem BindBranch.testText_isOk (name : String) (iris : List String) :
    (testText name iris).isOk = iris.all isWritableIri := by
  unfold testText
  rw [isOk_bind_pure, isOk_mapM]
  simp [isOk_map, renderIri_isOk]

theorem BindBranch.words_isOk (branch : BindBranch) :
    branch.words.isOk = branch.ingredients.all (·.isWritable) := by
  unfold words
  refine (isOk_bind fun _ => isOk_bind_pure).trans ?_
  simp [ingredients, Pattern.renderAll_isOk, isOk_mapM, testText_isOk, Ingredient.isWritable,
    List.all_flatMap, Function.comp_def]

theorem BindUnion.words_isOk (block : BindUnion) :
    block.words.isOk = block.ingredients.all (·.isWritable) := by
  unfold words
  refine isOk_bind_pure.trans ?_
  simp [ingredients, isOk_mapM, BindBranch.words_isOk, List.all_flatMap]

theorem cellText_isOk (cell : Option Term) :
    (cellText cell).isOk = (cellIngredients cell).all (·.isWritable) := by
  cases cell with
  | none => rfl
  | some term => exact term.render_isOk

theorem rowWords_isOk (row : List (Option Term)) :
    (rowWords row).isOk = (row.flatMap cellIngredients).all (·.isWritable) := by
  unfold rowWords
  refine isOk_bind_pure.trans ?_
  simp [isOk_mapM, cellText_isOk, List.all_flatMap]

theorem ValuesBlock.words_isOk (block : ValuesBlock) :
    block.words.isOk = block.ingredients.all (·.isWritable) := by
  unfold words
  refine isOk_bind_pure.trans ?_
  simp [ingredients, isOk_mapM, rowWords_isOk, List.all_flatMap]

theorem projectionWords_isOk (clauses : Clauses) :
    (projectionWords clauses).isOk =
      (clauses.projection.flatMap Term.ingredients).all (·.isWritable) := by
  unfold projectionWords
  simp only
  split
  · rename_i empty
    have noTerms : clauses.projection = [] := by simp_all
    simp [noTerms, Except.isOk, Except.toBool, pure, Except.pure]
  · refine isOk_bind_pure.trans ?_
    simp [isOk_mapM, Term.render_isOk, List.all_flatMap]

theorem headWords_isOk (clauses : Clauses) :
    (headWords clauses).isOk = clauses.headIngredients.all (·.isWritable) := by
  unfold headWords Clauses.headIngredients
  cases clauses.form with
  | ask => rfl
  | select | describe => exact projectionWords_isOk clauses
  | construct => exact isOk_bind_pure.trans (Pattern.renderAll_isOk _)

theorem boundWords_isOk (keyword : String) (bound : Option Int) :
    (boundWords keyword bound).isOk =
      (bound.toList.map Ingredient.number).all (·.isWritable) := by
  cases bound with
  | none => rfl
  | some value =>
      simp only [boundWords]
      split <;> simp_all [Ingredient.isWritable, Except.isOk, Except.toBool]

/-! ## Groups and texts -/

theorem serviceWords_isOk (site : ServiceSite) (group : Written) :
    (serviceWords site group).isOk = (site.endpoint.ingredients.all (·.isWritable) && group.isOk) := by
  unfold serviceWords
  refine (isOk_bind fun _ => isOk_bind_pure).trans ?_
  rw [Term.render_isOk]

theorem enclosedWords_isOk (graph : Option Term) (inner : Written) :
    (enclosedWords graph inner).isOk =
      (((graph.map Term.ingredients).getD []).all (·.isWritable) && inner.isOk) := by
  cases graph with
  | none => rfl
  | some term =>
      refine (isOk_bind fun _ => isOk_bind_pure).trans ?_
      rw [Term.render_isOk]
      rfl

theorem innerWords_isOk (clauses : Clauses) (optionals : List OptionalGroup) (subqueries : Written)
    (services : WrittenParts) :
    (innerWords clauses optionals subqueries services).isOk =
      (subqueries.isOk && ((clauses.patterns.flatMap Pattern.ingredients).all (·.isWritable) &&
        ((optionals.flatMap OptionalGroup.ingredients).all (·.isWritable) && (services.isOk &&
          ((clauses.values.map ValuesBlock.ingredients).getD []).all (·.isWritable))))) := by
  unfold innerWords
  rw [← Pattern.renderAll_isOk]
  have optionalsOk : (optionals.mapM OptionalGroup.words).isOk =
      (optionals.flatMap OptionalGroup.ingredients).all (·.isWritable) := by
    simp [isOk_mapM, OptionalGroup.words_isOk, List.all_flatMap]
  rw [← optionalsOk]
  refine isOk_bind fun _ => isOk_bind fun _ => isOk_bind fun _ => isOk_bind fun _ => ?_
  cases clauses.values with
  | none => rfl
  | some block => exact isOk_bind_pure.trans block.words_isOk

theorem ownGroupWords_isOk (clauses : Clauses) (optionals : List OptionalGroup) (subqueries : Written)
    (services minuses : WrittenParts) :
    (ownGroupWords clauses optionals subqueries services minuses).isOk =
      (clauses.groupIngredients.all (·.isWritable) &&
        (optionals.flatMap OptionalGroup.ingredients).all (·.isWritable) &&
        subqueries.isOk && services.isOk && minuses.isOk) := by
  have bindUnions : (clauses.bindUnions.mapM BindUnion.words).isOk =
      (clauses.bindUnions.flatMap BindUnion.ingredients).all (·.isWritable) := by
    simp [isOk_mapM, BindUnion.words_isOk, List.all_flatMap]
  unfold ownGroupWords
  refine (isOk_bind fun _ => isOk_bind fun _ => isOk_bind_pure).trans ?_
  rw [enclosedWords_isOk, innerWords_isOk, bindUnions, Clauses.groupIngredients]
  simp only [List.all_append]
  ac_rfl

namespace QueryTree

theorem groupIngredients_of_hasEmptyGroup {tree : QueryTree} (empty : tree.hasEmptyGroup) :
    tree.groupIngredients = [] := by
  cases tree with
  | node clauses optionals subqueries unions minuses services =>
      simp only [hasEmptyGroup, Bool.and_eq_true, List.isEmpty_iff, Option.isNone_iff_eq_none] at empty
      simp [groupIngredients, groupsIngredients, servicesIngredients, textsIngredients,
        Clauses.groupIngredients, empty]

/-- A text without a group has nothing in its group that might not be writable. -/
theorem textAround_isOk {tree : QueryTree} {group : Written}
    (same : group.isOk = tree.groupIngredients.all (·.isWritable)) :
    (tree.textAround group).isOk = tree.ingredients.all (·.isWritable) := by
  have graphs : (tree.clauses.fromGraphs.mapM fun (graph : Term) => graph.render.map ("FROM " ++ ·)).isOk =
      (tree.clauses.fromGraphs.flatMap Term.ingredients).all (·.isWritable) := by
    simp [isOk_mapM, isOk_map, Term.render_isOk, List.all_flatMap]
  have modifiers : (modifierWords tree.clauses).isOk =
      ((tree.clauses.offset.toList.map Ingredient.number).all (·.isWritable) &&
        (tree.clauses.limit.toList.map Ingredient.number).all (·.isWritable)) := by
    rw [← boundWords_isOk "OFFSET", ← boundWords_isOk "LIMIT"]
    exact isOk_bind fun _ => isOk_bind_pure
  unfold textAround
  refine Eq.trans (b := (headWords tree.clauses).isOk && ((tree.clauses.fromGraphs.mapM fun (graph : Term) =>
    graph.render.map ("FROM " ++ ·)).isOk && (tree.groupIngredients.all (·.isWritable) &&
      (modifierWords tree.clauses).isOk))) (isOk_bind fun _ => isOk_bind fun _ => ?_) ?_
  · split
    · rename_i empty
      rw [groupIngredients_of_hasEmptyGroup (by simp_all)]
      exact isOk_bind fun _ => isOk_bind_pure
    · refine (isOk_bind fun _ => isOk_bind_pure).trans ?_
      rw [isOk_map, same]
  · rw [headWords_isOk, graphs, modifiers, ingredients, Clauses.textIngredients]
    simp only [List.all_append]
    ac_rfl

mutual

/-- A group is written exactly if all that goes into it can be. -/
theorem groupWords_isOk (tree : QueryTree) :
    tree.groupWords.isOk = tree.groupIngredients.all (·.isWritable) := by
  cases tree with
  | node clauses optionals subqueries unions minuses services =>
      simp only [groupWords, groupIngredients, List.all_append]
      refine (isOk_bind fun _ => isOk_bind_pure).trans ?_
      rw [ownGroupWords_isOk, texts_isOk subqueries, serviceGroups_isOk services,
        groups_isOk minuses, groups_isOk unions]
      ac_rfl

theorem groups_isOk (trees : List QueryTree) :
    (groups trees).isOk = (groupsIngredients trees).all (·.isWritable) := by
  cases trees with
  | nil => rfl
  | cons tree rest =>
      simp only [groups, groupsIngredients, List.all_append]
      refine (isOk_bind fun _ => isOk_bind_pure).trans ?_
      rw [groupWords_isOk tree, groups_isOk rest]

theorem serviceGroups_isOk (services : List (ServiceSite × QueryTree)) :
    (serviceGroups services).isOk = (servicesIngredients services).all (·.isWritable) := by
  cases services with
  | nil => rfl
  | cons service rest =>
      rcases service with ⟨site, tree⟩
      simp only [serviceGroups, servicesIngredients, List.all_append]
      refine (isOk_bind fun _ => isOk_bind_pure).trans ?_
      rw [serviceWords_isOk, groupWords_isOk tree, serviceGroups_isOk rest]

theorem texts_isOk (trees : List QueryTree) :
    (texts trees).isOk = (textsIngredients trees).all (·.isWritable) := by
  cases trees with
  | nil => rfl
  | cons tree rest =>
      simp only [texts, textsIngredients, List.all_append]
      refine (isOk_bind fun _ => isOk_bind_pure).trans ?_
      rw [textAround_isOk (groupWords_isOk tree), texts_isOk rest, ingredients, List.all_append]

end

/-- A text is written exactly if all that goes into it can be. -/
theorem render_isOk (tree : QueryTree) : tree.render.isOk = tree.ingredients.all (·.isWritable) :=
  textAround_isOk tree.groupWords_isOk

end QueryTree

/-! ## Operations -/

namespace UpdateOperation

/-- The IRI of a graph, if one is given. -/
def graphIngredients (graph : Option String) : List Ingredient := graph.toList.map .iri

/-- The IRI of a target, if it is a graph. -/
def targetIngredients : GraphTarget → List Ingredient
  | .graph iri => [.iri iri]
  | .default | .named | .all => []

/-- What goes into the text of an operation. -/
def ingredients (operation : UpdateOperation) : List Ingredient :=
  match operation.action with
  | .insertData data graph | .deleteData data graph =>
    data.flatMap Pattern.ingredients ++ graphIngredients graph
  | .deleteInsert delete insert condition graph =>
    graphIngredients graph ++ delete.flatMap Pattern.ingredients ++ insert.flatMap Pattern.ingredients
      ++ condition.flatMap Pattern.ingredients
  | .load source into => .iri source :: graphIngredients into
  | .clear target | .drop target => targetIngredients target
  | .create graph => [.iri graph]
  | .abstract => []

theorem block_isOk (patterns : List Pattern) :
    (block patterns).isOk = (patterns.flatMap Pattern.ingredients).all (·.isWritable) := by
  rw [block, isOk_map, Pattern.renderAll_isOk]

theorem graphBlock_isOk (patterns : List Pattern) (graph : Option String) :
    (graphBlock patterns graph).isOk =
      (patterns.flatMap Pattern.ingredients ++ graphIngredients graph).all (·.isWritable) := by
  cases graph with
  | none => simpa [graphBlock, graphIngredients] using block_isOk patterns
  | some iri =>
      refine (isOk_bind fun _ => isOk_bind_pure).trans ?_
      simp [block_isOk, renderIri_isOk, graphIngredients, Ingredient.isWritable]

theorem targetWords_isOk (target : GraphTarget) :
    (targetWords target).isOk = (targetIngredients target).all (·.isWritable) := by
  cases target with
  | graph iri => simp [targetWords, targetIngredients, isOk_map, renderIri_isOk, Ingredient.isWritable]
  | default | named | all => rfl

theorem templateWords_isOk (keyword : String) (patterns : List Pattern) :
    (templateWords keyword patterns).isOk =
      (patterns.flatMap Pattern.ingredients).all (·.isWritable) := by
  unfold templateWords
  split
  · rename_i empty
    rw [List.isEmpty_iff.mp empty]
    rfl
  · rw [isOk_map, block_isOk]

/-- An operation of a particular kind is written exactly if all that goes into it can be. -/
theorem words_isOk {operation : UpdateOperation} {words : Except RenderError (List String)}
    (isWords : operation.words? = some words) :
    words.isOk = operation.ingredients.all (·.isWritable) := by
  rcases operation with ⟨action, silent⟩
  cases action with
  | insertData data graph | deleteData data graph =>
      cases isWords
      exact isOk_map.trans (graphBlock_isOk data graph)
  | deleteInsert delete insert condition graph =>
      cases isWords
      have rest : ∀ scope : List String, (do
          let deletion ← templateWords "DELETE" delete
          let insertion ← templateWords "INSERT" insert
          let condition ← block condition
          return scope ++ deletion ++ insertion ++ "WHERE" :: condition : Written).isOk =
            ((delete.flatMap Pattern.ingredients).all (·.isWritable) &&
              ((insert.flatMap Pattern.ingredients).all (·.isWritable) &&
                (condition.flatMap Pattern.ingredients).all (·.isWritable))) := by
        intro scope
        refine (isOk_bind fun _ => isOk_bind fun _ => isOk_bind_pure).trans ?_
        rw [templateWords_isOk, templateWords_isOk, block_isOk]
      simp only [ingredients, List.all_append, Bool.and_assoc]
      cases graph with
      | none => exact (isOk_bind rest).trans (by simp [graphIngredients, Except.isOk, Except.toBool])
      | some iri =>
          refine (isOk_bind rest).trans ?_
          simp [isOk_map, renderIri_isOk, graphIngredients, Ingredient.isWritable]
  | load source into =>
      cases isWords
      refine Eq.trans (b := (renderIri source).isOk && (graphIngredients into).all (·.isWritable))
        (isOk_bind fun source => ?_) ?_
      · cases into with
        | none => rfl
        | some iri =>
            refine isOk_bind_pure.trans ?_
            simp [isOk_map, renderIri_isOk, graphIngredients, Ingredient.isWritable]
      · simp [ingredients, renderIri_isOk, Ingredient.isWritable]
  | clear target | drop target =>
      cases isWords
      exact isOk_map.trans (targetWords_isOk target)
  | create graph =>
      cases isWords
      refine isOk_map.trans ((renderIri_isOk graph).trans ?_)
      simp [ingredients, Ingredient.isWritable]
  | abstract => cases isWords

/-- An operation has no text if it is of no particular kind. -/
theorem words?_isSome (operation : UpdateOperation) :
    operation.words?.isSome ↔ operation.action ≠ .abstract := by
  unfold words?
  cases operation.action <;> simp

end UpdateOperation

end Sparql
