import Sparql.Proofs.Session.Order

/-!
# Texts that are kept

A query that was answered keeps a text while its clauses grow. The text is still the one of a tree: of the tree
that the query had when it was sent. Of the clauses of that tree the form is the query's own, and its graphs and
declarations are the first ones that the query has now.
-/

namespace Sparql

open Relation

/-! ## Clauses of earlier trees -/

/-- Clauses that have the same form and perhaps more graphs and declarations later on. -/
structure Clauses.Extends (clauses after : Clauses) : Prop where
  form : after.form = clauses.form
  fromGraphs : clauses.fromGraphs <+: after.fromGraphs
  prologue : clauses.prologue <+: after.prologue

theorem Clauses.Extends.refl (clauses : Clauses) : clauses.Extends clauses :=
  ⟨rfl, List.prefix_rfl, List.prefix_rfl⟩

theorem Clauses.Extends.trans {clauses middle after : Clauses} (first : clauses.Extends middle)
    (second : middle.Extends after) : clauses.Extends after where
  form := second.form.trans first.form
  fromGraphs := first.fromGraphs.trans second.fromGraphs
  prologue := first.prologue.trans second.prologue

theorem Clauses.Extends.graphNames {clauses after : Clauses} (isExtended : clauses.Extends after) :
    clauses.graphNames <+: after.graphNames := isExtended.fromGraphs.map _

theorem Clauses.Change.extends {clauses after : Clauses} (change : clauses.Change after) :
    clauses.Extends after := by
  have same := Clauses.Extends.refl clauses
  cases change with
  | fromGraphs added => exact { same with fromGraphs := List.prefix_append _ _ }
  | declaration text => exact { same with prologue := List.prefix_append _ _ }
  | _ => exact { same with }

theorem QueryRecord.Change.extends {store : Store} {record after : QueryRecord}
    (change : record.Change store after) : record.clauses.Extends after.clauses := by
  cases change with
  | clauses changed => exact changed.extends
  | _ => exact .refl _

/-- An operation as a session has it: one that a call makes, silent or not. -/
def UpdateOperation.IsBuilt (operation : UpdateOperation) : Prop :=
  ∃ made : UpdateOperation, made.IsMade ∧ operation.action = made.action

namespace Store

variable {store after : Store} {index : Nat} {text : String} {record : QueryRecord}

/-- A query of a store that evolves keeps its form, its graphs and its declarations. -/
theorem Evolves.extends (evolves : store.Evolves after) :
    Places (fun record later => record.clauses.Extends later.clauses) store.queries after.queries := by
  have same (record : QueryRecord) : record.clauses.Extends record.clauses := .refl _
  induction evolves with
  | refl => exact .refl same _
  | tail _ change ih =>
      refine ih.trans Clauses.Extends.trans ?_
      cases change with
      | query _ => exact .append same _ _
      | queryAt found changed => exact .set same found changed.extends
      | _ => exact .refl same _

/-! ## Trees -/

/-- The tree of a query begins with the clauses of the query. -/
theorem clauses_of_tree {tree : QueryTree} (isTree : store.tree index = .ok tree) :
    ∃ record, store.queries[index]? = some record ∧ tree.clauses = record.clauses := by
  unfold Store.tree at isTree
  split at isTree <;> cases isTree
  rename_i isTree
  simp only [tree?, Option.bind_eq_bind, Option.bind_eq_some_iff, Option.pure_def, Option.some.injEq] at isTree
  rcases isTree with ⟨record, found, _, _, _, _, _, _, _, _, _, _, rfl⟩
  exact ⟨record, found, rfl⟩

/-- A query that can be written has a tree with that text. -/
theorem tree_of_render (written : store.render index = .ok text) :
    ∃ tree, store.tree index = .ok tree ∧ tree.render = .ok text := by
  unfold Store.render at written
  rcases isTree : store.tree index with failure | tree
  · rw [isTree] at written
    cases written
  · refine ⟨tree, rfl, ?_⟩
    rw [isTree] at written
    exact Outcome.ofRender_eq_ok.mp written

/-- A text that was that of a query: the form of its tree is the query's, and its graphs and declarations are
among the first that the query has now. -/
def HadText (record : QueryRecord) (text : String) : Prop :=
  ∃ tree : QueryTree, tree.render = .ok text ∧ tree.clauses.Extends record.clauses

/-- A store in which every text that a query keeps was that of the query. -/
def KeepsTexts (store : Store) : Prop :=
  ∀ (index : Nat) (record : QueryRecord) (text : String), store.queries[index]? = some record →
    record.frozen = some text → HadText record text

theorem Move.keepsTexts (move : store.Move after) (keeps : store.KeepsTexts) : after.KeepsTexts := by
  intro index record text found isText
  rcases move.frozen index text (by simp [frozen?, found, isText]) with old | new
  · rcases Option.bind_eq_some_iff.mp old with ⟨before, foundBefore, isOld⟩
    rcases keeps index before text foundBefore isOld with ⟨tree, written, isExtended⟩
    rcases move.evolves.extends.later index before foundBefore with ⟨same, isSame, isLater⟩
    cases found.symm.trans isSame
    exact ⟨tree, written, isExtended.trans isLater⟩
  · rcases tree_of_render new with ⟨tree, isTree, written⟩
    rcases clauses_of_tree isTree with ⟨before, foundBefore, sameClauses⟩
    rcases move.evolves.extends.later index before foundBefore with ⟨same, isSame, isLater⟩
    cases found.symm.trans isSame
    exact ⟨tree, written, sameClauses ▸ isLater⟩

theorem Moves.keepsTexts (moves : store.Moves after) (keeps : store.KeepsTexts) : after.KeepsTexts := by
  induction moves with
  | refl => exact keeps
  | tail _ move ih => exact move.keepsTexts ih

/-- The text of a query is the one that it keeps, or the one that it is written as if it keeps none. -/
theorem text_eq_ok (found : store.queries[index]? = some record) (isText : store.text index = .ok text) :
    record.frozen = some text ∨ record.frozen = none ∧ store.render index = .ok text := by
  unfold Store.text at isText
  rcases isFrozen : record.frozen with _ | kept
  · simp only [found, isFrozen, Option.bind_some] at isText
    exact .inr ⟨rfl, isText⟩
  · simp only [found, isFrozen, Option.bind_some] at isText
    cases isText
    exact .inl rfl

/-- The text of a query is that of a tree that it had, and of the one that it has unless it keeps the text. -/
theorem KeepsTexts.exists_tree (keeps : store.KeepsTexts) (found : store.queries[index]? = some record)
    (isText : store.text index = .ok text) :
    ∃ tree : QueryTree, tree.render = .ok text ∧ tree.clauses.Extends record.clauses ∧
      (record.frozen = none → store.tree index = .ok tree ∧ tree.clauses = record.clauses) := by
  rcases text_eq_ok found isText with isKept | ⟨_, isWritten⟩
  · rcases keeps index record text found isKept with ⟨tree, written, isExtended⟩
    exact ⟨tree, written, isExtended, fun notFrozen => by simp [isKept] at notFrozen⟩
  · rcases tree_of_render isWritten with ⟨tree, isTree, written⟩
    rcases clauses_of_tree isTree with ⟨same, isSame, sameClauses⟩
    cases found.symm.trans isSame
    exact ⟨tree, written, sameClauses ▸ .refl _, fun _ => ⟨isTree, sameClauses⟩⟩

/-- The text that a query keeps is one that it had at some time before. -/
theorem Moves.exists_rendered (moves : store.Moves after) (noTexts : ∀ index, store.frozen? index = none)
    (isText : after.frozen? index = some text) :
    ∃ during, store.Moves during ∧ during.Moves after ∧ during.render index = .ok text := by
  induction moves with
  | refl => simp [noTexts] at isText
  | @tail before _ earlier move ih =>
      rcases move.frozen index text isText with old | new
      · rcases ih old with ⟨during, before, later, written⟩
        exact ⟨during, before, later.tail move, written⟩
      · exact ⟨before, earlier, .single move, new⟩

/-! ## Operations -/

/-- A store in which every operation does what one does that a call makes. -/
def HoldsOperations (store : Store) : Prop := ∀ operation ∈ store.operations, operation.IsBuilt

theorem Move.holdsOperations (move : store.Move after) (holds : store.HoldsOperations) :
    after.HoldsOperations := by
  intro operation mem
  rcases move.operations operation mem with ⟨before, isBefore, same⟩ | isMade
  · rcases holds before isBefore with ⟨made, isMade, does⟩
    exact ⟨made, isMade, same.trans does⟩
  · exact ⟨operation, isMade, rfl⟩

theorem Moves.holdsOperations (moves : store.Moves after) (holds : store.HoldsOperations) :
    after.HoldsOperations := by
  induction moves with
  | refl => exact holds
  | tail _ move ih => exact move.holdsOperations ih

/-! ## Sessions -/

theorem keepsTexts_of_session (client : Option Client) (answers : List Answer)
    (moves : (start client answers).Moves after) : after.KeepsTexts :=
  moves.keepsTexts (by simp [KeepsTexts, start])

theorem holdsOperations_of_session (client : Option Client) (answers : List Answer)
    (moves : (start client answers).Moves after) : after.HoldsOperations :=
  moves.holdsOperations (by simp [HoldsOperations, start])

end Store

end Sparql
