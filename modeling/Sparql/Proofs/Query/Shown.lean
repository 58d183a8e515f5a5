import Sparql.Proofs.Outcome
import Sparql.Query.Text

/-!
# What shows of a query

A query shows as a whole where it stands alone and as a sub-query. As a union branch, a minus or a federated part only
its group shows. Two trees of which the same shows have the same words, whatever else their clauses are.
-/

namespace Sparql

/-- How a query is used. -/
inductive Use where
  /-- By itself or as a sub-query. -/
  | whole
  /-- As a union branch, a minus or a federated part. -/
  | branch
deriving DecidableEq

/-- The clauses that stand in a group. -/
structure Clauses.SameGroup (clauses other : Clauses) : Prop where
  patterns : clauses.patterns = other.patterns
  filters : clauses.filters = other.filters
  values : clauses.values = other.values
  bindUnions : clauses.bindUnions = other.bindUnions
  graph : clauses.graph = other.graph

/-- Clauses of which the same shows. -/
def Use.SameClauses (use : Use) (clauses other : Clauses) : Prop :=
  match use with
  | whole => clauses = other
  | branch => clauses.SameGroup other

theorem Clauses.SameGroup.refl (clauses : Clauses) : clauses.SameGroup clauses :=
  ⟨rfl, rfl, rfl, rfl, rfl⟩

theorem Use.SameClauses.refl (use : Use) (clauses : Clauses) : use.SameClauses clauses clauses := by
  cases use with
  | whole => rfl
  | branch => exact Clauses.SameGroup.refl clauses

theorem Use.SameClauses.group {use : Use} {clauses other : Clauses} (same : use.SameClauses clauses other) :
    clauses.SameGroup other := by
  cases use with
  | whole =>
      cases same
      exact Clauses.SameGroup.refl clauses
  | branch => exact same

theorem ownGroupWords_congr {clauses other : Clauses} (same : clauses.SameGroup other) (optionals : List OptionalGroup)
    (subqueries : Written) (services minuses : WrittenParts) :
    ownGroupWords clauses optionals subqueries services minuses =
      ownGroupWords other optionals subqueries services minuses := by
  simp only [ownGroupWords, innerWords, same.patterns, same.filters, same.values, same.bindUnions, same.graph]

namespace QueryTree

/-- Trees that have the same words where they are used: the same group, and as a whole the same text. -/
structure SameWords (use : Use) (tree other : QueryTree) : Prop where
  group : tree.groupWords = other.groupWords
  text : use = .whole → tree.render = other.render

/-- Services at the same site whose groups have the same words. -/
def SameService (service other : ServiceSite × QueryTree) : Prop :=
  service.1 = other.1 ∧ SameWords .branch service.2 other.2

variable {trees others : List QueryTree}

theorem groups_congr (same : List.Forall₂ (SameWords .branch) trees others) : groups trees = groups others := by
  induction same with
  | nil => rfl
  | cons first _ ih => simp only [groups, first.group, ih]

theorem texts_congr (same : List.Forall₂ (SameWords .whole) trees others) : texts trees = texts others := by
  induction same with
  | nil => rfl
  | cons first _ ih =>
      have sameText := first.text rfl
      unfold render at sameText
      simp only [texts, sameText, ih]

theorem serviceGroups_congr {services others : List (ServiceSite × QueryTree)}
    (same : List.Forall₂ SameService services others) : serviceGroups services = serviceGroups others := by
  induction same with
  | nil => rfl
  | @cons service other _ _ first _ ih =>
      rcases service with ⟨site, tree⟩
      rcases other with ⟨_, other⟩
      rcases first with ⟨rfl, sameTree⟩
      simp only [serviceGroups, sameTree.group, ih]

/-- Trees made of the same optional parts and of other parts that have the same words. -/
inductive SameParts (use : Use) : QueryTree → QueryTree → Prop
  | node {clauses clauses' : Clauses} {optionals : List OptionalGroup} {subs subs' unions unions' : List QueryTree}
      {minuses minuses' : List QueryTree} {places places' : List (ServiceSite × QueryTree)}
      (shown : use.SameClauses clauses clauses')
      (subqueries : List.Forall₂ (SameWords .whole) subs subs')
      (branches : List.Forall₂ (SameWords .branch) unions unions')
      (taken : List.Forall₂ (SameWords .branch) minuses minuses')
      (services : List.Forall₂ SameService places places') :
      SameParts use (.node clauses optionals subs unions minuses places)
        (.node clauses' optionals subs' unions' minuses' places')

namespace SameParts

variable {use : Use} {tree other : QueryTree}

theorem groupWords (same : SameParts use tree other) : tree.groupWords = other.groupWords := by
  cases same with
  | node shown subqueries branches taken services =>
      simp only [QueryTree.groupWords, texts_congr subqueries, groups_congr branches, groups_congr taken,
        serviceGroups_congr services, ownGroupWords_congr shown.group]

theorem hasEmptyGroup (same : SameParts use tree other) : tree.hasEmptyGroup = other.hasEmptyGroup := by
  have sameEmpty {α β : Type} {related : α → β → Prop} {items : List α} {others : List β}
      (same : List.Forall₂ related items others) : items.isEmpty = others.isEmpty := by
    cases same <;> rfl
  cases same with
  | node shown subqueries branches taken services =>
      simp only [QueryTree.hasEmptyGroup, sameEmpty subqueries, sameEmpty branches, sameEmpty taken, sameEmpty services,
        shown.group.patterns, shown.group.filters, shown.group.values, shown.group.bindUnions, shown.group.graph]

theorem render (same : SameParts .whole tree other) : tree.render = other.render := by
  have sameClauses : tree.clauses = other.clauses := by
    cases same with
    | node shown => exact shown
  simp only [QueryTree.render, textAround, sameClauses, same.hasEmptyGroup, same.groupWords]

theorem sameWords (same : SameParts use tree other) : SameWords use tree other where
  group := same.groupWords
  text isWhole := by
    subst isWhole
    exact same.render

end SameParts

end QueryTree

end Sparql
