import Mathlib.Data.Finset.Card
import Sparql.Proofs.Session.Reach

/-!
# Trees of queries

What hangs on a query depends on the queries and optional parts of the store alone. A query has a tree unless
it contains itself, or something contains itself that is a part of it.
-/

namespace Sparql.Store

open Relation

variable {store after : Store} {index part : Nat}

/-- Stores with the same queries and optional parts have the same trees. -/
theorem tree?_congr (queries : after.queries = store.queries) (groups : after.groups = store.groups) :
    ∀ depth index, after.tree? depth index = store.tree? depth index := by
  intro depth
  induction depth with
  | zero => exact fun _ => rfl
  | succ depth ih =>
      have same : tree? after depth = tree? store depth := funext ih
      intro index
      simp only [tree?, queries, groups, same]

theorem render_congr (queries : after.queries = store.queries) (groups : after.groups = store.groups)
    (index : Nat) : after.render index = store.render index := by
  simp only [render, tree, queries, tree?_congr queries groups]

theorem text_congr (queries : after.queries = store.queries) (groups : after.groups = store.groups)
    (index : Nat) : after.text index = store.text index := by
  simp only [text, queries, render_congr queries groups]

/-! ## Nesting -/

/-- A query is a part of another: a sub-query, a union branch, a minus or a service. -/
def Nests (store : Store) (index part : Nat) : Prop :=
  ∃ record, store.queries[index]? = some record ∧ part ∈ record.nested

/-- Neither the query nor anything in it contains itself. -/
def Acyclic (store : Store) (index : Nat) : Prop :=
  ∀ part, ReflTransGen store.Nests index part → ¬ TransGen store.Nests part part

theorem Acyclic.of_nests (acyclic : store.Acyclic index) (nests : store.Nests index part) :
    store.Acyclic part :=
  fun inner reached => acyclic inner (.head nests reached)

theorem Closed.nests_lt (closed : store.Closed) (nests : store.Nests index part) :
    part < store.queries.length := by
  rcases nests with ⟨record, found, isPart⟩
  exact closed.nested record (List.mem_of_getElem? found) part isPart

theorem mapM_isSome {α β : Type} {items : List α} {f : α → Option β} :
    (items.mapM f).isSome ↔ ∀ item ∈ items, (f item).isSome := by
  induction items with
  | nil => simp
  | cons item rest ih =>
      simp only [List.mapM_cons, List.mem_cons, forall_eq_or_imp, ← ih]
      cases f item <;> cases rest.mapM f <;> simp

/-- A query has a tree to a depth exactly if each of its parts has one to the depth below. -/
theorem Closed.tree?_isSome {depth : Nat} (closed : store.Closed)
    (known : index < store.queries.length) :
    (store.tree? (depth + 1) index).isSome ↔
      ∀ part, store.Nests index part → (store.tree? depth part).isSome := by
  have found := List.getElem?_eq_getElem known
  generalize store.queries[index] = record at found
  have optionals : (record.optionals.mapM fun group => store.groups[group]?).isSome := by
    refine mapM_isSome.mpr fun group mem => ?_
    simpa using closed.optionals record (List.mem_of_getElem? found) group mem
  -- A tree is made of trees for each kind of part, so it is there exactly if all of them are.
  have parts : (store.tree? (depth + 1) index).isSome ↔
      (record.subqueries.mapM (store.tree? depth)).isSome ∧
      (record.unions.mapM (store.tree? depth)).isSome ∧
      (record.minuses.mapM (store.tree? depth)).isSome ∧
      (record.services.mapM fun (service : ServiceSite × Nat) =>
        (store.tree? depth service.2).map fun tree => (service.1, tree)).isSome := by
    rcases Option.isSome_iff_exists.mp optionals with ⟨groups, isGroups⟩
    simp only [tree?, found, isGroups, Option.bind_eq_bind, Option.bind_some]
    cases record.subqueries.mapM (store.tree? depth) <;>
      cases record.unions.mapM (store.tree? depth) <;>
      cases record.minuses.mapM (store.tree? depth) <;>
      cases record.services.mapM fun (service : ServiceSite × Nat) =>
        (store.tree? depth service.2).map fun tree => (service.1, tree) <;>
      simp
  rw [parts]
  simp only [mapM_isSome, Option.isSome_map]
  constructor
  · rintro ⟨subqueries, unions, minuses, services⟩ part ⟨same, isSame, mem⟩
    cases found.symm.trans isSame
    simp only [QueryRecord.nested, List.mem_append, List.mem_map] at mem
    rcases mem with ((mem | mem) | mem) | ⟨service, mem, rfl⟩
    · exact subqueries part mem
    · exact unions part mem
    · exact minuses part mem
    · exact services service mem
  · intro all
    have nests : ∀ part ∈ record.nested, (store.tree? depth part).isSome :=
      fun part mem => all part ⟨record, found, mem⟩
    simp only [QueryRecord.nested, List.mem_append, List.mem_map] at nests
    exact ⟨fun part mem => nests part (.inl (.inl (.inl mem))),
      fun part mem => nests part (.inl (.inl (.inr mem))),
      fun part mem => nests part (.inl (.inr mem)),
      fun service mem => nests service.2 (.inr ⟨service, mem, rfl⟩)⟩

/-- The ancestors on the way down are all different, so there are too few queries for a way that is longer
than their number. -/
theorem Closed.tree?_isSome_of_acyclic (closed : store.Closed) :
    ∀ (depth : Nat) {index : Nat} (ancestors : Finset Nat), index < store.queries.length →
      store.Acyclic index →
      (∀ above ∈ ancestors, above < store.queries.length ∧ TransGen store.Nests above index) →
      store.queries.length + 1 ≤ depth + ancestors.card →
      (store.tree? depth index).isSome := by
  intro depth
  induction depth with
  | zero =>
      intro index ancestors _ _ above many
      have few : ancestors.card ≤ store.queries.length := by
        simpa using Finset.card_le_card (t := Finset.range store.queries.length)
          fun each mem => Finset.mem_range.mpr (above each mem).1
      omega
  | succ depth ih =>
      intro index ancestors known acyclic above many
      refine (closed.tree?_isSome known).mpr fun part nests => ?_
      have fresh : index ∉ ancestors := fun mem => acyclic index .refl (above index mem).2
      refine ih (insert index ancestors) (closed.nests_lt nests) (acyclic.of_nests nests) ?_ ?_
      · intro each mem
        rcases Finset.mem_insert.mp mem with rfl | old
        · exact ⟨known, .single nests⟩
        · exact ⟨(above each old).1, .tail (above each old).2 nests⟩
      · rw [Finset.card_insert_of_notMem fresh]
        omega

/-- A part of a query that has a tree to a depth has one to a lesser depth. -/
theorem Closed.tree?_of_part {depth : Nat} (closed : store.Closed)
    (known : index < store.queries.length) (hasTree : (store.tree? depth index).isSome)
    (within : TransGen store.Nests index part) :
    ∃ lesser < depth, part < store.queries.length ∧ (store.tree? lesser part).isSome := by
  have below : ∀ {depth above : Nat} {part : Nat}, above < store.queries.length →
      (store.tree? depth above).isSome → store.Nests above part →
      ∃ lesser < depth, part < store.queries.length ∧ (store.tree? lesser part).isSome := by
    intro depth above part known hasTree nests
    cases depth with
    | zero => cases hasTree
    | succ depth =>
        exact ⟨depth, Nat.lt_succ_self depth, closed.nests_lt nests,
          (closed.tree?_isSome known).mp hasTree part nests⟩
  induction within with
  | single nests => exact below known hasTree nests
  | tail _ nests ih =>
      rcases ih with ⟨middle, isLess, middleKnown, middleTree⟩
      rcases below middleKnown middleTree nests with ⟨lesser, isLesser, lesserKnown, lesserTree⟩
      exact ⟨lesser, isLesser.trans isLess, lesserKnown, lesserTree⟩

/-- What has a tree does not contain itself: there would be a tree to ever lesser depths. -/
theorem Closed.not_within_itself (closed : store.Closed) (depth : Nat) {index : Nat}
    (known : index < store.queries.length) (hasTree : (store.tree? depth index).isSome) :
    ¬ TransGen store.Nests index index := by
  induction depth using Nat.strong_induction_on with
  | _ depth ih =>
      intro within
      rcases closed.tree?_of_part known hasTree within with ⟨lesser, isLess, _, lesserTree⟩
      exact ih lesser isLess lesserTree within

theorem Closed.acyclic_of_tree? {depth : Nat} (closed : store.Closed)
    (known : index < store.queries.length) (hasTree : (store.tree? depth index).isSome) :
    store.Acyclic index := by
  intro part reached
  rcases Relation.reflTransGen_iff_eq_or_transGen.mp reached with rfl | within
  · exact closed.not_within_itself depth known hasTree
  · rcases closed.tree?_of_part known hasTree within with ⟨lesser, _, partKnown, partTree⟩
    exact closed.not_within_itself lesser partKnown partTree

/-- A query has a tree exactly if neither it nor anything in it contains itself. -/
theorem Closed.tree_isOk_iff (closed : store.Closed) (known : index < store.queries.length) :
    (∃ tree, store.tree index = .ok tree) ↔ store.Acyclic index := by
  have isSome : (∃ tree, store.tree index = .ok tree) ↔
      (store.tree? (store.queries.length + 1) index).isSome := by
    unfold tree
    cases store.tree? (store.queries.length + 1) index <;> simp
  rw [isSome]
  constructor
  · exact closed.acyclic_of_tree? known
  · intro acyclic
    exact closed.tree?_isSome_of_acyclic _ ∅ known acyclic (by simp) (by simp)

/-! ## What a tree holds -/

/-- The tree of a query: its clauses and its optional parts, and the trees of the queries that hang on it, of each kind
as many and in the same order. -/
inductive IsTree (store : Store) : Nat → QueryTree → Prop
  | node {index : Nat} {record : QueryRecord} {optionals : List OptionalGroup}
      {subqueries unions minuses : List QueryTree} {services : List (ServiceSite × QueryTree)}
      (found : store.queries[index]? = some record)
      (areOptionals : List.Forall₂ (fun number group => store.groups[number]? = some group) record.optionals optionals)
      (areSubqueries : List.Forall₂ (IsTree store) record.subqueries subqueries)
      (areUnions : List.Forall₂ (IsTree store) record.unions unions)
      (areMinuses : List.Forall₂ (IsTree store) record.minuses minuses)
      (areSites : services.map Prod.fst = record.services.map Prod.fst)
      (areServices : List.Forall₂ (IsTree store) (record.services.map Prod.snd) (services.map Prod.snd)) :
      IsTree store index (.node record.clauses optionals subqueries unions minuses services)

theorem exists_left_of_forall₂ {α β : Type} {related : α → β → Prop} {items : List α} {results : List β} {result : β}
    (are : List.Forall₂ related items results) (mem : result ∈ results) : ∃ item ∈ items, related item result := by
  induction are with
  | nil => cases mem
  | @cons item _ _ _ isFirst _ ih =>
      rcases List.mem_cons.mp mem with rfl | mem
      · exact ⟨item, .head _, isFirst⟩
      · rcases ih mem with ⟨other, isOther, same⟩
        exact ⟨other, .tail _ isOther, same⟩

theorem exists_right_of_forall₂ {α β : Type} {related : α → β → Prop} {items : List α} {results : List β} {item : α}
    (are : List.Forall₂ related items results) (mem : item ∈ items) : ∃ result ∈ results, related item result :=
  exists_left_of_forall₂ are.flip mem

theorem forall₂_eq_some_of_mapM {α β : Type} {items : List α} {results : List β} {f : α → Option β}
    (done : items.mapM f = some results) : List.Forall₂ (fun item result => f item = some result) items results := by
  induction items generalizing results with
  | nil =>
      cases done
      exact .nil
  | cons item rest ih =>
      simp only [List.mapM_cons, Option.bind_eq_bind, Option.bind_eq_some_iff, Option.pure_def,
        Option.some.injEq] at done
      rcases done with ⟨first, isFirst, others, areOthers, rfl⟩
      exact .cons isFirst (ih areOthers)

theorem isTree_of_tree? {depth : Nat} {tree : QueryTree} (isTree : store.tree? depth index = some tree) :
    store.IsTree index tree := by
  induction depth generalizing index tree with
  | zero => cases isTree
  | succ depth ih =>
      simp only [tree?, Option.bind_eq_bind, Option.bind_eq_some_iff, Option.pure_def,
        Option.some.injEq] at isTree
      rcases isTree with ⟨record, found, optionals, areOptionals, subqueries, areSubqueries, unions, areUnions, minuses,
        areMinuses, services, areServices, rfl⟩
      have areTrees {numbers : List Nat} {trees : List QueryTree}
          (done : numbers.mapM (store.tree? depth) = some trees) : List.Forall₂ (IsTree store) numbers trees :=
        (forall₂_eq_some_of_mapM done).imp fun _ _ => ih
      have services : services.map Prod.fst = record.services.map Prod.fst ∧
          List.Forall₂ (IsTree store) (record.services.map Prod.snd) (services.map Prod.snd) := by
        have each := forall₂_eq_some_of_mapM areServices
        generalize record.services = given at each
        clear areServices
        induction each with
        | nil => exact ⟨rfl, .nil⟩
        | cons isService _ rest =>
            rcases Option.map_eq_some_iff.mp isService with ⟨tree, isTree, rfl⟩
            exact ⟨congrArg (_ :: ·) rest.1, .cons (ih isTree) rest.2⟩
      exact .node found (forall₂_eq_some_of_mapM areOptionals) (areTrees areSubqueries) (areTrees areUnions)
        (areTrees areMinuses) services.1 services.2

theorem tree?_of_tree {tree : QueryTree} (isTree : store.tree index = .ok tree) :
    store.tree? (store.queries.length + 1) index = some tree := by
  unfold Store.tree at isTree
  split at isTree <;> cases isTree
  assumption

theorem isTree_of_tree {tree : QueryTree} (isTree : store.tree index = .ok tree) : store.IsTree index tree :=
  isTree_of_tree? (tree?_of_tree isTree)

end Sparql.Store
