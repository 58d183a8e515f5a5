import Sparql.Proofs.Session.Frame

/-!
# Texts that stay the same

The text of a query depends on the query, on what is nested in it at any depth and on the optional parts of
these. As long as none of them is changed, the query keeps its text, however many objects are added.
-/

namespace Sparql.Store

open Relation

variable {store other after : Store} {changed : List ObjectRef} {index : Nat}

/-! ## Trees that agree -/

/-- What is read of every item of a list may be read in another way that agrees where the first succeeds. -/
theorem mapM_eq_some_of {α β : Type} {items : List α} {results : List β} {first second : α → Option β}
    (read : items.mapM first = some results)
    (agree : ∀ item ∈ items, ∀ result, first item = some result → second item = some result) :
    items.mapM second = some results := by
  induction items generalizing results with
  | nil => exact read
  | cons item rest ih =>
      simp only [List.mapM_cons, Option.bind_eq_bind, Option.bind_eq_some_iff, Option.pure_def] at read ⊢
      rcases read with ⟨result, isRead, others, othersRead, isList⟩
      exact ⟨result, agree item (.head _) result isRead, others,
        ih othersRead fun other mem => agree other (.tail _ mem), isList⟩

/-- What is read of every item of a list in two ways is related item by item. -/
theorem forall₂_of_mapM {α β : Type} {items : List α} {results others : List β} {first second : α → Option β}
    {related : β → β → Prop} (read : items.mapM first = some results) (readAgain : items.mapM second = some others)
    (agree : ∀ item ∈ items, ∀ result other, first item = some result → second item = some other →
      related result other) : List.Forall₂ related results others := by
  induction items generalizing results others with
  | nil =>
      cases read
      cases readAgain
      exact .nil
  | cons item rest ih =>
      simp only [List.mapM_cons, Option.bind_eq_bind, Option.bind_eq_some_iff, Option.pure_def, Option.some.injEq]
        at read readAgain
      rcases read with ⟨result, isRead, results, areRead, rfl⟩
      rcases readAgain with ⟨other, isReadAgain, others, areReadAgain, rfl⟩
      exact .cons (agree item (.head _) result other isRead isReadAgain)
        (ih areRead areReadAgain fun item mem => agree item (.tail _ mem))

/-- The tree of a query is found again where the query, its optional parts and the trees of its parts are. -/
theorem tree?_of_parts {depth otherDepth : Nat} {tree : QueryTree}
    (hasTree : store.tree? (depth + 1) index = some tree)
    (sameRecord : ∀ record, store.queries[index]? = some record → other.queries[index]? = some record)
    (sameGroups : ∀ record, store.queries[index]? = some record → ∀ number ∈ record.optionals,
      ∀ group, store.groups[number]? = some group → other.groups[number]? = some group)
    (sameParts : ∀ part, store.Nests index part → ∀ tree, store.tree? depth part = some tree →
      other.tree? otherDepth part = some tree) :
    other.tree? (otherDepth + 1) index = some tree := by
  simp only [tree?, Option.bind_eq_bind, Option.bind_eq_some_iff] at hasTree ⊢
  rcases hasTree with ⟨record, found, optionals, isOptionals, subqueries, isSubqueries, unions,
    isUnions, minuses, isMinuses, services, isServices, isTree⟩
  have nested : ∀ part ∈ record.nested, ∀ tree, store.tree? depth part = some tree →
      other.tree? otherDepth part = some tree :=
    fun part mem => sameParts part ⟨record, found, mem⟩
  simp only [QueryRecord.nested, List.mem_append, List.mem_map] at nested
  refine ⟨record, sameRecord record found, optionals, mapM_eq_some_of isOptionals (sameGroups record found),
    subqueries, mapM_eq_some_of isSubqueries fun part mem => nested part (.inl (.inl (.inl mem))),
    unions, mapM_eq_some_of isUnions fun part mem => nested part (.inl (.inl (.inr mem))),
    minuses, mapM_eq_some_of isMinuses fun part mem => nested part (.inl (.inr mem)),
    services, mapM_eq_some_of isServices fun service mem result isResult => ?_, isTree⟩
  rcases Option.map_eq_some_iff.mp isResult with ⟨part, isPart, rfl⟩
  rw [nested service.2 (.inr ⟨service, mem, rfl⟩) part isPart]
  rfl

theorem tree?_succ {depth : Nat} {tree : QueryTree} (hasTree : store.tree? depth index = some tree) :
    store.tree? (depth + 1) index = some tree := by
  induction depth generalizing index tree with
  | zero => cases hasTree
  | succ depth ih =>
      exact tree?_of_parts hasTree (fun _ found => found) (fun _ _ _ _ _ found => found) fun _ _ _ => ih

/-- More depth than there are queries gives the same tree. -/
theorem Closed.tree?_of_le {depth : Nat} (closed : store.Closed) (known : index < store.queries.length)
    (enough : store.queries.length + 1 ≤ depth) :
    store.tree? depth index = store.tree? (store.queries.length + 1) index := by
  rcases hasTree : store.tree? (store.queries.length + 1) index with _ | tree
  · by_contra deeper
    have isSome : (store.tree? depth index).isSome := Option.isSome_iff_ne_none.mpr deeper
    have acyclic := closed.acyclic_of_tree? known isSome
    have found := closed.tree?_isSome_of_acyclic (store.queries.length + 1) ∅ known acyclic
      (by simp) (by simp)
    rw [hasTree] at found
    cases found
  · induction depth, enough using Nat.le_induction with
    | base => exact hasTree
    | succ depth _ ih => exact tree?_succ ih

theorem Closed.tree_of_tree? {depth : Nat} {tree : QueryTree} (closed : store.Closed)
    (known : index < store.queries.length) (hasTree : store.tree? depth index = some tree) :
    store.tree index = .ok tree := by
  have deeper (more : Nat) : store.tree? (depth + more) index = some tree := by
    induction more with
    | zero => exact hasTree
    | succ more ih => exact tree?_succ ih
  have enough := closed.tree?_of_le known (Nat.le_add_left (store.queries.length + 1) depth)
  rw [Store.tree, ← enough, deeper]

/-! ## Queries apart from a change -/

/-- No changed object is a part of a query, at any depth, or is the query itself. -/
def IsApart (store : Store) (changed : List ObjectRef) (index : Nat) : Prop :=
  ∀ part, ReflTransGen store.Nests index part → .query part ∉ changed ∧
    ∀ record, store.queries[part]? = some record → ∀ number ∈ record.optionals, .group number ∉ changed

theorem isApart_nil : store.IsApart [] index := fun _ _ => ⟨by simp, by simp⟩

theorem IsApart.of_nests {part : Nat} (apart : store.IsApart changed index)
    (nests : store.Nests index part) : store.IsApart changed part :=
  fun inner reached => apart inner (.head nests reached)

theorem Keeps.getElem?_queries (keeps : Keeps changed store after) (known : index < store.queries.length)
    (notChanged : .query index ∉ changed) : after.queries[index]? = store.queries[index]? := by
  have found := List.getElem?_eq_getElem known
  rw [found, keeps.queries index _ found notChanged]

theorem Keeps.getElem?_groups (keeps : Keeps changed store after) (known : index < store.groups.length)
    (notChanged : .group index ∉ changed) : after.groups[index]? = store.groups[index]? := by
  have found := List.getElem?_eq_getElem known
  rw [found, keeps.groups index _ found notChanged]

/-- A query keeps its tree when nothing in it is changed. -/
theorem Keeps.tree?_eq (keeps : Keeps changed store after) (closed : store.Closed) (depth : Nat) :
    ∀ {index : Nat}, index < store.queries.length → store.IsApart changed index →
      after.tree? depth index = store.tree? depth index := by
  induction depth with
  | zero => exact fun _ _ => rfl
  | succ depth ih =>
      intro index known apart
      have sameRecord := keeps.getElem?_queries known (apart index .refl).1
      have sameGroups : ∀ record, store.queries[index]? = some record → ∀ number ∈ record.optionals,
          after.groups[number]? = store.groups[number]? := fun record found number mem =>
        keeps.getElem?_groups (closed.optionals record (List.mem_of_getElem? found) number mem)
          ((apart index .refl).2 record found number mem)
      have sameNests : ∀ part, after.Nests index part ↔ store.Nests index part := by
        intro part
        simp only [Nests, sameRecord]
      have sameParts : ∀ part, store.Nests index part →
          after.tree? depth part = store.tree? depth part :=
        fun part nests => ih (closed.nests_lt nests) (apart.of_nests nests)
      refine Option.ext fun tree => ⟨fun hasTree => ?_, fun hasTree => ?_⟩
      · refine tree?_of_parts hasTree (fun _ found => sameRecord ▸ found) ?_ ?_
        · intro record found number mem group isGroup
          rwa [sameGroups record (sameRecord ▸ found) number mem] at isGroup
        · intro part nests tree isPart
          rwa [sameParts part ((sameNests part).mp nests)] at isPart
      · refine tree?_of_parts hasTree (fun _ found => sameRecord ▸ found) ?_ ?_
        · intro record found number mem group isGroup
          rwa [sameGroups record found number mem]
        · intro part nests tree isPart
          rwa [sameParts part nests]

theorem Keeps.tree_eq (keeps : Keeps changed store after) (closed : store.Closed)
    (known : index < store.queries.length) (apart : store.IsApart changed index) :
    after.tree index = store.tree index := by
  unfold tree
  rw [keeps.tree?_eq closed _ known apart,
    closed.tree?_of_le known (Nat.succ_le_succ keeps.grows.queries)]

/-- A query keeps its text when nothing in it is changed. -/
theorem Keeps.text_eq (keeps : Keeps changed store after) (closed : store.Closed)
    (known : index < store.queries.length) (apart : store.IsApart changed index) :
    after.text index = store.text index := by
  unfold text render
  rw [keeps.getElem?_queries known (apart index .refl).1, keeps.tree_eq closed known apart]

theorem Keeps.groupText_eq (keeps : Keeps changed store after) (known : index < store.groups.length)
    (notChanged : .group index ∉ changed) : after.groupText index = store.groupText index := by
  unfold groupText
  rw [keeps.getElem?_groups known notChanged]

end Sparql.Store
