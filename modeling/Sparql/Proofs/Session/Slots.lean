import Mathlib.Logic.Function.Basic
import Sparql.Proofs.Session.Kept

/-!
# Slots of a query

What the calls on a query write stands in slots: a list that grows, or a setting that is replaced. With the trees of
its parts in place of their numbers, the slots of a query and the form that it was made with are all that its text
is read from. An edit changes one slot by what stood there before, so of any number of edits those of one slot
decide what stands there in the end.
-/

namespace Sparql

open Relation

/-- A place of a query that calls write. -/
inductive Slot where
  | patterns
  | subqueries
  | optionals
  | filters
  | unions
  | minuses
  | services
  | bindUnions
  | values
  | orderBy
  | groupBy
  | distinct
  | reduced
  | graph
  | fromGraphs
  | offset
  | limit
  | prologue
deriving DecidableEq, Repr

/-- What can stand in a slot. A part of a query stands there as its tree, if it has one. -/
abbrev Slot.Content : Slot → Type
  | .patterns => List Pattern
  | .subqueries | .unions | .minuses => List (Option QueryTree)
  | .optionals => List (Option OptionalGroup)
  | .filters | .prologue => List String
  | .fromGraphs => List Term
  | .services => List (ServiceSite × Option QueryTree)
  | .bindUnions => List BindUnion
  | .values => Option ValuesBlock
  | .orderBy | .groupBy => List OrderCondition
  | .distinct | .reduced => Bool
  | .graph => Option Term
  | .offset | .limit => Option Int

/-- What stands in the slots of a query. -/
def Contents : Type := ∀ slot : Slot, slot.Content

/-! ## Edits -/

/-- A change of one slot. -/
structure Edit where
  slot : Slot
  change : slot.Content → slot.Content

namespace Contents

variable {contents first second : Contents} {edit : Edit} {edits : List Edit} {slot : Slot}

/-- What stands in the slots after an edit. -/
def apply (contents : Contents) (edit : Edit) : Contents :=
  Function.update contents edit.slot (edit.change (contents edit.slot))

/-- What stands in the slots after some edits. -/
def applyAll (contents : Contents) (edits : List Edit) : Contents := edits.foldl apply contents

theorem apply_of_ne (isOther : edit.slot ≠ slot) : contents.apply edit slot = contents slot :=
  Function.update_of_ne isOther.symm ..

theorem apply_congr (same : first slot = second slot) : first.apply edit slot = second.apply edit slot := by
  by_cases isSlot : edit.slot = slot
  · subst isSlot
    rw [apply, apply, same]
    exact (Function.update_self ..).trans (Function.update_self ..).symm
  · rw [apply_of_ne isSlot, apply_of_ne isSlot, same]

theorem applyAll_append (contents : Contents) (edits more : List Edit) :
    contents.applyAll (edits ++ more) = (contents.applyAll edits).applyAll more :=
  List.foldl_append

/-- An edit that changes nothing may be left out. -/
theorem applyAll_unless {idle : Prop} [Decidable idle] (same : idle → edit.change = id) :
    contents.applyAll (if idle then [] else [edit]) = contents.apply edit := by
  split
  · rw [apply, same ‹_›]
    exact (Function.update_eq_self ..).symm
  · rfl

/-- The edits of a slot alone decide what stands there in the end. -/
theorem applyAll_filter (same : first slot = second slot) :
    first.applyAll edits slot = second.applyAll (edits.filter (·.slot = slot)) slot := by
  induction edits generalizing first second with
  | nil => exact same
  | cons edit rest ih =>
      by_cases isSlot : edit.slot = slot
      · rw [List.filter_cons_of_pos (by simpa using isSlot)]
        exact ih (apply_congr same)
      · rw [List.filter_cons_of_neg (by simpa using isSlot)]
        exact ih ((apply_of_ne isSlot).trans same)

/-- Edits that are the same for each slot come to the same. -/
theorem applyAll_eq {more : List Edit}
    (same : ∀ slot, edits.filter (·.slot = slot) = more.filter (·.slot = slot)) :
    contents.applyAll edits = contents.applyAll more := by
  funext slot
  rw [applyAll_filter rfl, same, ← applyAll_filter rfl]

end Contents

/-! ## Slots and texts -/

/-- The clauses that a query was made with: its form and what the form asks for. -/
def Clauses.made (clauses : Clauses) : Clauses :=
  { form := clauses.form, projection := clauses.projection, counts := clauses.counts, template := clauses.template }

/-- The clauses that stand in the slots of a query. -/
def Contents.clauses (contents : Contents) (made : Clauses) : Clauses :=
  { made with
    fromGraphs := contents .fromGraphs
    patterns := contents .patterns
    filters := contents .filters
    values := contents .values
    bindUnions := contents .bindUnions
    graph := contents .graph
    orderBy := contents .orderBy
    groupBy := contents .groupBy
    offset := contents .offset
    limit := contents .limit
    distinct := contents .distinct
    reduced := contents .reduced
    prologue := contents .prologue }

/-- The tree that has the given slots, if each part has one. -/
def Contents.tree? (contents : Contents) (made : Clauses) : Option QueryTree := do
  let optionals ← (contents .optionals).mapM id
  let subqueries ← (contents .subqueries).mapM id
  let unions ← (contents .unions).mapM id
  let minuses ← (contents .minuses).mapM id
  let services ← (contents .services).mapM fun (site, tree) => tree.map fun tree => (site, tree)
  return .node (contents.clauses made) optionals subqueries unions minuses services

namespace Store

variable {store other after : Store} {index part : Nat} {record later : QueryRecord}

/-- The tree of a query, if it has one. -/
def part? (store : Store) (index : Nat) : Option QueryTree := (store.tree index).toOption

/-- What stands in the slots of a query. -/
def contents (store : Store) (record : QueryRecord) : Contents
  | .patterns => record.clauses.patterns
  | .subqueries => record.subqueries.map store.part?
  | .optionals => record.optionals.map (store.groups[·]?)
  | .filters => record.clauses.filters
  | .unions => record.unions.map store.part?
  | .minuses => record.minuses.map store.part?
  | .services => record.services.map fun service => (service.1, store.part? service.2)
  | .bindUnions => record.clauses.bindUnions
  | .values => record.clauses.values
  | .orderBy => record.clauses.orderBy
  | .groupBy => record.clauses.groupBy
  | .distinct => record.clauses.distinct
  | .reduced => record.clauses.reduced
  | .graph => record.clauses.graph
  | .fromGraphs => record.clauses.fromGraphs
  | .offset => record.clauses.offset
  | .limit => record.clauses.limit
  | .prologue => record.clauses.prologue

theorem part?_eq_tree? : store.part? index = store.tree? (store.queries.length + 1) index := by
  unfold part? tree
  cases store.tree? (store.queries.length + 1) index <;> rfl

theorem tree_eq_of_part? (same : other.part? index = store.part? index) : other.tree index = store.tree index := by
  rw [part?_eq_tree?, part?_eq_tree?] at same
  unfold tree
  rw [same]

/-- The tree of a query is made of those of its parts. -/
theorem Closed.part?_eq_node (closed : store.Closed) (found : store.queries[index]? = some record) :
    store.part? index = (do
      let optionals ← record.optionals.mapM fun group => store.groups[group]?
      let subqueries ← record.subqueries.mapM store.part?
      let unions ← record.unions.mapM store.part?
      let minuses ← record.minuses.mapM store.part?
      let services ← record.services.mapM fun (site, query) => (store.part? query).map fun tree => (site, tree)
      return .node record.clauses optionals subqueries unions minuses services) := by
  have known := (List.getElem?_eq_some_iff.mp found).1
  have parts : store.tree? (store.queries.length + 1) = store.part? := funext fun _ => part?_eq_tree?.symm
  rw [part?_eq_tree?, ← closed.tree?_of_le known (Nat.le_succ _), tree?, parts, found]
  rfl

/-- The tree of a query is read from its slots. -/
theorem Closed.part?_eq (closed : store.Closed) (found : store.queries[index]? = some record) :
    store.part? index = (store.contents record).tree? record.clauses.made := by
  rw [closed.part?_eq_node found]
  simp only [Contents.tree?, contents, List.mapM_map]
  rfl

/-- Queries with the same slots have the same text. -/
theorem text_eq_of_contents (closed : store.Closed) (otherClosed : other.Closed)
    (found : store.queries[index]? = some record) (otherFound : other.queries[index]? = some later)
    (sameFrozen : later.frozen = record.frozen) (sameMade : later.clauses.made = record.clauses.made)
    (same : other.contents later = store.contents record) : other.text index = store.text index := by
  have sameTree : other.tree index = store.tree index := by
    refine tree_eq_of_part? ?_
    rw [otherClosed.part?_eq otherFound, closed.part?_eq found, sameMade, same]
  simp only [text, render, found, otherFound, Option.bind_some, sameFrozen, sameTree]

/-! ## A query that is changed -/

theorem Keeps.part?_eq {changed : List ObjectRef} (keeps : Keeps changed store after) (closed : store.Closed)
    (known : index < store.queries.length) (apart : store.IsApart changed index) :
    after.part? index = store.part? index := by
  rw [part?, part?, keeps.tree_eq closed known apart]

/-- A part is apart from a query that is not in it. -/
theorem isApart_of_not_reached (outside : ¬ ReflTransGen store.Nests part index) :
    store.IsApart [.query index] part := by
  intro inner reached
  have isOther : inner ≠ index := fun same => outside (same ▸ reached)
  simpa using isOther

theorem Closed.part?_eq_none (closed : store.Closed) (known : index < store.queries.length)
    (isCyclic : ¬ store.Acyclic index) : store.part? index = none := by
  rcases isTree : store.tree index with cause | tree
  · rw [part?, isTree]
    rfl
  · exact absurd ((closed.tree_isOk_iff known).mp ⟨tree, isTree⟩) isCyclic

/-- What is nested stays nested when a query only takes in more. -/
theorem Spares.nests (spares : Spares [.query index] store after) (found : store.queries[index]? = some record)
    (foundLater : after.queries[index]? = some later) (keeps : record.nested ⊆ later.nested) {above below : Nat}
    (nests : store.Nests above below) : after.Nests above below := by
  rcases nests with ⟨between, isAbove, isPart⟩
  by_cases same : above = index
  · subst same
    cases isAbove.symm.trans found
    exact ⟨later, foundLater, keeps isPart⟩
  · exact ⟨between, spares.queries above between isAbove (by simpa using same), isPart⟩

/-- The slots of a query that takes in more hold what they held: its parts keep their trees. A part that the query
is in itself has none, before and after. -/
theorem Spares.contents_eq (spares : Spares [.query index] store after) (closed : store.Closed)
    (afterClosed : after.Closed) (found : store.queries[index]? = some record)
    (foundLater : after.queries[index]? = some later) (keeps : record.nested ⊆ later.nested) :
    after.contents record = store.contents record := by
  have parts : ∀ part ∈ record.nested, after.part? part = store.part? part := by
    intro part mem
    have nests : store.Nests index part := ⟨record, found, mem⟩
    have known := closed.nests_lt nests
    by_cases inside : ReflTransGen store.Nests part index
    · have still : ReflTransGen after.Nests part index :=
        inside.lift id fun _ _ => spares.nests found foundLater keeps
      have cyclic : ∀ {each : Store}, ReflTransGen each.Nests part index → each.Nests index part →
          ¬ each.Acyclic part := fun reached nests acyclic => acyclic part .refl (.tail' reached nests)
      rw [closed.part?_eq_none known (cyclic inside nests), afterClosed.part?_eq_none
        (known.trans_le spares.grows.queries) (cyclic still (spares.nests found foundLater keeps nests))]
    · exact spares.keeps.part?_eq closed known (isApart_of_not_reached inside)
  simp only [QueryRecord.nested, List.mem_append, List.mem_map] at parts
  have mem := List.mem_of_getElem? found
  funext slot
  cases slot with
  | subqueries => exact List.map_congr_left fun part isPart => parts part (.inl (.inl (.inl isPart)))
  | unions => exact List.map_congr_left fun part isPart => parts part (.inl (.inl (.inr isPart)))
  | minuses => exact List.map_congr_left fun part isPart => parts part (.inl (.inr isPart))
  | services =>
      refine List.map_congr_left fun service isService => ?_
      rw [parts service.2 (.inr ⟨service, isService, rfl⟩)]
  | optionals =>
      refine List.map_congr_left fun group isGroup => ?_
      exact spares.keeps.getElem?_groups (closed.optionals record mem group isGroup) (by simp)
  | _ => rfl

end Store

end Sparql
