import Mathlib.Data.List.Infix
import Sparql.Proofs.Session.Script

/-!
# The order of clauses

What a call adds to a query or to an optional part stands behind what was there. So the clauses of every kind
are in the order in which they were added, apart from those of which a query has but one.
-/

namespace Sparql

/-- Clauses that have others behind them later on. -/
structure Clauses.GrowsInto (clauses after : Clauses) : Prop where
  patterns : clauses.patterns <+: after.patterns
  filters : clauses.filters <+: after.filters
  bindUnions : clauses.bindUnions <+: after.bindUnions

/-- An optional part that has more behind its patterns and filters later on. -/
structure OptionalGroup.GrowsInto (group after : OptionalGroup) : Prop where
  patterns : group.patterns <+: after.patterns
  filters : group.filters <+: after.filters

/-- A query that has more behind its clauses and behind what hangs on it later on. -/
structure QueryRecord.GrowsInto (record after : QueryRecord) : Prop where
  clauses : record.clauses.GrowsInto after.clauses
  optionals : record.optionals <+: after.optionals
  subqueries : record.subqueries <+: after.subqueries
  unions : record.unions <+: after.unions
  minuses : record.minuses <+: after.minuses
  services : record.services <+: after.services

/-- Items that are each related to what stands at the same place later on. -/
structure Places {α : Type} (relation : α → α → Prop) (items after : List α) : Prop where
  later : ∀ (index : Nat) (item : α), items[index]? = some item →
    ∃ other, after[index]? = some other ∧ relation item other

/-- A store whose queries and optional parts have more behind their own later on. -/
structure Store.GrowsInto (store after : Store) : Prop where
  queries : Places QueryRecord.GrowsInto store.queries after.queries
  groups : Places OptionalGroup.GrowsInto store.groups after.groups

/-! ## Queries and optional parts -/

theorem Clauses.GrowsInto.refl (clauses : Clauses) : clauses.GrowsInto clauses := by
  constructor <;> exact List.prefix_rfl

theorem Clauses.GrowsInto.trans {clauses middle after : Clauses} (first : clauses.GrowsInto middle)
    (second : middle.GrowsInto after) : clauses.GrowsInto after where
  patterns := first.patterns.trans second.patterns
  filters := first.filters.trans second.filters
  bindUnions := first.bindUnions.trans second.bindUnions

theorem Clauses.Change.growsInto {clauses after : Clauses} (change : clauses.Change after) :
    clauses.GrowsInto after := by
  cases change <;> constructor <;> first | exact List.prefix_rfl | exact List.prefix_append _ _

theorem OptionalGroup.GrowsInto.refl (group : OptionalGroup) : group.GrowsInto group := by
  constructor <;> exact List.prefix_rfl

theorem OptionalGroup.GrowsInto.trans {group middle after : OptionalGroup} (first : group.GrowsInto middle)
    (second : middle.GrowsInto after) : group.GrowsInto after where
  patterns := first.patterns.trans second.patterns
  filters := first.filters.trans second.filters

theorem OptionalGroup.Change.growsInto {group after : OptionalGroup} (change : group.Change after) :
    group.GrowsInto after := by
  cases change <;> constructor <;> first | exact List.prefix_rfl | exact List.prefix_append _ _

theorem QueryRecord.GrowsInto.refl (record : QueryRecord) : record.GrowsInto record := by
  constructor <;> first | exact Clauses.GrowsInto.refl _ | exact List.prefix_rfl

theorem QueryRecord.GrowsInto.trans {record middle after : QueryRecord} (first : record.GrowsInto middle)
    (second : middle.GrowsInto after) : record.GrowsInto after where
  clauses := first.clauses.trans second.clauses
  optionals := first.optionals.trans second.optionals
  subqueries := first.subqueries.trans second.subqueries
  unions := first.unions.trans second.unions
  minuses := first.minuses.trans second.minuses
  services := first.services.trans second.services

theorem QueryRecord.Change.growsInto {store : Store} {record after : QueryRecord}
    (change : record.Change store after) : record.GrowsInto after := by
  have same := QueryRecord.GrowsInto.refl record
  cases change with
  | clauses changed => exact { same with clauses := changed.growsInto }
  | optional _ => exact { same with optionals := List.prefix_append _ _ }
  | subqueries _ => exact { same with subqueries := List.prefix_append _ _ }
  | unions _ => exact { same with unions := List.prefix_append _ _ }
  | minuses _ => exact { same with minuses := List.prefix_append _ _ }
  | service _ _ => exact { same with services := List.prefix_append _ _ }
  | answered _ _ _ | thawed _ => exact { same with }

/-! ## Stores -/

namespace Places

variable {α : Type} {relation : α → α → Prop} {items middle after : List α}

theorem append (refl : ∀ item, relation item item) (items added : List α) :
    Places relation items (items ++ added) where
  later index item found := by
    have within := (List.getElem?_eq_some_iff.mp found).1
    exact ⟨item, by rw [List.getElem?_append_left within, found], refl item⟩

theorem refl (refl : ∀ item, relation item item) (items : List α) : Places relation items items where
  later _ item found := ⟨item, found, refl item⟩

theorem set (refl : ∀ item, relation item item) {index : Nat} {item other : α}
    (found : items[index]? = some item) (related : relation item other) :
    Places relation items (items.set index other) where
  later place old isOld := by
    have within := (List.getElem?_eq_some_iff.mp found).1
    by_cases same : index = place
    · subst same
      cases found.symm.trans isOld
      exact ⟨other, List.getElem?_set_self within, related⟩
    · exact ⟨old, by rw [List.getElem?_set_ne same, isOld], refl old⟩

theorem trans (trans : ∀ {first second third : α}, relation first second → relation second third →
      relation first third) (first : Places relation items middle) (second : Places relation middle after) :
    Places relation items after where
  later index item found := by
    rcases first.later index item found with ⟨between, isBetween, toBetween⟩
    rcases second.later index between isBetween with ⟨other, isOther, toOther⟩
    exact ⟨other, isOther, trans toBetween toOther⟩

end Places

namespace Store

variable {store middle after : Store}

theorem GrowsInto.refl (store : Store) : store.GrowsInto store :=
  ⟨.refl .refl store.queries, .refl .refl store.groups⟩

theorem GrowsInto.trans (first : store.GrowsInto middle) (second : middle.GrowsInto after) :
    store.GrowsInto after :=
  ⟨first.queries.trans .trans second.queries, first.groups.trans .trans second.groups⟩

theorem Change.growsInto (change : store.Change after) : store.GrowsInto after := by
  have same := GrowsInto.refl store
  cases change with
  | query _ => exact { same with queries := .append .refl _ _ }
  | queryAt found changed => exact { same with queries := .set .refl found changed.growsInto }
  | group _ => exact { same with groups := .append .refl _ _ }
  | groupAt found changed => exact { same with groups := .set .refl found changed.growsInto }
  | operation _ | operationAt _ _ | client _ | wire _ | register _ _ | unregister _ => exact { same with }

theorem Evolves.growsInto (evolves : store.Evolves after) : store.GrowsInto after := by
  induction evolves with
  | refl => exact .refl store
  | tail _ change ih => exact ih.trans change.growsInto

/-- The clauses that a session has added by some step stand before those that it adds after it. -/
theorem growsInto_of_session (client : Option Client) (answers : List Answer) (earlier later : List Step) :
    (Session.storeAfter (start client answers) earlier).GrowsInto
      (Session.storeAfter (start client answers) (earlier ++ later)) := by
  have closed := closed_of_session client answers earlier
  unfold Session.storeAfter at closed ⊢
  rw [List.foldl_append]
  exact (Session.evolves_storeAfter closed later).growsInto

end Store

end Sparql
