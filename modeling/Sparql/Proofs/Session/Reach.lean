import Mathlib.Data.Nat.Basic
import Mathlib.Order.Basic
import Sparql.Proofs.Session.Change

/-!
# What a session reaches

A store evolves by changes, and a move is an evolution that says more: which text a query comes to keep, and
which operations there come to be. A part of a session leads from one store to another by moves only, whether it
succeeds or fails; this file states that notion, with a rule for each way in which parts are put together.
-/

namespace Sparql

open Relation

/-- The queries that are parts of a query. -/
def QueryRecord.nested (record : QueryRecord) : List Nat :=
  record.subqueries ++ record.unions ++ record.minuses ++ record.services.map (·.2)

namespace Store

/-- A store that changed any number of times. -/
def Evolves (store after : Store) : Prop := ReflTransGen Change store after

/-- Nothing that a store holds refers to an object that it does not hold. -/
structure Closed (store : Store) : Prop where
  registers : ∀ entry ∈ store.registers, store.Has entry.2
  optionals : ∀ record ∈ store.queries, ∀ group ∈ record.optionals, group < store.groups.length
  nested : ∀ record ∈ store.queries, ∀ query ∈ record.nested, query < store.queries.length

/-- A store that holds at least as many objects. -/
structure Grows (store after : Store) : Prop where
  queries : store.queries.length ≤ after.queries.length
  groups : store.groups.length ≤ after.groups.length
  operations : store.operations.length ≤ after.operations.length

variable {store middle after : Store}

theorem Grows.refl (store : Store) : store.Grows store := ⟨le_rfl, le_rfl, le_rfl⟩

theorem Grows.trans (first : store.Grows middle) (second : middle.Grows after) :
    store.Grows after :=
  ⟨first.queries.trans second.queries, first.groups.trans second.groups,
    first.operations.trans second.operations⟩

theorem Change.grows (change : store.Change after) : store.Grows after := by
  cases change <;> constructor <;> simp [setRegister, restoreRegister]

theorem Evolves.grows (evolves : store.Evolves after) : store.Grows after := by
  induction evolves with
  | refl => exact .refl store
  | tail _ change ih => exact ih.trans change.grows

theorem HasValue.mono {value : Value} (has : store.HasValue value) (grows : store.Grows after) :
    after.HasValue value :=
  fun index isQuery => (has index isQuery).trans_le grows.queries

/-- What a store holds stays. -/
theorem Has.mono {reply : Reply} (has : store.Has reply) (grows : store.Grows after) :
    after.Has reply := by
  cases reply with
  | query index => exact has.trans_le grows.queries
  | group index => exact has.trans_le grows.groups
  | operation index => exact has.trans_le grows.operations
  | text _ | truth _ | client | cacheKey _ | result _ | solutions _ | statements _ => trivial

end Store

/-! ## References -/

namespace QueryRecord

variable {store middle : Store} {record after : QueryRecord}

theorem Change.mono (changed : record.Change store after) (grows : store.Grows middle) :
    record.Change middle after := by
  cases changed with
  | clauses changed => exact .clauses changed
  | optional known => exact .optional (known.trans_le grows.groups)
  | subqueries known => exact .subqueries fun query mem => (known query mem).trans_le grows.queries
  | unions known => exact .unions fun query mem => (known query mem).trans_le grows.queries
  | minuses known => exact .minuses fun query mem => (known query mem).trans_le grows.queries
  | service site known => exact .service site (known.trans_le grows.queries)
  | answered text result unanswered => exact .answered text result unanswered
  | thawed unanswered => exact .thawed unanswered

/-- The optional parts of a changed query are those that it had, and some that the store holds. -/
theorem Change.optionals_known (changed : record.Change store after)
    (known : ∀ group ∈ record.optionals, group < store.groups.length) :
    ∀ group ∈ after.optionals, group < store.groups.length := by
  cases changed with
  | optional added =>
      intro group mem
      rcases List.mem_append.mp mem with old | new
      · exact known group old
      · exact List.mem_singleton.mp new ▸ added
  | _ => exact known

/-- The queries in a changed query are those that were in it, and some that the store holds. -/
theorem Change.nested_known (changed : record.Change store after)
    (known : ∀ query ∈ record.nested, query < store.queries.length) :
    ∀ query ∈ after.nested, query < store.queries.length := by
  simp only [nested, List.mem_append, List.mem_map] at known ⊢
  cases changed with
  | subqueries added | unions added | minuses added | service _ added => grind
  | _ => exact known

end QueryRecord

namespace Store

variable {store after : Store}

theorem mem_of_register {name : String} {reply : Reply}
    (found : store.register? name = some reply) : ∃ entry ∈ store.registers, entry.2 = reply := by
  unfold register? at found
  rcases Option.map_eq_some_iff.mp found with ⟨entry, isFound, rfl⟩
  exact ⟨entry, List.mem_of_find?_eq_some isFound, rfl⟩

theorem Closed.has_of_register (closed : store.Closed) {name : String} {reply : Reply}
    (found : store.register? name = some reply) : store.Has reply := by
  rcases mem_of_register found with ⟨entry, mem, rfl⟩
  exact closed.registers entry mem

/-- A change never makes a store refer to what it does not hold. -/
theorem Change.closed (change : store.Change after) (closed : store.Closed) : after.Closed := by
  have grows := change.grows
  have registers : ∀ entry ∈ store.registers, after.Has entry.2 :=
    fun entry mem => (closed.registers entry mem).mono grows
  have optionals : ∀ record ∈ store.queries, ∀ group ∈ record.optionals,
      group < after.groups.length :=
    fun record mem group isPart => (closed.optionals record mem group isPart).trans_le grows.groups
  have nested : ∀ record ∈ store.queries, ∀ query ∈ record.nested,
      query < after.queries.length :=
    fun record mem query isPart => (closed.nested record mem query isPart).trans_le grows.queries
  cases change with
  | query isNew =>
      rcases isNew with ⟨form, projection, counts, template, binding, rfl⟩
      refine ⟨registers, ?_, ?_⟩ <;> intro record mem part isPart <;>
        rcases List.mem_append.mp mem with old | new
      · exact optionals record old part isPart
      · cases List.mem_singleton.mp new
        cases isPart
      · exact nested record old part isPart
      · cases List.mem_singleton.mp new
        cases isPart
  | queryAt found changed =>
      have mem := List.mem_of_getElem? found
      refine ⟨registers, ?_, ?_⟩ <;> intro record isRecord <;>
        rcases List.mem_or_eq_of_mem_set isRecord with old | rfl
      · exact optionals record old
      · exact changed.optionals_known (closed.optionals _ mem)
      · exact nested record old
      · simpa using changed.nested_known (closed.nested _ mem)
  | register name has =>
      refine ⟨?_, optionals, nested⟩
      intro entry mem
      rcases List.mem_cons.mp mem with rfl | old
      · exact has
      · exact registers entry (List.mem_of_mem_filter old)
  | unregister name =>
      exact ⟨fun entry mem => registers entry (List.mem_of_mem_filter mem), optionals, nested⟩
  | group _ | groupAt _ _ | operation _ | operationAt _ _ | client _ | wire _ =>
      exact ⟨registers, optionals, nested⟩

theorem Evolves.closed (evolves : store.Evolves after) (closed : store.Closed) : after.Closed := by
  induction evolves with
  | refl => exact closed
  | tail _ change ih => exact change.closed ih

end Store

/-! ## Moves -/

/-- An operation that a call makes. -/
def UpdateOperation.IsMade (operation : UpdateOperation) : Prop :=
  ∃ kind arguments, ofCall kind arguments = .ok operation

namespace Store

/-- The text that a query keeps, whatever becomes of its clauses. -/
def frozen? (store : Store) (index : Nat) : Option String := (store.queries[index]?).bind (·.frozen)

/-- An evolution in which a query comes to keep no text but the one that it has from its clauses, and in which
operations are made by calls and do what they did. -/
structure Move (store after : Store) : Prop where
  evolves : store.Evolves after
  frozen : ∀ index text, after.frozen? index = some text →
    store.frozen? index = some text ∨ store.render index = .ok text
  operations : ∀ operation ∈ after.operations,
    (∃ before ∈ store.operations, operation.action = before.action) ∨ operation.IsMade

/-- A store that moved any number of times. -/
def Moves (store after : Store) : Prop := ReflTransGen Move store after

variable {store after : Store}

/-- Most moves have nothing to do with kept texts and operations. -/
theorem Move.quiet (evolves : store.Evolves after)
    (frozen : ∀ index, after.frozen? index = store.frozen? index)
    (operations : after.operations = store.operations) : store.Move after where
  evolves := evolves
  frozen index text isText := .inl (by rwa [frozen] at isText)
  operations operation mem := .inl ⟨operation, by rwa [operations] at mem, rfl⟩

theorem Moves.evolves (moves : store.Moves after) : store.Evolves after := by
  induction moves with
  | refl => exact .refl
  | tail _ move ih => exact ReflTransGen.trans ih move.evolves

theorem Moves.grows (moves : store.Moves after) : store.Grows after := moves.evolves.grows

theorem Moves.closed (moves : store.Moves after) (closed : store.Closed) : after.Closed :=
  moves.evolves.closed closed

theorem moves_register (name : String) {reply : Reply} (has : store.Has reply) :
    store.Moves (store.setRegister name reply) :=
  .single (.quiet (.single (.register name has)) (fun _ => rfl) rfl)

theorem moves_unregister (name : String) : store.Moves (store.restoreRegister name none) :=
  .single (.quiet (.single (.unregister name)) (fun _ => rfl) rfl)

theorem moves_query {record : QueryRecord} (isNew : record.IsNew) :
    store.Moves { store with queries := store.queries ++ [record] } := by
  refine .single (.quiet (.single (.query isNew)) (fun index => ?_) rfl)
  rcases isNew with ⟨form, projection, counts, template, binding, rfl⟩
  simp only [frozen?, List.getElem?_append]
  split
  · rfl
  · next beyond =>
      rw [List.getElem?_eq_none (by omega : store.queries.length ≤ index)]
      rcases (index - store.queries.length) with _ | _ <;> rfl

end Store

/-! ## Parts of a session -/

namespace Session

variable {α β : Type} {store after : Store} {holds : Store → α → Prop}

/-- A part of a session that moves a closed store, and gives what it should if it succeeds. -/
def Leads (run : Session α) (store : Store) (holds : Store → α → Prop) : Prop :=
  store.Closed → store.Moves (perform run store).2 ∧
    ∀ value, (perform run store).1 = .ok value → holds (perform run store).2 value

theorem leads_of_closed {run : Session α} (leads : store.Closed → Leads run store holds) :
    Leads run store holds :=
  fun closed => leads closed closed

theorem leads_pure {value : α} (gives : holds store value) : Leads (pure value) store holds :=
  fun _ => ⟨.refl, fun _ done => by cases done; exact gives⟩

theorem leads_throw {failure : Failure} : Leads (throw failure) store holds :=
  fun _ => ⟨.refl, fun _ done => by cases done⟩

theorem leads_fault {cause : Fault} : Leads (fault cause) store holds := leads_throw

theorem leads_refuse {cause : ConstructionError} : Leads (refuse cause) store holds := leads_throw

theorem leads_ofOutcome {outcome : Outcome α} (gives : ∀ value, outcome = .ok value → holds store value) :
    Leads (ofOutcome outcome) store holds := by
  intro _
  rw [perform_ofOutcome]
  exact ⟨.refl, gives⟩

theorem leads_bind {run : Session α} {rest : α → Session β} {middle : Store → α → Prop}
    {holds : Store → β → Prop} (first : Leads run store middle)
    (second : ∀ value after, store.Moves after → middle after value →
      Leads (rest value) after holds) :
    Leads (run >>= rest) store holds := by
  intro closed
  rcases first closed with ⟨moves, gives⟩
  rw [perform_bind]
  rcases performed : perform run store with ⟨_ | value, after⟩
  · rw [performed] at moves
    exact ⟨moves, fun _ done => by cases done⟩
  · rw [performed] at moves gives
    rcases second value after moves (gives value rfl) (moves.closed closed)
      with ⟨further, result⟩
    exact ⟨ReflTransGen.trans moves further, result⟩

theorem leads_get_bind {rest : Store → Session α} (leads : Leads (rest store) store holds) :
    Leads (get >>= rest) store holds := by
  intro closed
  rw [perform_bind_ok (perform_get store)]
  exact leads closed

theorem leads_ofOutcome_bind {outcome : Outcome β} {rest : β → Session α}
    (leads : ∀ value, outcome = .ok value → Leads (rest value) store holds) :
    Leads (ofOutcome outcome >>= rest) store holds := by
  cases outcome with
  | ok value => exact leads value rfl
  | error failure => exact leads_throw

theorem leads_modify {change : Store → Store} {holds : Store → Unit → Prop}
    (moves : store.Moves (change store)) (gives : holds (change store) ()) :
    Leads (modify change) store holds :=
  fun _ => ⟨moves, fun _ _ => gives⟩

theorem leads_tryFinally {run : Session α} {change : Store → Store}
    (leads : Leads run store fun after value => holds (change after) value)
    (last : ∀ after, store.Moves after → after.Moves (change after)) :
    Leads (tryFinally run (modify change)) store holds := by
  intro closed
  rcases leads closed with ⟨moves, gives⟩
  rw [perform_tryFinally]
  exact ⟨ReflTransGen.trans moves (last _ moves), gives⟩

/-- Parts of a session that are run one after the other. -/
theorem leads_forM {items : List β} {run : β → Session Unit}
    (each : ∀ item ∈ items, ∀ after, store.Moves after →
      Leads (run item) after fun _ _ => True) :
    Leads (items.forM run) store fun _ _ => True := by
  induction items generalizing store with
  | nil => exact leads_pure trivial
  | cons item rest ih =>
      refine leads_bind (each item (.head _) store .refl) fun _ after moves _ => ?_
      exact ih fun other mem later further =>
        each other (.tail _ mem) later (ReflTransGen.trans moves further)

/-! ## Queries and groups -/

/-- A query that changes one of the listed ways, perhaps several times. -/
theorem evolves_modify_query {index : Nat} {change : QueryRecord → QueryRecord}
    (changed : ∀ record, store.queries[index]? = some record →
      ReflTransGen (QueryRecord.Change store) record (change record)) :
    store.Evolves { store with queries := store.queries.modify index change } := by
  rw [List.modify_eq_set_getElem?]
  rcases found : store.queries[index]? with _ | record
  · exact .refl
  · rcases List.getElem?_eq_some_iff.mp found with ⟨inRange, rfl⟩
    have unchanged := List.set_getElem_self inRange
    suffices ∀ {after}, ReflTransGen (QueryRecord.Change store) store.queries[index] after →
        store.Evolves { store with queries := store.queries.set index after } from
      this (changed _ found)
    intro after steps
    induction steps with
    | refl => rw [unchanged]; exact .refl
    | @tail middle after _ step ih =>
        refine ih.tail ?_
        have changedAgain := step.mono ih.grows
        have foundAgain : (store.queries.set index middle)[index]? = some middle := by
          simp [inRange]
        simpa using Store.Change.queryAt foundAgain changedAgain

theorem moves_modify_query {index : Nat} {change : QueryRecord → QueryRecord}
    (changed : ∀ record, store.queries[index]? = some record →
      ReflTransGen (QueryRecord.Change store) record (change record))
    (quiet : ∀ record, (change record).frozen = record.frozen) :
    store.Moves { store with queries := store.queries.modify index change } := by
  refine .single (.quiet (evolves_modify_query changed) (fun other => ?_) rfl)
  simp only [Store.frozen?, List.getElem?_modify]
  split
  · cases store.queries[other]? with
    | none => rfl
    | some record => exact quiet record
  · simp

theorem leads_query_bind {index : Nat} {rest : QueryRecord → Session α}
    (leads : ∀ record, store.queries[index]? = some record → Leads (rest record) store holds) :
    Leads (query index >>= rest) store holds := by
  intro closed
  rw [perform_bind, perform_query]
  rcases found : store.queries[index]? with _ | record
  · exact ⟨.refl, fun _ done => by cases done⟩
  · exact leads record found closed

theorem leads_changeQuery {index : Nat} {change : QueryRecord → QueryRecord}
    {holds : Store → Unit → Prop}
    (changed : ∀ record, store.queries[index]? = some record →
      ReflTransGen (QueryRecord.Change store) record (change record))
    (quiet : ∀ record, (change record).frozen = record.frozen)
    (gives : holds { store with queries := store.queries.modify index change } ()) :
    Leads (changeQuery index change) store holds :=
  leads_modify (moves_modify_query changed quiet) gives

end Session

end Sparql
