import Mathlib.Logic.Relation
import Sparql.Proofs.Outcome
import Sparql.Proofs.Session.Run

/-!
# What a session can change

The calls of a session are many, but what they can do to a store is little. `Clauses.Change`,
`QueryRecord.Change` and `Store.Change` list it, one constructor for each way in which clauses, a query or a
store can come to differ; every later statement about all calls is a case analysis of these three relations.

A change never refers to an object that the store does not hold: that is part of `Store.Change`, and it makes
`Store.Closed` hold of every store that a session reaches.
-/

namespace Sparql

/-! ## Clauses -/

/-- How the clauses of a query can change. -/
inductive Clauses.Change (clauses : Clauses) : Clauses → Prop
  | patterns (added : List Pattern) :
      Change clauses { clauses with patterns := clauses.patterns ++ added }
  | filters {value : Value} {added : List FilterExpression} (read : filterExpression value = .ok added) :
      Change clauses { clauses with filters := clauses.filters ++ added.map (·.text) }
  | values {named : Value} {data : List Value} {block : ValuesBlock}
      (read : valuesBlock named data = .ok block) :
      Change clauses { clauses with values := some block }
  | bindUnion {branches : List Value} {optional : Value} {union : BindUnion}
      (read : bindUnionOf branches optional = .ok union) :
      Change clauses { clauses with bindUnions := clauses.bindUnions ++ [union] }
  | orderBy {entries : List Value} {read : List OrderCondition} (done : conditions entries = .ok read) :
      Change clauses { clauses with orderBy := read }
  | direction (name : String) {direction : String} (known : direction ∈ directions) :
      Change clauses
        { clauses with orderBy := clauses.orderBy ++ [.variable name (some direction)] }
  | groupBy {entries : List Value} {read : List OrderCondition} (done : conditions entries = .ok read) :
      Change clauses { clauses with groupBy := read }
  | distinct (distinct : Bool) : Change clauses { clauses with distinct }
  | reduced (reduced : Bool) : Change clauses { clauses with reduced }
  | graph (graph : Term) : Change clauses { clauses with graph := some graph }
  | fromGraphs (added : List String) :
      Change clauses { clauses with fromGraphs := clauses.fromGraphs ++ added.map .iri }
  | offset {offset : Int} (bound : 0 ≤ offset) : Change clauses { clauses with offset := some offset }
  | limit {limit : Int} (bound : 0 ≤ limit) : Change clauses { clauses with limit := some limit }
  | declaration (text : String) : Change clauses (clauses.addDeclaration text)

/-- A bound that is read is not negative. -/
theorem boundOf_nonneg {clause : String} {value : Value} {bound : Int} (read : boundOf clause value = .ok bound) :
    0 ≤ bound := by
  rcases Outcome.bind_eq_ok.mp read with ⟨number, _, read⟩
  split at read <;> cases read
  omega

namespace Clauses

open Relation

variable {clauses after : Clauses}

theorem addFilter_change {value : Value} (done : clauses.addFilter value = .ok after) :
    clauses.Change after := by
  simp only [addFilter, Outcome.bind_eq_ok, Outcome.pure_eq_ok] at done
  rcases done with ⟨added, read, rfl⟩
  exact .filters read

theorem setValues_change {named : Value} {data : List Value}
    (done : clauses.setValues named data = .ok after) : clauses.Change after := by
  simp only [setValues, Outcome.bind_eq_ok, Outcome.pure_eq_ok] at done
  rcases done with ⟨block, read, rfl⟩
  exact .values read

theorem addBindUnion_change {branches : List Value} {optional : Value}
    (done : clauses.addBindUnion branches optional = .ok after) : clauses.Change after := by
  simp only [addBindUnion, Outcome.bind_eq_ok, Outcome.pure_eq_ok] at done
  rcases done with ⟨union, read, rfl⟩
  exact .bindUnion read

theorem setOrder_change {entries : List Value} (done : clauses.setOrder entries = .ok after) :
    clauses.Change after := by
  simp only [setOrder, Outcome.bind_eq_ok, Outcome.pure_eq_ok] at done
  rcases done with ⟨orderBy, read, rfl⟩
  exact .orderBy read

theorem addOrder_change {direction : String} {value : Value} (known : direction ∈ directions)
    (done : clauses.addOrder direction value = .ok after) : clauses.Change after := by
  simp only [addOrder, Outcome.bind_eq_ok, Outcome.pure_eq_ok] at done
  rcases done with ⟨name, _, rfl⟩
  exact .direction name known

theorem setGroup_change {entries : List Value} (done : clauses.setGroup entries = .ok after) :
    clauses.Change after := by
  simp only [setGroup, Outcome.bind_eq_ok, Outcome.pure_eq_ok] at done
  rcases done with ⟨groupBy, read, rfl⟩
  exact .groupBy read

theorem setGraph_change {value : Value} (done : clauses.setGraph value = .ok after) :
    clauses.Change after := by
  simp only [setGraph, Outcome.bind_eq_ok, Outcome.pure_eq_ok] at done
  rcases done with ⟨graph, _, rfl⟩
  exact .graph graph

theorem addFromGraphs_change {values : List Value}
    (done : clauses.addFromGraphs values = .ok after) : clauses.Change after := by
  unfold addFromGraphs at done
  split at done
  · rcases Outcome.bind_eq_ok.mp done with ⟨_, ⟨⟩, _⟩
  · simp only [Outcome.bind_eq_ok, Outcome.pure_eq_ok] at done
    rcases done with ⟨added, _, rfl⟩
    exact .fromGraphs added

/-- An offset that is not given changes nothing. -/
theorem setOffset_change {value : Value} (done : clauses.setOffset value = .ok after) :
    ReflGen Change clauses after := by
  unfold setOffset at done
  split at done
  · cases done
    exact .refl
  · obtain ⟨offset, read, rfl⟩ := Outcome.map_eq_ok.mp done
    exact .single (.offset (boundOf_nonneg read))

/-- A limit that is not given changes nothing. -/
theorem setLimit_change {value : Value} (done : clauses.setLimit value = .ok after) :
    ReflGen Change clauses after := by
  unfold setLimit at done
  split at done
  · cases done
    exact .refl
  · obtain ⟨limit, read, rfl⟩ := Outcome.map_eq_ok.mp done
    exact .single (.limit (boundOf_nonneg read))

/-- A named call changes clauses in one of the listed ways, or not at all. -/
theorem change_of_call {name : String} {arguments : Arguments} {change : Clauses → Outcome Clauses}
    (named : change? name arguments = some change) (done : change clauses = .ok after) :
    ReflGen Change clauses after := by
  unfold change? at named
  split at named <;> cases named
  case h_1 =>
      rcases Outcome.bind_eq_ok.mp done with ⟨value, _, done⟩
      exact .single (addFilter_change done)
  case h_2 =>
      rcases Outcome.bind_eq_ok.mp done with ⟨⟨named, data⟩, _, done⟩
      exact .single (setValues_change done)
  case h_3 =>
      rcases Outcome.bind_eq_ok.mp done with ⟨values, _, done⟩
      split at done
      · exact .single (addBindUnion_change done)
      · cases done
  case h_4 | h_5 =>
      rcases Outcome.bind_eq_ok.mp done with ⟨entries, _, done⟩
      exact .single (setOrder_change done)
  case h_6 | h_7 =>
      rcases Outcome.bind_eq_ok.mp done with ⟨value, _, done⟩
      exact .single (addOrder_change (by decide) done)
  case h_8 | h_9 =>
      rcases Outcome.bind_eq_ok.mp done with ⟨entries, _, done⟩
      exact .single (setGroup_change done)
  case h_10 =>
      rcases Outcome.map_eq_ok.mp done with ⟨distinct, _, rfl⟩
      exact .single (.distinct distinct)
  case h_11 =>
      rcases Outcome.map_eq_ok.mp done with ⟨reduced, _, rfl⟩
      exact .single (.reduced reduced)
  case h_12 =>
      rcases Outcome.bind_eq_ok.mp done with ⟨value, _, done⟩
      exact .single (setGraph_change done)
  case h_13 =>
      rcases Outcome.bind_eq_ok.mp done with ⟨values, _, done⟩
      exact .single (addFromGraphs_change done)
  case h_14 =>
      rcases Outcome.bind_eq_ok.mp done with ⟨value, _, done⟩
      exact setOffset_change done
  case h_15 =>
      rcases Outcome.bind_eq_ok.mp done with ⟨value, _, done⟩
      exact setLimit_change done

end Clauses

/-! ## Optional parts -/

/-- How an optional part can change. -/
inductive OptionalGroup.Change (group : OptionalGroup) : OptionalGroup → Prop
  | patterns (added : List Pattern) :
      Change group { group with patterns := group.patterns ++ added }
  | filters {value : Value} {added : List FilterExpression} (read : filterExpression value = .ok added) :
      Change group { group with filters := group.filters ++ added }

/-- A named call changes an optional part in one of the listed ways. -/
theorem OptionalGroup.change_of_call {group after : OptionalGroup} {name : String}
    {arguments : Arguments} {change : OptionalGroup → Outcome OptionalGroup}
    (named : change? name arguments = some change) (done : change group = .ok after) :
    group.Change after := by
  unfold change? at named
  split at named <;> cases named
  case h_1 =>
      rcases Outcome.bind_eq_ok.mp done with ⟨values, _, done⟩
      simp only [addPatterns, Outcome.bind_eq_ok, Outcome.pure_eq_ok] at done
      rcases done with ⟨added, _, rfl⟩
      exact .patterns added
  case h_2 =>
      rcases Outcome.bind_eq_ok.mp done with ⟨value, _, done⟩
      simp only [addFilter, Outcome.bind_eq_ok, Outcome.pure_eq_ok] at done
      rcases done with ⟨added, read, rfl⟩
      exact .filters read

/-! ## Queries -/

/-- A query as it is made: it has a form and what the form asks for, and is perhaps bound. -/
def QueryRecord.IsNew (record : QueryRecord) : Prop :=
  ∃ form projection counts template binding,
    record = { clauses := { form, projection, counts, template }, binding }

/-- How a query of a store can change. Only a query that was not answered is sent, so the result and the text
that was sent never change again. -/
inductive QueryRecord.Change (store : Store) (record : QueryRecord) : QueryRecord → Prop
  | clauses {clauses : Clauses} (changed : record.clauses.Change clauses) :
      Change store record { record with clauses }
  | optional {group : Nat} (known : group < store.groups.length) :
      Change store record { record with optionals := record.optionals ++ [group] }
  | subqueries {added : List Nat} (known : ∀ query ∈ added, query < store.queries.length) :
      Change store record { record with subqueries := record.subqueries ++ added }
  | unions {added : List Nat} (known : ∀ query ∈ added, query < store.queries.length) :
      Change store record { record with unions := record.unions ++ added }
  | minuses {added : List Nat} (known : ∀ query ∈ added, query < store.queries.length) :
      Change store record { record with minuses := record.minuses ++ added }
  | service (site : ServiceSite) {query : Nat} (known : query < store.queries.length) :
      Change store record { record with services := record.services ++ [(site, query)] }
  | answered (text : String) (result : QueryResult) (unanswered : record.result = none) :
      Change store record { record with frozen := some text, result := some result }
  | thawed (unanswered : record.result = none) : Change store record { record with frozen := none }

/-! ## Stores -/

namespace Store

/-- Whether a store holds the object that a value is, if it is a query. -/
def HasValue (store : Store) (value : Value) : Prop :=
  ∀ index, Session.queryIndex? value = some index → index < store.queries.length

/-- Whether a store holds the object that a reply is. -/
def Has (store : Store) : Reply → Prop
  | .query index => index < store.queries.length
  | .group index => index < store.groups.length
  | .operation index => index < store.operations.length
  | .text _ | .truth _ | .client | .cacheKey _ | .result _ | .solutions _ | .statements _ => True

/-- How a store can change. -/
inductive Change (store : Store) : Store → Prop
  | query {record : QueryRecord} (isNew : record.IsNew) :
      Change store { store with queries := store.queries ++ [record] }
  | queryAt {index : Nat} {record after : QueryRecord} (found : store.queries[index]? = some record)
      (changed : record.Change store after) :
      Change store { store with queries := store.queries.set index after }
  | group (patterns : List Pattern) :
      Change store { store with groups := store.groups ++ [{ patterns }] }
  | groupAt {index : Nat} {group after : OptionalGroup} (found : store.groups[index]? = some group)
      (changed : group.Change after) :
      Change store { store with groups := store.groups.set index after }
  | operation (operation : UpdateOperation) :
      Change store { store with operations := store.operations ++ [operation] }
  | operationAt (index : Nat) (operation : UpdateOperation) :
      Change store { store with operations := store.operations.set index operation }
  | client (client : Client) : Change store { store with client := some client }
  | wire (wire : Wire) : Change store { store with wire }
  | register (name : String) {reply : Reply} (has : store.Has reply) :
      Change store (store.setRegister name reply)
  | unregister (name : String) : Change store (store.restoreRegister name none)

end Store

end Sparql
