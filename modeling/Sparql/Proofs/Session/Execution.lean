import Sparql.Proofs.Session.Building
import Sparql.Proofs.Session.Tree

/-!
# Executing moves a store

An exchange changes the client and the wire only. An execution that succeeds answers the query, and one that
fails leaves it with the text that follows its clauses.

A run leads on if the store it ends in, also by failing, can be reached in the listed ways and holds what is returned.
An execution freezes the text of its query before it asks, so its ends are taken apart first: no text, a failed
exchange, and an answer.
-/

namespace Sparql

open Relation

namespace Store

variable {store after : Store}

/-- A store in which nothing but the client and the wire changed, if anything. -/
inductive Exchanged (store : Store) : Store → Prop
  | unchanged : Exchanged store store
  | exchanged (client : Client) (wire : Wire) : Exchanged store { store with client := some client, wire }

theorem Exchanged.evolves (exchanged : store.Exchanged after) : store.Evolves after := by
  cases exchanged with
  | unchanged => exact .refl
  | exchanged client wire => exact .tail (.single (.client client)) (.wire wire)

theorem Exchanged.moves (exchanged : store.Exchanged after) : store.Moves after := by
  refine .single (.quiet exchanged.evolves (fun _ => ?_) ?_) <;> cases exchanged <;> rfl

theorem Exchanged.queries_eq (exchanged : store.Exchanged after) : after.queries = store.queries := by
  cases exchanged <;> rfl

theorem Exchanged.groups_eq (exchanged : store.Exchanged after) : after.groups = store.groups := by
  cases exchanged <;> rfl

/-- The store with the text of a query fixed, or following the clauses. -/
def withFrozen (store : Store) (index : Nat) (text : Option String) : Store :=
  { store with queries := store.queries.modify index fun record => { record with frozen := text } }

/-- The store with the result of a query. -/
def withResult (store : Store) (index : Nat) (result : QueryResult) : Store :=
  { store with queries := store.queries.modify index fun record => { record with result := some result } }

/-- A query may come to keep the text that it has from its clauses. -/
theorem moves_freeze {index : Nat} {change : QueryRecord → QueryRecord}
    (changed : ∀ record, store.queries[index]? = some record →
      Relation.ReflTransGen (QueryRecord.Change store) record (change record))
    (kept : ∀ record text, (change record).frozen = some text → store.render index = .ok text) :
    store.Moves { store with queries := store.queries.modify index change } := by
  refine .single ⟨Session.evolves_modify_query changed, fun other text isText => ?_, fun operation mem =>
    .inl ⟨operation, mem, rfl⟩⟩
  simp only [frozen?, List.getElem?_modify, Option.map_eq_map] at isText
  rcases found : store.queries[other]? with _ | record
  · simp [found] at isText
  · by_cases same : index = other
    · subst same
      exact .inr (kept record text (by simpa [found] using isText))
    · exact .inl (by simpa [frozen?, found, same] using isText)

theorem moves_thaw {index : Nat}
    (unanswered : ∀ record, store.queries[index]? = some record → record.result = none) :
    store.Moves (store.withFrozen index none) := by
  refine moves_freeze (fun record found => .single (.thawed (unanswered record found))) ?_
  rintro _ _ ⟨⟩

theorem moves_answer {index : Nat} {text : String} (result : QueryResult)
    (written : store.render index = .ok text)
    (unanswered : ∀ record, store.queries[index]? = some record → record.result = none) :
    store.Moves ((store.withFrozen index (some text)).withResult index result) := by
  simp only [withFrozen, withResult, List.modify_modify_eq]
  refine moves_freeze (fun record found => .single (.answered text result (unanswered record found))) ?_
  rintro _ _ ⟨⟩
  exact written

/-- An exchange and the text of a query do not meddle with each other. -/
theorem Exchanged.of_withFrozen {index : Nat} {text : Option String}
    (exchanged : (store.withFrozen index text).Exchanged after) :
    ∃ between, store.Exchanged between ∧ after = between.withFrozen index text := by
  cases exchanged with
  | unchanged => exact ⟨store, .unchanged, rfl⟩
  | exchanged client wire => exact ⟨_, .exchanged client wire, rfl⟩

end Store

namespace Session

variable {store : Store} {index : Nat} {arguments : Arguments}

/-! ## Exchanges -/

theorem perform_exchange_none {α : Type} {run : Client → Wire → Outcome α × Client × Wire}
    (absent : store.client = none) :
    perform (exchange run) store = (.error (.fault .noSuchOperation), store) := by
  rw [exchange, perform_bind_ok (perform_get store)]
  simp only [absent, perform_fault]

theorem perform_exchange_some {α : Type} {run : Client → Wire → Outcome α × Client × Wire}
    {client : Client} (present : store.client = some client) :
    perform (exchange run) store =
      ((run client store.wire).1,
        { store with client := some (run client store.wire).2.1, wire := (run client store.wire).2.2 }) := by
  rw [exchange, perform_bind_ok (perform_get store)]
  simp only [present]
  rw [perform_bind_ok (perform_set _ _), perform_ofOutcome]

theorem exchanged_exchange {α : Type} (run : Client → Wire → Outcome α × Client × Wire) :
    store.Exchanged (perform (exchange run) store).2 := by
  rcases isClient : store.client with _ | client
  · rw [perform_exchange_none isClient]
    exact .unchanged
  · rw [perform_exchange_some isClient]
    exact .exchanged _ _

theorem leads_exchange {α : Type} {run : Client → Wire → Outcome α × Client × Wire} :
    Leads (exchange run) store fun _ _ => True :=
  fun _ => ⟨(exchanged_exchange run).moves, fun _ _ => trivial⟩

/-- Sending a query of the session sends its text, its form and its graphs. -/
theorem perform_sendIndexed {record : QueryRecord} {text : String}
    (found : store.queries[index]? = some record) (hasText : store.text index = .ok text) :
    perform (sendIndexed index) store =
      perform (sendQuery text record.clauses.form.name record.clauses.graphNames) store := by
  rw [sendIndexed, perform_bind_ok (by rw [perform_queryText, hasText]),
    perform_bind_ok (perform_query_of_some found)]

theorem exchanged_sendIndexed : store.Exchanged (perform (sendIndexed index) store).2 := by
  rw [sendIndexed, perform_bind, perform_queryText]
  rcases store.text index with failure | text
  · exact .unchanged
  · simp only
    rw [perform_bind, perform_query]
    rcases store.queries[index]? with _ | record
    · exact .unchanged
    · exact exchanged_exchange _

theorem exchanged_sendBound {binding : Value} :
    store.Exchanged (perform (sendBound binding index) store).2 := by
  unfold sendBound
  split
  · exact exchanged_sendIndexed
  · exact .unchanged
  · exact .unchanged

/-- Sending a query whose text is fixed is an exchange of the store in which it is not. -/
theorem exchanged_of_sendBound {binding : Value} {text : Option String}
    {outcome : Outcome QueryResult} {after : Store}
    (sent : perform (sendBound binding index) (store.withFrozen index text) = (outcome, after)) :
    ∃ between, store.Exchanged between ∧ after = between.withFrozen index text := by
  have exchanged : (store.withFrozen index text).Exchanged
      (perform (sendBound binding index) (store.withFrozen index text)).2 := exchanged_sendBound
  rw [sent] at exchanged
  exact exchanged.of_withFrozen

/-! ## Executions -/

theorem perform_setFrozen (text : Option String) :
    perform (setFrozen index text) store = (.ok (), store.withFrozen index text) := rfl

theorem perform_executeBound_unwritten {binding : Value} {failure : Failure}
    (unwritten : store.render index = .error failure) :
    perform (executeBound binding index) store = (.error failure, store) := by
  rw [executeBound, perform_bind_error (by rw [perform_renderedText, unwritten])]

theorem perform_executeBound_failed {binding : Value} {text : String} {failure : Failure}
    {after : Store} (written : store.render index = .ok text)
    (failed : perform (sendBound binding index) (store.withFrozen index (some text)) =
      (.error failure, after)) :
    perform (executeBound binding index) store = (.error failure, after.withFrozen index none) := by
  rw [executeBound, perform_bind_ok (by rw [perform_renderedText, written]),
    perform_bind_ok (perform_setFrozen _), perform_tryCatch, sendKept, perform_bind_error failed]
  rfl

theorem perform_executeBound_ok {binding : Value} {text : String} {result : QueryResult}
    {after : Store} (written : store.render index = .ok text)
    (sent : perform (sendBound binding index) (store.withFrozen index (some text)) =
      (.ok result, after)) :
    perform (executeBound binding index) store = (.ok result, after.withResult index result) := by
  rw [executeBound, perform_bind_ok (by rw [perform_renderedText, written]),
    perform_bind_ok (perform_setFrozen _), perform_tryCatch, sendKept, perform_bind_ok sent,
    perform_bind_ok (perform_changeQuery _ _ _)]
  rfl

/-- An execution answers an unanswered query or leaves it unanswered. -/
theorem leads_executeBound {binding : Value} {record : QueryRecord}
    (found : store.queries[index]? = some record) (unanswered : record.result = none) :
    Leads (executeBound binding index) store fun _ _ => True := by
  refine fun _ => ⟨?_, fun _ _ => trivial⟩
  rcases written : store.render index with failure | text
  · rw [perform_executeBound_unwritten written]
    exact .refl
  have unanswered : ∀ {between : Store} {other : QueryRecord}, store.Exchanged between →
      between.queries[index]? = some other → other.result = none := by
    intro between other exchanged isOther
    rw [exchanged.queries_eq, found] at isOther
    cases isOther
    exact unanswered
  rcases sent : perform (sendBound binding index) (store.withFrozen index (some text)) with
    ⟨failure | result, after⟩
  · rw [perform_executeBound_failed written sent]
    rcases exchanged_of_sendBound sent with ⟨between, exchanged, rfl⟩
    have thawed : (between.withFrozen index (some text)).withFrozen index none =
        between.withFrozen index none := by
      simp only [Store.withFrozen, List.modify_modify_eq]
      rfl
    rw [thawed]
    exact exchanged.moves.trans (Store.moves_thaw fun other => unanswered exchanged)
  · rw [perform_executeBound_ok written sent]
    rcases exchanged_of_sendBound sent with ⟨between, exchanged, rfl⟩
    refine exchanged.moves.trans (Store.moves_answer result ?_ fun other => unanswered exchanged)
    rw [Store.render_congr exchanged.queries_eq exchanged.groups_eq, written]

/-- A query that has a result is not executed again. -/
theorem perform_execute_of_result {record : QueryRecord} {result : QueryResult}
    (found : store.queries[index]? = some record) (isResult : record.result = some result) :
    perform (execute index) store = (.ok result, store) := by
  rw [execute, perform_bind_ok (perform_query_of_some found)]
  simp only [isResult, perform_pure]

theorem leads_execute : Leads (execute index) store fun _ _ => True := by
  refine leads_query_bind fun record found => ?_
  split
  · exact leads_pure trivial
  · exact leads_refuse
  · exact leads_executeBound found ‹_›

/-! ## Calls on queries -/

theorem leads_queryText : Leads (queryText index) store fun _ _ => True :=
  leads_get_bind (leads_ofOutcome fun _ _ => trivial)

theorem leads_query : Leads (query index) store fun _ _ => True := by
  refine leads_get_bind ?_
  split
  · exact leads_pure trivial
  · exact leads_fault

theorem leads_cacheKey : Leads (cacheKey index) store fun _ _ => True :=
  leads_bind leads_queryText fun _ _ _ _ => leads_bind leads_query fun _ _ _ _ => leads_pure trivial

theorem has_of_executingView {name : String} {view : QueryResult → Reply} {result : QueryResult}
    (isView : executingView? name = some view) : store.Has (view result) := by
  unfold executingView? at isView
  split at isView <;> cases isView <;> trivial

theorem leads_readingCall {name : String} {call : Session Reply}
    (named : readingCall? index name = some call) : Leads call store Store.Has := by
  unfold readingCall? at named
  split at named
  case h_7 =>
      rcases Option.map_eq_some_iff.mp named with ⟨view, isView, rfl⟩
      exact leads_bind leads_execute fun _ _ _ _ => leads_pure (has_of_executingView isView)
  all_goals cases named
  case h_1 | h_2 | h_3 => exact leads_bind leads_queryText fun _ _ _ _ => leads_pure trivial
  case h_4 => exact leads_bind leads_cacheKey fun _ _ _ _ => leads_pure trivial
  case h_5 | h_6 => exact leads_bind leads_query fun _ _ _ _ => leads_pure trivial

theorem leads_withoutArguments {block : Option Block} {call : Session Reply}
    (leads : Leads call store Store.Has) :
    Leads (withoutArguments arguments block call) store Store.Has :=
  leads_unless fun _ => leads

theorem leads_constructCall {made : Outcome QueryRecord}
    (isNew : ∀ record, made = .ok record → record.IsNew) :
    Leads (constructCall made) store Store.Has := by
  refine leads_ofOutcome_bind fun record done => ?_
  exact leads_bind (leads_addQuery (isNew record done)) fun _ _ _ added => leads_pure added

theorem leads_plainCall {name : String} {call : Session Reply}
    (isKnown : index < store.queries.length)
    (named : plainCall? index name arguments = some call) : Leads call store Store.Has := by
  unfold plainCall? at named
  split at named
  case h_5 =>
      rcases Option.map_eq_some_iff.mp named with ⟨made, isMade, rfl⟩
      exact leads_constructCall fun _ => construct_isNew isMade
  all_goals cases named
  · exact leads_subqueryCall
  · exact leads_sliceCall isKnown
  · exact leads_prologueCall isKnown

theorem leads_blockCall {name : String} {block : Option Block} {call : Session Reply}
    (isKnown : index < store.queries.length)
    (known : ∀ value ∈ arguments.positional, store.HasValue value)
    (moves : ∀ run, block = some run → run.Moves)
    (named : blockCall? index name arguments block = some call) : Leads call store Store.Has := by
  unfold blockCall? at named
  split at named <;> cases named
  · exact leads_whereCall isKnown known moves
  · exact leads_whereCall isKnown known moves
  · exact leads_optionalCall isKnown moves
  · exact leads_unionCall isKnown known moves
  · exact leads_minusCall isKnown known moves
  · exact leads_serviceCall isKnown known moves

theorem leads_queryCall {name : String} {block : Option Block}
    (isKnown : index < store.queries.length)
    (known : ∀ value ∈ arguments.positional, store.HasValue value)
    (moves : ∀ run, block = some run → run.Moves) :
    Leads (queryCall index name arguments block) store Store.Has := by
  unfold queryCall
  split
  · exact leads_blockCall isKnown known moves ‹_›
  · split
    · exact leads_withoutArguments (leads_readingCall ‹_›)
    · split
      · exact leads_changeCall isKnown fun _ _ => Clauses.change_of_call ‹_›
      · exact leads_fault
      · split
        · exact leads_plainCall isKnown ‹_›
        · exact leads_fault
        · exact leads_fault

/-! ## Calls on optional parts and operations -/

theorem moves_modify_group {group after : OptionalGroup}
    (found : store.groups[index]? = some group) (changed : group.Change after) :
    store.Moves { store with groups := store.groups.modify index fun _ => after } := by
  rw [List.modify_eq_set_getElem?, found]
  exact .single (.quiet (.single (.groupAt found changed)) (fun _ => rfl) rfl)

theorem leads_groupCall {name : String} {block : Option Block}
    (isKnown : index < store.groups.length) :
    Leads (groupCall index name arguments block) store Store.Has := by
  refine leads_get_bind ?_
  split
  case h_2 => exact leads_fault
  case h_1 group found =>
      split
      · refine leads_unless fun _ => ?_
        refine leads_ofOutcome_bind fun changed done => ?_
        have moves := moves_modify_group found (OptionalGroup.change_of_call ‹_› done)
        refine leads_bind (leads_modify moves ?_) fun _ _ _ has => leads_pure has
        exact isKnown.trans_le moves.grows.groups
      · exact leads_pure trivial
      · exact leads_pure trivial
      · exact leads_fault

/-- Whether it is silent or not, an operation does what it did. -/
theorem moves_setSilent {operation changed : UpdateOperation} (found : store.operations[index]? = some operation)
    (done : operation.setSilent arguments = .ok changed) :
    store.Moves { store with operations := store.operations.set index changed } := by
  refine .single ⟨.single (.operationAt index changed), fun _ _ isText => .inl isText, fun each mem => .inl ?_⟩
  rcases List.mem_or_eq_of_mem_set mem with old | rfl
  · exact ⟨each, old, rfl⟩
  · refine ⟨operation, List.mem_of_getElem? found, ?_⟩
    rcases Outcome.bind_eq_ok.mp done with ⟨values, _, done⟩
    split at done <;> cases done
    rfl

theorem leads_operationCall {name : String} {block : Option Block}
    (isKnown : index < store.operations.length) :
    Leads (operationCall index name arguments block) store Store.Has := by
  refine leads_get_bind ?_
  split
  case h_2 => exact leads_fault
  case h_1 operation found =>
      split
      · exact leads_ofOutcome_bind fun _ _ => leads_pure trivial
      · exact leads_ofOutcome_bind fun _ _ => leads_pure trivial
      · exact leads_ofOutcome_bind fun _ _ => leads_pure trivial
      · refine leads_unless fun _ => ?_
        refine leads_ofOutcome_bind fun changed done => ?_
        have moves := moves_setSilent found done
        refine leads_bind (leads_modify moves ?_) fun _ _ _ has => leads_pure has
        exact isKnown.trans_le moves.grows.operations
      · exact leads_fault

/-! ## Calls on the client -/

theorem leads_sendIndexed : Leads (sendIndexed index) store fun _ _ => True :=
  fun _ => ⟨exchanged_sendIndexed.moves, fun _ _ => trivial⟩

theorem leads_sendGiven {given : Value} : Leads (sendGiven given) store Store.Has := by
  unfold sendGiven
  split
  · exact leads_bind leads_sendIndexed fun _ _ _ _ => leads_pure trivial
  · split
    · exact leads_fault
    · refine leads_ofOutcome_bind fun kind _ => ?_
      split
      · exact leads_refuse
      · exact leads_bind leads_exchange fun _ _ _ _ => leads_pure trivial

theorem leads_sendUpdate {operation : Value} : Leads (sendUpdate operation) store Store.Has :=
  leads_bind leads_exchange fun _ _ _ _ => leads_pure trivial

theorem leads_sendOperation {given : Value} : Leads (sendOperation given) store Store.Has := by
  unfold sendOperation
  split
  · exact leads_get_bind (leads_ofOutcome_bind fun _ _ => leads_sendUpdate)
  · exact leads_sendUpdate

theorem leads_sendNew {kind : String} : Leads (sendNew kind arguments) store Store.Has :=
  leads_ofOutcome_bind fun _ _ => leads_ofOutcome_bind fun _ _ => leads_sendUpdate

theorem leads_boundQuery {client : Value} {name : String} {call : Session Reply}
    (named : boundQuery client name arguments = some call) : Leads call store Store.Has := by
  unfold boundQuery at named
  split at named
  · cases named
  · rcases Option.map_eq_some_iff.mp named with ⟨made, isMade, rfl⟩
    split
    · exact leads_fault
    · exact leads_constructCall fun _ => construct_isNew isMade

theorem leads_shortcut {name : String} {call : Session Reply}
    (named : shortcut? name arguments = some call) : Leads call store Store.Has := by
  unfold shortcut? at named
  split at named <;> cases named
  all_goals exact leads_ofOutcome_bind fun _ _ => leads_sendNew

/-- Asking the client a query sends what is given. -/
theorem perform_clientCall_query (given : Value) {client : Client} (present : store.client = some client) :
    perform (clientCall "query" { positional := [given] } none) store = perform (sendGiven given) store := by
  have isSingle : Arguments.single { positional := [given] } ⟨"query", none⟩ = .ok given := rfl
  have notReading : clientReading? "query" = none := rfl
  have notBound : boundQuery store.clientValue "query" { positional := [given] } = none := rfl
  have notShortcut : shortcut? "query" { positional := [given] } = none := rfl
  rw [clientCall, perform_bind_ok (perform_get store)]
  simp only [present, notReading, Option.isSome_none, Bool.false_eq_true, if_false]
  rw [perform_bind_ok (perform_get store)]
  simp only [notBound, notShortcut]
  rw [perform_bind_ok (by rw [perform_ofOutcome, isSingle])]

theorem leads_clientCall {name : String} {block : Option Block} :
    Leads (clientCall name arguments block) store Store.Has := by
  refine leads_get_bind ?_
  split
  case h_2 => exact leads_fault
  case h_1 client _ =>
      split
      case h_1 => exact leads_pure trivial
      case h_2 =>
          refine leads_unless fun _ => ?_
          refine leads_get_bind ?_
          split
          · exact leads_boundQuery ‹_›
          · exact leads_shortcut ‹_›
          · exact leads_ofOutcome_bind fun _ _ => leads_sendGiven
          · exact leads_ofOutcome_bind fun _ _ => leads_sendOperation
          · exact leads_fault

end Session

end Sparql
