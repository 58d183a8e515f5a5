import Sparql.Proofs.Exchange.Sending
import Sparql.Proofs.Session.Script
import Sparql.Proofs.Session.Tree

/-!
# Queries are executed once

A query is unanswered, or it has both the text that was sent and the result that came back. Executing an
unanswered query either answers it or leaves all queries as they were; executing an answered one does nothing
but hand out the result.
-/

namespace Sparql

open Session

/-! ## Answered queries -/

namespace Store

variable {store after : Store} {index : Nat} {text : String} {result : QueryResult}

/-- A query that keeps the text that was sent and the result that came back. -/
def Answered (store : Store) (index : Nat) (text : String) (result : QueryResult) : Prop :=
  ∃ record, store.queries[index]? = some record ∧ record.frozen = some text ∧
    record.result = some result

/-- The text of a query is fixed exactly if the query has a result. -/
def Settled (store : Store) : Prop :=
  ∀ record ∈ store.queries, record.result.isSome = record.frozen.isSome

end Store

theorem QueryRecord.Change.settled {store : Store} {record after : QueryRecord}
    (change : record.Change store after) (settled : record.result.isSome = record.frozen.isSome) :
    after.result.isSome = after.frozen.isSome := by
  cases change with
  | answered text result unanswered => rfl
  | thawed unanswered => simp [unanswered]
  | _ => exact settled

/-- What an answered query keeps. -/
theorem QueryRecord.Change.keeps {store : Store} {record after : QueryRecord} {result : QueryResult}
    (change : record.Change store after) (answered : record.result = some result) :
    after.result = record.result ∧ after.frozen = record.frozen := by
  cases change with
  | answered _ _ unanswered | thawed unanswered => simp [unanswered] at answered
  | _ => exact ⟨rfl, rfl⟩

namespace Store

variable {store after : Store} {index : Nat} {text : String} {result : QueryResult}

theorem Change.settled (change : store.Change after) (settled : store.Settled) : after.Settled := by
  cases change with
  | query isNew =>
      intro record mem
      rcases List.mem_append.mp mem with old | new
      · exact settled record old
      · cases List.mem_singleton.mp new
        rcases isNew with ⟨form, projection, counts, template, binding, rfl⟩
        rfl
  | queryAt found changed =>
      intro record mem
      rcases List.mem_or_eq_of_mem_set mem with old | rfl
      · exact settled record old
      · exact changed.settled (settled _ (List.mem_of_getElem? found))
  | group _ | groupAt _ _ | operation _ | operationAt _ _ | client _ | wire _ | register _ _
  | unregister _ => exact settled

theorem Change.answered (change : store.Change after) (answered : store.Answered index text result) :
    after.Answered index text result := by
  rcases answered with ⟨record, found, isText, isResult⟩
  cases change with
  | query isNew =>
      exact ⟨record, List.getElem?_append_left (List.getElem?_eq_some_iff.mp found).1 ▸ found,
        isText, isResult⟩
  | @queryAt other before changedTo foundOther changed =>
      by_cases same : other = index
      · subst same
        cases found.symm.trans foundOther
        rcases changed.keeps isResult with ⟨sameResult, sameText⟩
        refine ⟨changedTo, ?_, sameText.trans isText, sameResult.trans isResult⟩
        simp [(List.getElem?_eq_some_iff.mp found).1]
      · exact ⟨record, by simpa [List.getElem?_set, same] using found, isText, isResult⟩
  | group _ | groupAt _ _ | operation _ | operationAt _ _ | client _ | wire _ | register _ _
  | unregister _ => exact ⟨record, found, isText, isResult⟩

theorem Evolves.settled (evolves : store.Evolves after) (settled : store.Settled) : after.Settled := by
  induction evolves with
  | refl => exact settled
  | tail _ change ih => exact change.settled ih

theorem Evolves.answered (evolves : store.Evolves after) (answered : store.Answered index text result) :
    after.Answered index text result := by
  induction evolves with
  | refl => exact answered
  | tail _ change ih => exact change.answered ih

theorem Answered.text_eq (answered : store.Answered index text result) :
    store.text index = .ok text := by
  rcases answered with ⟨record, found, isText, _⟩
  simp [Store.text, found, isText]

end Store

namespace Session

variable {store after : Store} {index : Nat} {name text : String} {result : QueryResult}
  {record : QueryRecord} {view : QueryResult → Reply} {arguments : Arguments} {block : Option Block}

/-! ## Executing -/

theorem perform_execute_answered (answered : store.Answered index text result) :
    perform (execute index) store = (.ok result, store) := by
  rcases answered with ⟨record, found, _, isResult⟩
  exact perform_execute_of_result found isResult

theorem perform_withoutArguments {call : Session Reply} :
    perform (withoutArguments arguments block call) store =
      (if !arguments.positional.isEmpty || !arguments.named.isEmpty || block.isSome then
        (.error (.fault .wrongKind), store) else perform call store) := by
  unfold withoutArguments
  split <;> rfl

theorem modify_eq_set {change : QueryRecord → QueryRecord}
    (found : store.queries[index]? = some record) :
    store.queries.modify index change = store.queries.set index (change record) := by
  rw [List.modify_eq_set_getElem?, found]
  rfl

/-- A change that leaves a query as it is leaves all queries as they are. -/
theorem modify_eq_self {change : QueryRecord → QueryRecord}
    (found : store.queries[index]? = some record) (unchanged : change record = record) :
    store.queries.modify index change = store.queries := by
  rw [modify_eq_set found, unchanged]
  rcases List.getElem?_eq_some_iff.mp found with ⟨inRange, rfl⟩
  exact List.set_getElem_self inRange

/-- A query of a settled store that has no result has the text of its clauses. -/
theorem frozen_eq_none (settled : store.Settled) (found : store.queries[index]? = some record)
    (unanswered : record.result = none) : record.frozen = none := by
  have same := settled record (List.mem_of_getElem? found)
  rw [unanswered] at same
  simpa using same.symm

theorem text_eq_render (settled : store.Settled) (found : store.queries[index]? = some record)
    (unanswered : record.result = none) : store.text index = store.render index := by
  simp [Store.text, found, frozen_eq_none settled found unanswered]

/-- What executing an unanswered query does when it succeeds: the text that the query had was sent, and the
result is of the kind that its form asks for. Nothing but the query, the client and the wire is changed. -/
structure Executed (store : Store) (index : Nat) (record : QueryRecord) (text : String)
    (result : QueryResult) (after : Store) : Prop where
  written : store.text index = .ok text
  kind : result.kind = Results.expectedKind record.clauses.form
  sent : ∃ client events, store.client = some client ∧
    after.wire.events = events ++ store.wire.events ∧
    client.Sent text record.clauses.form.name record.clauses.graphNames events
  queries : after.queries =
    store.queries.set index { record with frozen := some text, result := some result }
  frame : store.Exchanged { after with queries := store.queries }

/-- A query that is sent while its text is fixed is sent with that text. -/
theorem perform_sendBound_ok {binding : Value} (found : store.queries[index]? = some record)
    (done : perform (sendBound binding index) (store.withFrozen index (some text)) =
      (.ok result, after)) :
    result.kind = Results.expectedKind record.clauses.form ∧
      ∃ client events, store.client = some client ∧
        after.wire.events = events ++ store.wire.events ∧
        client.Sent text record.clauses.form.name record.clauses.graphNames events := by
  have foundFixed : (store.withFrozen index (some text)).queries[index]? =
      some { record with frozen := some text } := by
    simp [Store.withFrozen, found]
  have hasText : (store.withFrozen index (some text)).text index = .ok text := by
    simp [Store.text, foundFixed]
  unfold sendBound at done
  split at done
  case h_2 | h_3 => cases done
  case h_1 =>
      rw [perform_sendIndexed foundFixed hasText, sendQuery] at done
      rcases isClient : store.client with _ | client
      · rw [perform_exchange_none (by simpa [Store.withFrozen] using isClient)] at done
        cases done
      · rw [perform_exchange_some (by simpa [Store.withFrozen] using isClient)] at done
        rcases Prod.mk.inj done with ⟨answered, isAfter⟩
        have query := Client.query_ok (Prod.ext answered rfl)
        rcases query with ⟨kind, events, recorded, sent⟩
        refine ⟨kind, client, events, rfl, ?_, sent⟩
        rw [← isAfter]
        exact recorded

theorem perform_execute_ok (settled : store.Settled) (found : store.queries[index]? = some record)
    (unanswered : record.result = none) (done : perform (execute index) store = (.ok result, after)) :
    ∃ text, Executed store index record text result after := by
  rw [execute, perform_bind_ok (perform_query_of_some found)] at done
  simp only [unanswered] at done
  split at done
  · contradiction
  · cases done
  · rcases written : store.render index with failure | text
    · rw [perform_executeBound_unwritten written] at done
      cases done
    rcases sent : perform (sendBound record.binding index) (store.withFrozen index (some text)) with
      ⟨failure | answer, later⟩
    · rw [perform_executeBound_failed written sent] at done
      cases done
    · rw [perform_executeBound_ok written sent] at done
      cases done
      rcases perform_sendBound_ok found sent with ⟨kind, isSent⟩
      rcases exchanged_of_sendBound sent with ⟨between, exchanged, rfl⟩
      refine ⟨text, (text_eq_render settled found unanswered).trans written, kind, isSent, ?_, ?_⟩
      · simp only [Store.withFrozen, Store.withResult, List.modify_modify_eq, exchanged.queries_eq]
        exact modify_eq_set found
      · cases exchanged with
        | unchanged => exact .unchanged
        | exchanged client wire => exact .exchanged client wire

/-- An execution that fails changes nothing but the client and the wire. -/
theorem perform_execute_error {failure : Failure} (settled : store.Settled)
    (failed : perform (execute index) store = (.error failure, after)) : store.Exchanged after := by
  rw [execute, perform_bind, perform_query] at failed
  rcases found : store.queries[index]? with _ | record
  · rw [found] at failed
    cases failed
    exact .unchanged
  · rw [found] at failed
    simp only at failed
    split at failed
    · cases failed
    · cases failed
      exact .unchanged
    · rename_i unanswered _
      rcases written : store.render index with failure | text
      · rw [perform_executeBound_unwritten written] at failed
        cases failed
        exact .unchanged
      rcases sent : perform (sendBound record.binding index) (store.withFrozen index (some text)) with
        ⟨cause | answer, later⟩
      · rw [perform_executeBound_failed written sent] at failed
        cases failed
        rcases exchanged_of_sendBound sent with ⟨between, exchanged, rfl⟩
        have thawed : (between.withFrozen index (some text)).withFrozen index none = between := by
          have foundBetween : between.queries[index]? = some record := by
            rw [exchanged.queries_eq, found]
          simp only [Store.withFrozen, List.modify_modify_eq]
          rw [modify_eq_self foundBetween]
          simp only [Function.comp, ← frozen_eq_none settled found unanswered]
        rw [thawed]
        exact exchanged
      · rw [perform_executeBound_ok written sent] at failed
        cases failed

/-! ## Calls that execute -/

/-- The calls that execute an answered query hand out the result and change nothing. -/
theorem perform_queryCall_answered (answered : store.Answered index text result)
    (isView : executingView? name = some view) :
    perform (queryCall index name {} none) store = (.ok (view result), store) := by
  rw [queryCall_of_executingView isView, perform_withoutArguments]
  exact perform_bind_ok (perform_execute_answered answered)

theorem perform_queryCall_ok {reply : Reply} (settled : store.Settled)
    (found : store.queries[index]? = some record) (unanswered : record.result = none)
    (isView : executingView? name = some view)
    (done : perform (queryCall index name arguments block) store = (.ok reply, after)) :
    ∃ text result, reply = view result ∧ Executed store index record text result after := by
  rw [queryCall_of_executingView isView, perform_withoutArguments] at done
  split at done
  · cases done
  · rw [perform_bind] at done
    rcases executed : perform (execute index) store with ⟨failure | result, later⟩
    · rw [executed] at done
      cases done
    · rw [executed] at done
      cases done
      rcases perform_execute_ok settled found unanswered executed with ⟨text, executed⟩
      exact ⟨text, result, rfl, executed⟩

theorem perform_queryCall_error {failure : Failure} (settled : store.Settled)
    (isView : executingView? name = some view)
    (failed : perform (queryCall index name arguments block) store = (.error failure, after)) :
    store.Exchanged after := by
  rw [queryCall_of_executingView isView, perform_withoutArguments] at failed
  split at failed
  · cases failed
    exact .unchanged
  · rw [perform_bind] at failed
    rcases executed : perform (execute index) store with ⟨cause | result, later⟩
    · rw [executed] at failed
      cases failed
      exact perform_execute_error settled executed
    · rw [executed] at failed
      cases failed

/-- Executing a query makes it an answered one. -/
theorem Executed.answered (found : store.queries[index]? = some record)
    (executed : Executed store index record text result after) :
    after.Answered index text result := by
  refine ⟨{ record with frozen := some text, result := some result }, ?_, rfl, rfl⟩
  rw [executed.queries]
  simp [(List.getElem?_eq_some_iff.mp found).1]

end Session

/-! ## Sessions -/

namespace Store

/-- Whatever becomes of the store, the text of the query stays, and every call that executes the query hands
out the same result and changes nothing. -/
def KeepsAnswer (store : Store) (index : Nat) (text : String) (result : QueryResult) : Prop :=
  ∀ later, store.Evolves later → later.text index = .ok text ∧
    ∀ name view, executingView? name = some view →
      perform (queryCall index name {} none) later = (.ok (view result), later)

/-- That a query is executed once. -/
structure ExecutesOnce (store : Store) (index : Nat) (record : QueryRecord) : Prop where
  /-- The query has a result exactly if its text is fixed. -/
  fixed : record.result.isSome ↔ record.frozen.isSome
  /-- A query that has a result keeps it, with its text. -/
  kept : ∀ result, record.result = some result →
    ∃ text, record.frozen = some text ∧ store.KeepsAnswer index text result
  /-- A call that executes a query without a result and succeeds sends the text that the query has, hands out
  a result of the right kind and has the query keep both. -/
  succeeds : record.result = none → ∀ name view arguments block reply after,
    executingView? name = some view →
    perform (queryCall index name arguments block) store = (.ok reply, after) →
    ∃ text result, reply = view result ∧ Executed store index record text result after ∧
      after.KeepsAnswer index text result
  /-- A call that executes a query and fails leaves all queries and their texts as they were. -/
  fails : ∀ name view arguments block failure after, executingView? name = some view →
    perform (queryCall index name arguments block) store = (.error failure, after) →
    after.queries = store.queries ∧ ∀ other, after.text other = store.text other

variable {store : Store} {index : Nat} {text : String} {result : QueryResult} {record : QueryRecord}

theorem Answered.keepsAnswer (answered : store.Answered index text result) :
    store.KeepsAnswer index text result := by
  intro later evolves
  have still := evolves.answered answered
  exact ⟨still.text_eq, fun _ _ isView => perform_queryCall_answered still isView⟩

/-- In a settled store every query is executed once. -/
theorem Settled.executesOnce (settled : store.Settled) (found : store.queries[index]? = some record) :
    store.ExecutesOnce index record := by
  have same := settled record (List.mem_of_getElem? found)
  refine ⟨by rw [same], ?_, ?_, ?_⟩
  · intro result isResult
    rw [isResult] at same
    rcases Option.isSome_iff_exists.mp same.symm with ⟨text, isText⟩
    exact ⟨text, isText, Answered.keepsAnswer ⟨record, found, isText, isResult⟩⟩
  · intro unanswered name view arguments block reply after isView done
    rcases perform_queryCall_ok settled found unanswered isView done with
      ⟨text, result, isReply, executed⟩
    exact ⟨text, result, isReply, executed, (executed.answered found).keepsAnswer⟩
  · intro name view arguments block failure after isView failed
    have exchanged := perform_queryCall_error settled isView failed
    have groups : after.groups = store.groups := by cases exchanged <;> rfl
    exact ⟨exchanged.queries_eq, text_congr exchanged.queries_eq groups⟩

end Store

end Sparql
