import Sparql.Proofs.Exchange.Counting
import Sparql.Proofs.Session.Calls
import Sparql.Proofs.Session.Script
import Sparql.Proofs.Update.Refusal

/-!
# The account of a session

The summary of a client is the account of all its exchanges. Every call asks for one exchange at most, whose kind
can be told before the call is made; the exchange is counted once if it succeeds or if the transport or the decoder
fails, and in no other case. A session is a run of such calls with other changes in between that leave the client
alone, so its summary tells how many of them went well and how many failed, form by form.
-/

namespace Sparql

/-- A store in which nothing has been exchanged since. -/
structure Store.Silent (store after : Store) : Prop where
  client : after.client = store.client
  wire : after.wire = store.wire

theorem Store.Silent.refl (store : Store) : store.Silent store := ⟨rfl, rfl⟩

namespace Session

/-! ## What a call asks for -/

/-- A call without a block on what an earlier call has returned. -/
structure Call where
  receiver : Reply
  method : String
  arguments : Arguments

namespace Call

/-- Making a call. -/
def run (call : Call) : Session Reply := replyCall call.receiver call.method call.arguments none

/-- The kind of what the client is given to send as a query, if it is one. -/
def givenKind? (store : Store) (given : Value) : Option TextKind :=
  match given with
  | .object (.query index) _ => (store.queries[index]?).map fun record => .query record.clauses.form
  | _ =>
    match given.text?.map TextKind.detect with
    | some (.ok (.query form)) => some (.query form)
    | _ => none

/-- The kind of exchange that a call on the client asks for. -/
def clientKind? (store : Store) (method : String) (arguments : Arguments) : Option TextKind :=
  match method with
  | "query" => (arguments.single ⟨"query", none⟩).toOption.bind (givenKind? store)
  | "update" => some .update
  | _ => (shortcut? method arguments).map fun _ => .update

/-- The kind of exchange that executing a query asks for. A query that has its result is not sent again. -/
def executedKind? (store : Store) (index : Nat) : Option TextKind :=
  match store.queries[index]? with
  | some record => if record.result.isSome then none else some (.query record.clauses.form)
  | none => none

/-- The kind of exchange that a call asks for, if it asks for one. -/
def kind? (call : Call) (store : Store) : Option TextKind :=
  match call.receiver with
  | .query index => (executingView? call.method).bind fun _ => executedKind? store index
  | .client => clientKind? store call.method call.arguments
  | _ => none

end Call

/-- A reply that hands out a result of the kind that an exchange asks for. Updates have no result. -/
def Answers (kind : TextKind) (reply : Reply) : Prop :=
  ∀ form, kind = .query form → ∃ result name view, executingView? name = some view ∧ reply = view result ∧
    result.kind = Results.expectedKind form

/-! ## Asking for an exchange -/

variable {α β : Type} {store after : Store} {kind : TextKind} {gives : α → Prop} {index : Nat} {arguments : Arguments}

/-- How a part of a session that asks for one exchange can end: before anything is sent, or with an exchange that
the client has counted. -/
inductive EndsCounted (kind : TextKind) (store : Store) (gives : α → Prop) : Outcome α → Store → Prop
  | unsent {failure : Failure} {after : Store} (isUnsent : failure.IsUnsent) (silent : store.Silent after) :
      EndsCounted kind store gives (.error failure) after
  | sent {outcome : Outcome α} {after : Store} {client later : Client} (before : store.client = some client)
      (last : after.client = some later) (counted : client.Counts kind.name outcome later)
      (given : ∀ value, outcome = .ok value → gives value) : EndsCounted kind store gives outcome after

/-- A part of a session that asks for one exchange of a kind. -/
def Asks (run : Session α) (kind : TextKind) (store : Store) (gives : α → Prop) : Prop :=
  EndsCounted kind store gives (perform run store).1 (perform run store).2

theorem asks_of_error {run : Session α} {failure : Failure} (failed : perform run store = (.error failure, store))
    (isUnsent : failure.IsUnsent) : Asks run kind store gives := by
  unfold Asks
  rw [failed]
  exact .unsent isUnsent (.refl store)

theorem asks_fault {cause : Fault} : Asks (fault cause) kind store gives := asks_of_error rfl rfl

theorem asks_ofOutcome_bind {outcome : Outcome β} {rest : β → Session α}
    (isUnsent : Outcome.FailsOnly Failure.IsUnsent outcome)
    (asks : ∀ value, outcome = .ok value → Asks (rest value) kind store gives) :
    Asks (ofOutcome outcome >>= rest) kind store gives := by
  cases outcome with
  | ok value => exact asks value rfl
  | error failure => exact asks_of_error rfl (isUnsent failure rfl)

theorem Asks.mono {run : Session α} {givesToo : α → Prop} (asks : Asks run kind store gives)
    (given : ∀ value, gives value → givesToo value) : Asks run kind store givesToo := by
  unfold Asks at asks ⊢
  generalize (perform run store).1 = outcome at asks ⊢
  cases asks with
  | unsent isUnsent silent => exact .unsent isUnsent silent
  | sent before last counted isGiven => exact .sent before last counted fun value done => given value (isGiven value done)

theorem asks_get_bind {rest : Store → Session α} (asks : Asks (rest store) kind store gives) :
    Asks (get >>= rest) kind store gives := asks

/-- What is handed out of a result does not change how the exchange is counted. -/
theorem Asks.map {run : Session α} {view : α → β} {givesToo : β → Prop} (asks : Asks run kind store gives)
    (given : ∀ value, gives value → givesToo (view value)) :
    Asks (do return view (← run)) kind store givesToo := by
  unfold Asks at asks ⊢
  rw [perform_bind]
  rcases performed : perform run store with ⟨failure | value, after⟩ <;> rw [performed] at asks
  · cases asks with
    | unsent isUnsent silent => exact .unsent isUnsent silent
    | sent before last counted _ =>
        refine .sent before last ?_ (by rintro _ ⟨⟩)
        cases counted with
        | failed isExchanged counted => exact .failed isExchanged counted
        | broken fault => exact .broken fault
  · cases asks with
    | sent before last counted isGiven =>
        refine .sent before last ?_ ?_
        · cases counted with
          | returned counted => exact .returned counted
        · rintro _ ⟨⟩
          exact given value (isGiven value rfl)

/-- What is done to the queries alone does not change how an exchange is counted. -/
theorem EndsCounted.congr {other later : Store} {outcome : Outcome α} (ends : EndsCounted kind store gives outcome after)
    (before : other.Silent store) (last : after.Silent later) : EndsCounted kind other gives outcome later := by
  cases ends with
  | unsent isUnsent silent =>
      exact .unsent isUnsent ⟨last.client.trans (silent.client.trans before.client),
        last.wire.trans (silent.wire.trans before.wire)⟩
  | sent isClient isLater counted given =>
      exact .sent (before.client ▸ isClient) (last.client.trans isLater) counted given

theorem asks_exchange {run : Client → Wire → Outcome α × Client × Wire}
    (counts : ∀ (client : Client) (wire : Wire),
      client.Counts kind.name (run client wire).1 (run client wire).2.1)
    (given : ∀ client wire value, (run client wire).1 = .ok value → gives value) :
    Asks (exchange run) kind store gives := by
  unfold Asks
  rcases isClient : store.client with _ | client
  · rw [perform_exchange_none isClient]
    exact .unsent rfl (.refl store)
  · rw [perform_exchange_some isClient]
    exact .sent isClient rfl (counts client store.wire) (given client store.wire)

theorem asks_sendQuery {form : Form} {text : String} {graphs : List String} :
    Asks (sendQuery text form.name graphs) (.query form) store fun result =>
      result.kind = Results.expectedKind form := by
  apply asks_exchange
  · intro client wire
    exact client.counts_query text form.name graphs wire
  · intro client wire result done
    exact (Client.query_ok (Prod.ext done rfl)).1

theorem asks_sendUpdate {operation : Value} : Asks (sendUpdate operation) .update store (Answers .update) := by
  have asks : Asks (exchange fun client wire => client.update operation wire) .update store fun _ => True := by
    apply asks_exchange
    · intro client wire
      exact client.counts_update operation wire
    · exact fun _ _ _ _ => trivial
  exact asks.map fun _ _ => by rintro _ ⟨⟩

/-! ## Executing -/

theorem isFault_render : Outcome.FailsOnly Failure.IsFault (store.render index) := Outcome.isFault_ofRender

theorem isFault_text : Outcome.FailsOnly Failure.IsFault (store.text index) := by
  unfold Store.text
  split
  · exact Outcome.failsOnly_ok
  · exact isFault_render

theorem asks_sendIndexed {record : QueryRecord} (found : store.queries[index]? = some record) :
    Asks (sendIndexed index) (.query record.clauses.form) store fun result =>
      result.kind = Results.expectedKind record.clauses.form := by
  rcases hasText : store.text index with failure | text
  · have failed : perform (sendIndexed index) store = (.error failure, store) := by
      rw [sendIndexed, perform_bind_error (by rw [perform_queryText, hasText])]
    exact asks_of_error failed (isFault_text failure hasText).isUnsent
  · unfold Asks
    rw [perform_sendIndexed found hasText]
    exact asks_sendQuery

theorem asks_sendBound {binding : Value} {record : QueryRecord} (found : store.queries[index]? = some record) :
    Asks (sendBound binding index) (.query record.clauses.form) store fun result =>
      result.kind = Results.expectedKind record.clauses.form := by
  unfold sendBound
  split
  · exact asks_sendIndexed found
  · exact asks_fault
  · exact asks_fault

/-- The text of a query is fixed while it is sent, and its result is kept; neither concerns the client. -/
theorem asks_executeBound {binding : Value} {record : QueryRecord} (found : store.queries[index]? = some record) :
    Asks (executeBound binding index) (.query record.clauses.form) store fun result =>
      result.kind = Results.expectedKind record.clauses.form := by
  rcases written : store.render index with failure | text
  · exact asks_of_error (perform_executeBound_unwritten written) (isFault_render failure written).isUnsent
  have foundFixed : (store.withFrozen index (some text)).queries[index]? =
      some { record with frozen := some text } := by
    simp [Store.withFrozen, found]
  have asks : Asks (sendBound binding index) _ _ _ := asks_sendBound foundFixed
  unfold Asks at asks ⊢
  rcases sent : perform (sendBound binding index) (store.withFrozen index (some text)) with ⟨failure | result, after⟩
  · rw [sent] at asks
    rw [perform_executeBound_failed written sent]
    exact asks.congr ⟨rfl, rfl⟩ ⟨rfl, rfl⟩
  · rw [sent] at asks
    rw [perform_executeBound_ok written sent]
    exact asks.congr ⟨rfl, rfl⟩ ⟨rfl, rfl⟩

theorem asks_execute (asked : Call.executedKind? store index = some kind) :
    Asks (execute index) kind store fun result => ∀ form, kind = .query form →
      result.kind = Results.expectedKind form := by
  unfold Call.executedKind? at asked
  split at asked
  case h_2 => cases asked
  case h_1 record found =>
      split at asked <;> cases asked
      next unanswered =>
        rw [Bool.not_eq_true, Option.isSome_eq_false_iff, Option.isNone_iff_eq_none] at unanswered
        have given : ∀ result : QueryResult, result.kind = Results.expectedKind record.clauses.form →
            ∀ form, TextKind.query record.clauses.form = .query form → result.kind = Results.expectedKind form := by
          rintro result isKind _ ⟨⟩
          exact isKind
        unfold Asks
        rw [execute, perform_bind_ok (perform_query_of_some found)]
        simp only [unanswered]
        split
        · contradiction
        · exact .unsent rfl (.refl store)
        · exact (asks_executeBound found).mono given

/-- The calls that execute a query ask for an exchange if the query has no result. -/
theorem asks_queryCall {name : String} {view : QueryResult → Reply} (isView : executingView? name = some view)
    (asked : Call.executedKind? store index = some kind) :
    Asks (queryCall index name arguments none) kind store (Answers kind) := by
  rw [queryCall_of_executingView isView]
  unfold withoutArguments
  split
  · exact asks_fault
  · apply (asks_execute asked).map
    intro result isKind form isForm
    exact ⟨result, name, view, isView, rfl, isKind form isForm⟩

/-! ## Asking the client -/

theorem asks_sendGiven {given : Value} (asked : Call.givenKind? store given = some kind) :
    Asks (sendGiven given) kind store (Answers kind) := by
  have answers : ∀ {form : Form} (result : QueryResult), result.kind = Results.expectedKind form →
      Answers (.query form) (.result result) := by
    rintro form result isKind _ ⟨⟩
    exact ⟨result, "execute", .result, rfl, rfl, isKind⟩
  unfold Call.givenKind? at asked
  unfold sendGiven
  split at asked
  · rcases Option.map_eq_some_iff.mp asked with ⟨record, found, rfl⟩
    exact (asks_sendIndexed found).map answers
  · split at asked
    · next detected =>
        cases asked
        rcases Option.map_eq_some_iff.mp detected with ⟨text, isText, isForm⟩
        rw [isText]
        simp only [isForm]
        exact asks_sendQuery.map answers
    · cases asked

theorem asks_sendOperation {given : Value} : Asks (sendOperation given) .update store (Answers .update) := by
  unfold sendOperation
  split
  · apply asks_get_bind
    apply asks_ofOutcome_bind _ fun _ _ => asks_sendUpdate
    unfold Store.operationText
    split
    · exact UpdateOperation.isFault_toText.isUnsent
    · exact Outcome.isFault_misuse.isUnsent
  · exact asks_sendUpdate

theorem asks_sendNew {name : String} : Asks (sendNew name arguments) .update store (Answers .update) := by
  apply asks_ofOutcome_bind UpdateOperation.isUnsent_ofCall
  intro operation _
  exact asks_ofOutcome_bind UpdateOperation.isFault_toText.isUnsent fun _ _ => asks_sendUpdate

theorem isUnsent_single {parameter : Parameter} :
    Outcome.FailsOnly Failure.IsUnsent (arguments.single parameter) := by
  apply Arguments.isFault_bind.isUnsent.bind
  intro values
  split
  · exact Outcome.failsOnly_ok
  · exact Outcome.isFault_misuse.isUnsent

theorem asks_shortcut {name : String} {call : Session Reply} (named : shortcut? name arguments = some call) :
    Asks call .update store (Answers .update) := by
  have isUnsent : ∀ parameters, Outcome.FailsOnly Failure.IsUnsent (shortcut arguments parameters) := by
    intro parameters
    exact Arguments.isFault_bind.isUnsent.bind fun _ => Outcome.failsOnly_ok
  unfold shortcut? at named
  split at named <;> cases named
  all_goals exact asks_ofOutcome_bind (isUnsent _) fun _ _ => asks_sendNew

/-- A call on the client asks for the exchange that its name and its arguments tell. -/
theorem asks_clientCall {name : String} (asked : Call.clientKind? store name arguments = some kind) :
    Asks (clientCall name arguments none) kind store (Answers kind) := by
  refine asks_get_bind ?_
  split
  case h_2 => exact asks_fault
  case h_1 client _ =>
      unfold Call.clientKind? at asked
      split at asked
      · rcases Option.bind_eq_some_iff.mp asked with ⟨given, isGiven, asked⟩
        have single : arguments.single ⟨"query", none⟩ = .ok given := by
          rcases found : arguments.single ⟨"query", none⟩ with failure | other <;> rw [found] at isGiven <;>
            cases isGiven
          rfl
        have sends : Asks (do sendGiven (← ofOutcome (arguments.single ⟨"query", none⟩))) kind store (Answers kind) := by
          rw [single]
          exact asks_sendGiven asked
        exact sends
      · cases asked
        have sends : Asks (do sendOperation (← ofOutcome (arguments.single ⟨"operation", none⟩))) .update store
            (Answers .update) :=
          asks_ofOutcome_bind isUnsent_single fun _ _ => asks_sendOperation
        exact sends
      · rcases Option.map_eq_some_iff.mp asked with ⟨call, named, rfl⟩
        have sends : Asks call .update store (Answers .update) := asks_shortcut named
        unfold shortcut? at named
        split at named <;> cases named
        all_goals exact sends

/-- A call that asks for an exchange is sent at most once and counted. -/
theorem Call.asks {call : Call} (asked : call.kind? store = some kind) : Asks call.run kind store (Answers kind) := by
  rcases call with ⟨receiver, method, arguments⟩
  unfold Call.kind? at asked
  split at asked
  · next index isQuery =>
      simp only at isQuery
      subst isQuery
      rcases Option.bind_eq_some_iff.mp asked with ⟨view, isView, asked⟩
      exact asks_queryCall isView asked
  · next isClient =>
      simp only at isClient
      subst isClient
      exact asks_clientCall asked
  · cases asked

/-! ## Asking for nothing -/

variable {block : Option Block}

theorem silent_groupCall {name : String} :
    store.Silent (perform (groupCall index name arguments block) store).2 :=
  (ends_groupCall (.refl store) fun _ _ => ⟨rfl, rfl⟩).after

theorem silent_operationCall {name : String} :
    store.Silent (perform (operationCall index name arguments block) store).2 :=
  (ends_operationCall (.refl store) fun _ => ⟨rfl, rfl⟩).after

/-- No step of a call exchanges anything, unless the query is executed. -/
theorem keptBySteps_silent : KeptBySteps index arguments store store.Silent :=
  ⟨fun _ _ _ silent => ⟨silent.client, silent.wire⟩, fun _ _ _ _ silent _ => ⟨silent.client, silent.wire⟩⟩

theorem silent_ordinaryCall {name : String} (noBlock : blockCall? index name arguments block = none)
    (noView : executingView? name = none) : store.Silent (perform (queryCall index name arguments block) store).2 :=
  (keptBySteps_silent.of_ordinaryCall noBlock noView (.refl store)).after

/-- A call that may have a block, and has none, exchanges nothing. -/
theorem silent_blockCall {name : String} {call : Session Reply}
    (named : blockCall? index name arguments none = some call) : store.Silent (perform call store).2 := by
  have kept : KeptByBlock index arguments none store store.Silent :=
    ⟨keptBySteps_silent, fun _ _ _ silent => ⟨silent.client, silent.wire⟩, by rintro _ _ _ ⟨⟩⟩
  exact (kept.of_blockCall (.refl store) named).after

/-- A query that cannot be executed, or has its result, is not sent. -/
theorem perform_execute_unasked (unasked : Call.executedKind? store index = none) :
    (perform (execute index) store).2 = store := by
  unfold Call.executedKind? at unasked
  split at unasked
  · next record found =>
      split at unasked
      · next answered =>
          rcases Option.isSome_iff_exists.mp answered with ⟨result, isResult⟩
          rw [perform_execute_of_result found isResult]
      · cases unasked
  · next missing =>
      rw [execute, perform_bind_error (by rw [perform_query, missing])]

theorem perform_queryCall_unasked {name : String} {view : QueryResult → Reply}
    (isView : executingView? name = some view) (unasked : Call.executedKind? store index = none) :
    (perform (queryCall index name arguments none) store).2 = store := by
  have executed := perform_execute_unasked unasked
  rw [queryCall_of_executingView isView]
  unfold withoutArguments
  split
  · rfl
  · rw [perform_bind]
    rcases performed : perform (execute index) store with ⟨failure | result, after⟩ <;> rw [performed] at executed <;>
      exact executed

theorem silent_queryCall {name : String}
    (unasked : ((executingView? name).bind fun _ => Call.executedKind? store index) = none) :
    store.Silent (perform (queryCall index name arguments none) store).2 := by
  rcases isView : executingView? name with _ | view
  · rcases hasBlock : blockCall? index name arguments none with _ | call
    · exact silent_ordinaryCall hasBlock isView
    · unfold queryCall
      rw [hasBlock]
      exact silent_blockCall hasBlock
  · rw [isView] at unasked
    rw [perform_queryCall_unasked isView unasked]
    exact .refl store

theorem silent_sendGiven {given : Value} (unasked : Call.givenKind? store given = none) :
    Ends (sendGiven given) store store.Silent fun after _ => store.Silent after := by
  have same := Store.Silent.refl store
  unfold Call.givenKind? at unasked
  split at unasked
  · next index _ =>
      have missing : store.queries[index]? = none := Option.map_eq_none_iff.mp unasked
      have unsent : (perform (sendIndexed index) store).2 = store := by
        rw [sendIndexed, perform_bind, perform_queryText]
        rcases store.text index with failure | text
        · rfl
        · simp only
          rw [perform_bind, perform_query, missing]
      have ends : Ends (sendIndexed index) store store.Silent fun after _ => store.Silent after := by
        apply ends_of_holds
        rw [unsent]
        exact same
      exact ends_bind ends fun _ _ silent => ends_pure silent
  · next notQuery =>
      unfold sendGiven
      split
      · exact (notQuery _ _ rfl).elim
      · split
        · exact ends_fault same
        · next text isText =>
            refine ends_ofOutcome_bind same fun detected isDetected => ?_
            rw [isText, Option.map_some, isDetected] at unasked
            cases detected with
            | update => exact ends_refuse same
            | query form => cases unasked

/-- A call on the client that looks at it, makes a query or names nothing to send exchanges nothing. -/
theorem silent_clientCall {name : String} (unasked : Call.clientKind? store name arguments = none) :
    Ends (clientCall name arguments none) store store.Silent fun after _ => store.Silent after := by
  have same := Store.Silent.refl store
  refine ends_get_bind ?_
  split
  case h_2 => exact ends_fault same
  case h_1 client _ =>
      split
      · exact ends_pure same
      · refine ends_get_bind ?_
        unfold Call.clientKind? at unasked
        split
        · next call named =>
            unfold boundQuery at named
            split at named
            · cases named
            · rcases Option.map_eq_some_iff.mp named with ⟨made, isMade, rfl⟩
              split
              · exact ends_fault same
              · exact ends_constructCall isMade same fun _ _ => ⟨rfl, rfl⟩
        · next call _ named =>
            split at unasked
            · cases named
            · cases named
            · rw [named] at unasked
              cases unasked
        · refine ends_ofOutcome_bind same fun given isGiven => silent_sendGiven ?_
          simp only [isGiven, Except.toOption] at unasked
          exact unasked
        · cases unasked
        · exact ends_fault same

/-- A call that asks for no exchange makes none. -/
theorem Call.silent {call : Call} (unasked : call.kind? store = none) : store.Silent (perform call.run store).2 := by
  rcases call with ⟨receiver, method, arguments⟩
  have same := Store.Silent.refl store
  unfold Call.run replyCall
  simp only
  split
  · exact silent_queryCall unasked
  · exact silent_groupCall
  · exact silent_operationCall
  · exact (silent_clientCall unasked).after
  all_goals exact same

end Session

end Sparql
