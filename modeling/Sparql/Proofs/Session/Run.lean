import Sparql.Proofs.Run
import Sparql.Session.Script

/-!
# Running a part of a session

What the smallest parts of a session come to: taking over an outcome, failing, and looking at and changing what
the store holds.

What is true of the store that a part of a session leaves may depend on whether the part fails. There is a rule for
each way in which parts are put together, so that what holds of a call is shown along the call as it is written.
-/

namespace Sparql.Session

variable {α : Type}

@[simp]
theorem perform_ofOutcome (outcome : Outcome α) (store : Store) :
    perform (ofOutcome outcome) store = (outcome, store) := by
  cases outcome <;> rfl

theorem perform?_ofOutcome (outcome : Outcome α) (store : Store) :
    perform? (ofOutcome outcome) store = outcome.toOption.map fun value => (value, store) := by
  cases outcome <;> rfl

@[simp]
theorem perform_fault (cause : Fault) (store : Store) :
    perform (fault cause : Session α) store = (.error (.fault cause), store) := rfl

@[simp]
theorem perform_refuse (cause : ConstructionError) (store : Store) :
    perform (refuse cause : Session α) store = (.error (.construction cause), store) := rfl

/-! ## Queries and groups -/

theorem perform_addQuery (record : QueryRecord) (store : Store) :
    perform (addQuery record) store =
      (.ok store.queries.length, { store with queries := store.queries ++ [record] }) := rfl

theorem perform_query (index : Nat) (store : Store) :
    perform (query index) store =
      (match store.queries[index]? with
        | some record => .ok record
        | none => .error (.fault .noSuchOperation), store) := by
  rw [query, perform_bind_ok (perform_get store)]
  cases store.queries[index]? <;> rfl

theorem perform?_query (index : Nat) (store : Store) :
    perform? (query index) store = store.queries[index]?.map fun record => (record, store) := by
  unfold perform?
  rw [perform_query]
  cases store.queries[index]? <;> rfl

theorem perform_query_of_some {index : Nat} {store : Store} {record : QueryRecord}
    (found : store.queries[index]? = some record) :
    perform (query index) store = (.ok record, store) := by
  rw [perform_query, found]

theorem perform_changeQuery (index : Nat) (change : QueryRecord → QueryRecord) (store : Store) :
    perform (changeQuery index change) store =
      (.ok (), { store with queries := store.queries.modify index change }) := rfl

theorem perform_addGroup (group : OptionalGroup) (store : Store) :
    perform (addGroup group) store =
      (.ok store.groups.length, { store with groups := store.groups ++ [group] }) := rfl

theorem perform_addOperation (operation : UpdateOperation) (store : Store) :
    perform (addOperation operation) store =
      (.ok store.operations.length,
        { store with operations := store.operations ++ [operation] }) := rfl

theorem perform_queryText (index : Nat) (store : Store) :
    perform (queryText index) store = (store.text index, store) := by
  rw [queryText, perform_bind_ok (perform_get store), perform_ofOutcome]

theorem perform_renderedText (index : Nat) (store : Store) :
    perform (renderedText index) store = (store.render index, store) := by
  rw [renderedText, perform_bind_ok (perform_get store), perform_ofOutcome]

/-! ## Calls that execute -/

/-- A query is executed by a call of any of the listed names without arguments. -/
theorem queryCall_of_executingView {index : Nat} {name : String} {arguments : Arguments} {block : Option Block}
    {view : QueryResult → Reply} (isView : executingView? name = some view) :
    queryCall index name arguments block =
      withoutArguments arguments block (do return view (← execute index)) := by
  unfold executingView? at isView
  split at isView <;> cases isView <;> rfl

/-! ## How a part of a session ends -/

variable {β : Type} {store : Store} {fails : Store → Prop} {gives : Store → α → Prop}

/-- What is true of the store that a part of a session leaves, when it fails and when it succeeds. -/
def Ends (run : Session α) (store : Store) (fails : Store → Prop) (gives : Store → α → Prop) : Prop :=
  match perform run store with
  | (.ok value, after) => gives after value
  | (.error _, after) => fails after

theorem ends_pure {value : α} (given : gives store value) : Ends (pure value) store fails gives := given

theorem ends_fault {cause : Fault} (failed : fails store) : Ends (fault cause) store fails gives := failed

theorem ends_refuse {cause : ConstructionError} (failed : fails store) :
    Ends (refuse cause) store fails gives := failed

theorem ends_modify {change : Store → Store} {gives : Store → Unit → Prop}
    (given : gives (change store) ()) : Ends (modify change) store fails gives := given

theorem ends_bind {run : Session α} {rest : α → Session β} {middle : Store → α → Prop}
    {gives : Store → β → Prop} (first : Ends run store fails middle)
    (second : ∀ value after, middle after value → Ends (rest value) after fails gives) :
    Ends (run >>= rest) store fails gives := by
  unfold Ends at first ⊢
  rw [perform_bind]
  rcases performed : perform run store with ⟨_ | value, after⟩ <;> rw [performed] at first
  · exact first
  · exact second value after first

theorem ends_get_bind {rest : Store → Session α} (ends : Ends (rest store) store fails gives) :
    Ends (get >>= rest) store fails gives := ends

theorem ends_ofOutcome_bind {outcome : Outcome β} {rest : β → Session α} (failed : fails store)
    (ends : ∀ value, outcome = .ok value → Ends (rest value) store fails gives) :
    Ends (ofOutcome outcome >>= rest) store fails gives := by
  cases outcome with
  | ok value => exact ends value rfl
  | error failure => exact failed

theorem ends_query_bind {index : Nat} {rest : QueryRecord → Session α} (failed : fails store)
    (ends : ∀ record, store.queries[index]? = some record → Ends (rest record) store fails gives) :
    Ends (query index >>= rest) store fails gives := by
  unfold Ends
  rw [perform_bind, perform_query]
  rcases found : store.queries[index]? with _ | record
  · exact failed
  · exact ends record found

theorem ends_addQuery_bind {record : QueryRecord} {rest : Nat → Session α}
    (ends : Ends (rest store.queries.length) { store with queries := store.queries ++ [record] } fails gives) :
    Ends (addQuery record >>= rest) store fails gives := ends

theorem ends_unless {condition : Bool} {failure : Failure} {rest : Unit → Session α}
    (failed : fails store) (ends : Ends (rest ()) store fails gives) :
    Ends (if condition then throw failure >>= rest else rest ()) store fails gives := by
  cases condition with
  | true => exact failed
  | false => exact ends

theorem Ends.mono {run : Session α} {failsToo : Store → Prop} {givesToo : Store → α → Prop}
    (ends : Ends run store fails gives) (failed : ∀ after, fails after → failsToo after)
    (given : ∀ after value, gives after value → givesToo after value) :
    Ends run store failsToo givesToo := by
  unfold Ends at ends ⊢
  rcases performed : perform run store with ⟨_ | value, after⟩ <;> rw [performed] at ends
  · exact failed after ends
  · exact given after value ends

/-- What succeeds ends with the value and the store that running it gives. -/
theorem Ends.with_performed {run : Session α} (ends : Ends run store fails gives) :
    Ends run store fails fun after value =>
      perform run store = (.ok value, after) ∧ gives after value := by
  unfold Ends at ends ⊢
  rcases performed : perform run store with ⟨_ | value, after⟩ <;> rw [performed] at ends
  · exact ends
  · exact ⟨rfl, ends⟩

theorem Ends.of_error {run : Session α} {failure : Failure} {after : Store}
    (ends : Ends run store fails gives) (failed : perform run store = (.error failure, after)) :
    fails after := by
  unfold Ends at ends
  rwa [failed] at ends

theorem Ends.of_ok {run : Session α} {value : α} {after : Store} (ends : Ends run store fails gives)
    (done : perform run store = (.ok value, after)) : gives after value := by
  unfold Ends at ends
  rwa [done] at ends

theorem ends_of_holds {run : Session α} {holds : Store → Prop} (always : holds (perform run store).2) :
    Ends run store holds fun after _ => holds after := by
  unfold Ends
  rcases performed : perform run store with ⟨_ | value, after⟩ <;> rw [performed] at always <;>
    exact always

/-- What is kept by a part of a session is kept if the last change keeps it too. -/
theorem ends_tryFinally {run : Session α} {change : Store → Store} {holds : Store → Prop}
    (ends : Ends run store holds fun after _ => holds after) (last : ∀ after, holds after → holds (change after)) :
    Ends (tryFinally run (modify change)) store holds fun after _ => holds after := by
  unfold Ends at ends ⊢
  rw [perform_tryFinally]
  rcases performed : perform run store with ⟨_ | value, after⟩ <;> rw [performed] at ends <;>
    exact last after ends

theorem Ends.after {run : Session α} {holds : Store → Prop} (ends : Ends run store holds fun after _ => holds after) :
    holds (perform run store).2 := by
  unfold Ends at ends
  split at ends
  · next done => rwa [done]
  · next failed => rwa [failed]

/-- Parts of a session that are run one after the other. -/
theorem ends_forM {items : List β} {run : β → Session Unit} {holds : Store → Prop}
    (each : ∀ item store, holds store → Ends (run item) store holds fun after _ => holds after)
    (initially : holds store) : Ends (items.forM run) store holds fun after _ => holds after := by
  induction items generalizing store with
  | nil => exact ends_pure initially
  | cons item rest ih => exact ends_bind (each item store initially) fun _ _ kept => ih kept

end Sparql.Session
