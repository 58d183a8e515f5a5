import Sparql.Proofs.Session.Execution

/-!
# Scripts move a store

A script runs one step after the other, and the steps of its blocks inside. All of it is moves, and so evolution;
what every change or every move keeps is true between any two steps of any script.
-/

namespace Sparql

open Relation

namespace Session

variable {store : Store}

/-! ## Steps -/

theorem leads_evaluateArguments {positional : List Expression} {named : List (String × Expression)} :
    Leads (evaluateArguments positional named) store fun after arguments =>
      ∀ value ∈ arguments.positional, after.HasValue value := by
  refine leads_of_closed fun closed => leads_get_bind ?_
  have registers : ∀ name,
      store.HasValue (((store.register? name).map store.valueOf).getD .null) := by
    intro name
    rcases found : store.register? name with _ | reply
    · exact Store.hasValue_of_noQuery rfl
    · exact Store.hasValue_valueOf (closed.has_of_register found)
  refine leads_ofOutcome_bind fun values done => ?_
  exact leads_ofOutcome_bind fun _ _ => leads_pure (Store.hasValue_evaluateAll registers done)

theorem leads_replyCall {reply : Reply} {method : String} {arguments : Arguments}
    {block : Option Block} (has : store.Has reply)
    (known : ∀ value ∈ arguments.positional, store.HasValue value)
    (moves : ∀ run, block = some run → run.Moves) :
    Leads (replyCall reply method arguments block) store Store.Has := by
  unfold replyCall
  split
  · exact leads_queryCall has known moves
  · exact leads_groupCall has
  · exact leads_operationCall has
  · exact leads_clientCall
  · exact leads_pure trivial
  · exact leads_pure trivial
  · exact leads_pure trivial
  · exact leads_pure trivial
  · exact leads_fault

theorem moves_operation {operation : UpdateOperation} (isMade : operation.IsMade) :
    store.Moves { store with operations := store.operations ++ [operation] } := by
  refine .single ⟨.single (.operation operation), fun _ _ isText => .inl isText, fun each mem => ?_⟩
  rcases List.mem_append.mp mem with old | new
  · exact .inl ⟨each, old, rfl⟩
  · cases List.mem_singleton.mp new
    exact .inr isMade

theorem leads_receiverCall {receiver : Receiver} {method : String} {arguments : Arguments}
    {block : Option Block} (known : ∀ value ∈ arguments.positional, store.HasValue value)
    (moves : ∀ run, block = some run → run.Moves) :
    Leads (receiverCall receiver method arguments block) store Store.Has := by
  cases receiver with
  | queries =>
      unfold receiverCall
      simp only
      split
      · exact leads_unless fun _ => leads_constructCall fun _ => construct_isNew ‹_›
      · exact leads_fault
  | operations =>
      refine leads_unless fun _ => leads_ofOutcome_bind fun operation made => ?_
      have added : Leads (addOperation operation) store
          fun after index => index < after.operations.length :=
        fun _ => ⟨moves_operation ⟨method, arguments, made⟩, fun _ done => by
          cases done
          simp [perform_addOperation]⟩
      exact leads_bind added fun _ _ _ known => leads_pure known
  | register name =>
      refine leads_of_closed fun closed => leads_get_bind ?_
      split
      · exact leads_replyCall (closed.has_of_register ‹_›) known moves
      · exact leads_fault

theorem leads_withBlockRegister {object : ObjectRef} {run : Session Unit}
    (has : store.Has (replyOf object)) (leads : ∀ store, Leads run store fun _ _ => True) :
    Leads (withBlockRegister object run) store fun _ _ => True := by
  refine leads_of_closed fun closed => leads_get_bind ?_
  have before : ∀ reply, store.register? blockRegister = some reply → store.Has reply :=
    fun reply found => closed.has_of_register found
  have handed : Leads (modify (·.setRegister blockRegister (replyOf object))) store
      fun _ _ => True := leads_modify (Store.moves_register blockRegister has) trivial
  refine leads_bind handed fun _ middle grown _ => ?_
  refine leads_tryFinally (leads middle) fun after later => ?_
  rcases found : store.register? blockRegister with _ | reply
  · exact Store.moves_unregister blockRegister
  · exact Store.moves_register blockRegister ((before reply found).mono (grown.grows.trans later.grows))

mutual

/-- Every call moves every store. -/
theorem leads_runCall (step : Step) (store : Store) : Leads (runCall step) store Store.Has := by
  cases step with
  | call receiver method positional named block target =>
      refine leads_bind leads_evaluateArguments fun arguments middle _ known => ?_
      refine leads_bind (leads_receiverCall known (runBlock_moves block)) fun reply after _ has => ?_
      cases target with
      | none => exact leads_pure has
      | some name =>
          have moves := Store.moves_register name has
          exact leads_bind (leads_modify moves (has.mono moves.grows))
            fun _ _ _ has => leads_pure has

theorem runBlock_moves (block : Option (List Step)) (run : Block)
    (isRun : runBlock block = some run) : run.Moves := by
  cases block with
  | none => cases isRun
  | some steps =>
      cases isRun
      intro object store has
      exact leads_withBlockRegister has (leads_runAll steps)

theorem leads_runAll (steps : List Step) (store : Store) :
    Leads (runAll steps) store fun _ _ => True := by
  cases steps with
  | nil => exact leads_pure trivial
  | cons step rest =>
      refine leads_get_bind ?_
      split
      · exact leads_bind (leads_runCall step store) fun _ after _ _ => leads_runAll rest after
      · exact leads_runAll rest store

end

/-! ## Sessions -/

/-- The store after some more steps of a session. -/
def storeAfter (store : Store) (steps : List Step) : Store :=
  steps.foldl (fun store step => (report store step).2) store

theorem moves_report (closed : store.Closed) (step : Step) : store.Moves (report store step).2 := by
  have quiet : store.Moves { store with wire := { store.wire with events := [] } } :=
    .single (.quiet (.single (.wire _)) (fun _ => rfl) rfl)
  unfold report
  simp only
  split
  · exact quiet.trans (leads_runCall step _ (quiet.closed closed)).1
  · exact quiet

theorem moves_storeAfter (closed : store.Closed) (steps : List Step) :
    store.Moves (storeAfter store steps) := by
  induction steps generalizing store with
  | nil => exact .refl
  | cons step rest ih =>
      have first := moves_report closed step
      exact first.trans (ih (first.closed closed))

theorem evolves_storeAfter (closed : store.Closed) (steps : List Step) :
    store.Evolves (storeAfter store steps) :=
  (moves_storeAfter closed steps).evolves

end Session

namespace Store

/-- The store at the start of a session, with the answers that its client will be given. -/
def start (client : Option Client) (answers : List Answer) : Store :=
  { client, wire := { answers }
    registers := match client with
      | some _ => [("client", .client)]
      | none => [] }

theorem start_closed (client : Option Client) (answers : List Answer) :
    (start client answers).Closed := by
  cases client <;> constructor <;> simp [start, Has]

/-- What holds at the start of a session and is kept by every change holds throughout the session. -/
theorem holds_of_session {holds : Store → Prop} (client : Option Client) (answers : List Answer)
    (steps : List Step) (initially : holds (start client answers))
    (kept : ∀ {store after : Store}, store.Change after → holds store → holds after) :
    holds (Session.storeAfter (start client answers) steps) := by
  have evolves := Session.evolves_storeAfter (start_closed client answers) steps
  generalize Session.storeAfter (start client answers) steps = after at evolves
  induction evolves with
  | refl => exact initially
  | tail _ change ih => exact kept change ih

theorem closed_of_session (client : Option Client) (answers : List Answer) (steps : List Step) :
    (Session.storeAfter (start client answers) steps).Closed :=
  holds_of_session client answers steps (start_closed client answers) Change.closed

end Store

end Sparql
