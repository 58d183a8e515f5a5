import Sparql.Proofs.Session.Execution
import Sparql.Proofs.Session.Run
import Sparql.Proofs.Session.WellFormed

/-!
# Calls, step by step

A call on a query adds new objects, changes the query or one that it has added, hands one of these to its block, and
exchanges something with the client if it executes the query. What each of these steps keeps is kept by the call,
whatever its arguments are and however it ends. The patterns that a step adds were in the store before the call, or
come out of its arguments.
-/

namespace Sparql

/-- An object that a store does not hold yet. -/
def Store.Lacks (store : Store) (object : ObjectRef) : Prop := ¬ store.Has (Session.replyOf object)

namespace Session

variable {store : Store} {index : Nat} {arguments : Arguments} {block : Option Block} {holds : Store → Prop}

/-- Some patterns come out of the arguments of a call, or were in the store before it. -/
abbrev AreSourced (store : Store) (arguments : Arguments) (patterns : List Pattern) : Prop :=
  ∀ pattern ∈ patterns, store.Sources arguments pattern

/-- What a call does to a query that it changes: it never changes what the query is bound to, and adds patterns only
where they come from. -/
structure SourcedChange (store : Store) (arguments : Arguments) (change : QueryRecord → QueryRecord) : Prop where
  binding : ∀ record, (change record).binding = record.binding
  patterns : ∀ record, ∀ pattern ∈ (change record).clauses.allPatterns,
    pattern ∈ record.clauses.allPatterns ∨ store.Sources arguments pattern

/-- A change that leaves the binding and the patterns alone. -/
theorem sourcedChange_of_eq {store : Store} {arguments : Arguments} {change : QueryRecord → QueryRecord}
    (binding : ∀ record, (change record).binding = record.binding)
    (patterns : ∀ record, (change record).clauses.allPatterns = record.clauses.allPatterns) :
    SourcedChange store arguments change :=
  ⟨binding, fun record _ mem => .inl (patterns record ▸ mem)⟩

/-- What is kept when a call on a query adds a query, and when it changes its own one or one that it has added. -/
structure KeptBySteps (index : Nat) (arguments : Arguments) (store : Store) (holds : Store → Prop) : Prop where
  queryAdded : ∀ (inner : Store) (record : QueryRecord), AreSourced store arguments record.clauses.allPatterns →
    holds inner → holds { inner with queries := inner.queries ++ [record] }
  queryChanged : ∀ (inner : Store) (target : Nat) (change : QueryRecord → QueryRecord),
    SourcedChange store arguments change → holds inner → target = index ∨ store.queries.length ≤ target →
    holds { inner with queries := inner.queries.modify target change }

/-- What is also kept when a call adds an optional part, and by its block. -/
structure KeptByBlock (index : Nat) (arguments : Arguments) (block : Option Block) (store : Store)
    (holds : Store → Prop) : Prop extends KeptBySteps index arguments store holds where
  groupAdded : ∀ (inner : Store) (group : OptionalGroup), AreSourced store arguments group.patterns → holds inner →
    holds { inner with groups := inner.groups ++ [group] }
  blockRun : ∀ (inner : Store) (run : Block) (object : ObjectRef), block = some run → holds inner →
    inner.registers = store.registers → object = .query index ∨ store.Lacks object →
    holds (perform (run object) inner).2

variable {α : Type} {gives : Store → α → Prop} {inner : Store} {object : ObjectRef}

/-! ## Calls without a block -/

theorem ends_queryText (initially : holds store) :
    Ends (queryText index) store holds fun after _ => holds after := by
  apply ends_of_holds
  rw [perform_queryText]
  exact initially

theorem ends_query (initially : holds store) : Ends (query index) store holds fun after _ => holds after := by
  apply ends_of_holds
  rw [perform_query]
  exact initially

theorem ends_withoutArguments {call : Session Reply} (initially : holds store)
    (ends : Ends call store holds fun after _ => holds after) :
    Ends (withoutArguments arguments block call) store holds fun after _ => holds after := by
  unfold withoutArguments
  exact ends_unless initially ends

/-- A call that only looks at a query changes nothing. -/
theorem ends_readingCall {name : String} {call : Session Reply} (noView : executingView? name = none)
    (named : readingCall? index name = some call) (initially : holds store) :
    Ends call store holds fun after _ => holds after := by
  have text {reply : String → Reply} :
      Ends (do return reply (← queryText index)) store holds fun after _ => holds after :=
    ends_bind (ends_queryText initially) fun _ _ held => ends_pure held
  unfold readingCall? at named
  split at named
  case h_7 =>
      rw [noView] at named
      cases named
  all_goals cases named
  case h_1 | h_2 | h_3 => exact text
  case h_4 =>
      refine ends_bind (ends_bind (ends_queryText initially) fun _ _ held => ?_) fun _ _ held => ends_pure held
      exact ends_bind (ends_query held) fun _ _ held => ends_pure held
  case h_5 | h_6 => exact ends_bind (ends_query initially) fun _ _ held => ends_pure held

/-- A call that makes a query adds it. -/
theorem ends_constructCall {name : String} {made : Outcome QueryRecord}
    (named : construct? name arguments = some made) (initially : holds store)
    (added : ∀ record, AreSourced store arguments record.clauses.allPatterns →
      holds { store with queries := store.queries ++ [record] }) :
    Ends (constructCall made) store holds fun after _ => holds after := by
  refine ends_ofOutcome_bind initially fun record done => ends_addQuery_bind ?_
  exact added record (QueryRecord.sources_of_construct named done)

/-- A call on an optional part changes this part, if it changes anything. -/
theorem ends_groupCall {name : String} (initially : holds store)
    (changed : ∀ group, AreSourced store arguments group.patterns →
      holds { store with groups := store.groups.modify index fun _ => group }) :
    Ends (groupCall index name arguments block) store holds fun after _ => holds after := by
  refine ends_get_bind ?_
  split
  · next group found =>
    split
    · next change named =>
      refine ends_unless initially (ends_ofOutcome_bind initially fun after done => ?_)
      have areSourced : AreSourced store arguments after.patterns := by
        intro pattern mem
        rcases OptionalGroup.sources_of_change named done pattern mem with old | sourced
        · exact .inl (.inr ⟨group, List.mem_of_getElem? found, old⟩)
        · exact sourced
      have last : Ends (changeGroup index fun _ => after) store holds fun after _ => holds after :=
        ends_modify (changed after areSourced)
      exact ends_bind last fun _ _ held => ends_pure held
    · exact ends_pure initially
    · exact ends_pure initially
    · exact ends_fault initially
  · exact ends_fault initially

/-- A call on an operation changes this operation, if it changes anything. -/
theorem ends_operationCall {name : String} (initially : holds store)
    (changed : ∀ operation, holds { store with operations := store.operations.set index operation }) :
    Ends (operationCall index name arguments block) store holds fun after _ => holds after := by
  refine ends_get_bind ?_
  split
  · split
    · exact ends_ofOutcome_bind initially fun _ _ => ends_pure initially
    · exact ends_ofOutcome_bind initially fun _ _ => ends_pure initially
    · exact ends_ofOutcome_bind initially fun _ _ => ends_pure initially
    · refine ends_unless initially (ends_ofOutcome_bind initially fun operation _ => ?_)
      have last : Ends (changeOperation index operation) store holds fun after _ => holds after :=
        ends_modify (changed operation)
      exact ends_bind last fun _ _ held => ends_pure held
    · exact ends_fault initially
  · exact ends_fault initially

/-- What an exchange keeps is kept by every way to ask for one. -/
theorem ends_exchanging {α : Type} {run : Session α} (isExchange : store.Exchanged (perform run store).2)
    (exchanged : ∀ after, store.Exchanged after → holds after) : Ends run store holds fun after _ => holds after :=
  ends_of_holds (exchanged _ isExchange)

theorem ends_sendUpdate {operation : Value} (exchanged : ∀ after, store.Exchanged after → holds after) :
    Ends (sendUpdate operation) store holds fun after _ => holds after :=
  ends_bind (ends_exchanging (exchanged_exchange _) exchanged) fun _ _ held => ends_pure held

theorem ends_sendGiven {given : Value} (exchanged : ∀ after, store.Exchanged after → holds after) :
    Ends (sendGiven given) store holds fun after _ => holds after := by
  have initially : holds store := exchanged store .unchanged
  unfold sendGiven
  split
  · exact ends_bind (ends_exchanging exchanged_sendIndexed exchanged) fun _ _ held => ends_pure held
  · split
    · exact ends_fault initially
    · refine ends_ofOutcome_bind initially fun kind _ => ?_
      split
      · exact ends_refuse initially
      · exact ends_bind (ends_exchanging (exchanged_exchange _) exchanged) fun _ _ held => ends_pure held

theorem ends_sendOperation {given : Value} (exchanged : ∀ after, store.Exchanged after → holds after) :
    Ends (sendOperation given) store holds fun after _ => holds after := by
  have initially : holds store := exchanged store .unchanged
  unfold sendOperation
  split
  · exact ends_get_bind (ends_ofOutcome_bind initially fun _ _ => ends_sendUpdate exchanged)
  · exact ends_sendUpdate exchanged

theorem ends_shortcut {name : String} {call : Session Reply} (named : shortcut? name arguments = some call)
    (exchanged : ∀ after, store.Exchanged after → holds after) : Ends call store holds fun after _ => holds after := by
  have initially : holds store := exchanged store .unchanged
  unfold shortcut? at named
  split at named <;> cases named
  all_goals
    refine ends_ofOutcome_bind initially fun _ _ => ?_
    refine ends_ofOutcome_bind initially fun _ _ => ends_ofOutcome_bind initially fun _ _ => ?_
    exact ends_sendUpdate exchanged

/-- The client makes a query or exchanges something, if it does anything. -/
theorem ends_clientCall {name : String} (added : ∀ record, AreSourced store arguments record.clauses.allPatterns →
      holds { store with queries := store.queries ++ [record] })
    (exchanged : ∀ after, store.Exchanged after → holds after) :
    Ends (clientCall name arguments block) store holds fun after _ => holds after := by
  have initially : holds store := exchanged store .unchanged
  refine ends_get_bind ?_
  split
  case h_2 => exact ends_fault initially
  case h_1 client _ =>
      split
      · exact ends_pure initially
      · refine ends_unless initially (ends_get_bind ?_)
        split
        · have named := ‹boundQuery _ _ _ = some _›
          unfold boundQuery at named
          split at named
          · cases named
          · rcases Option.map_eq_some_iff.mp named with ⟨made, isMade, rfl⟩
            split
            · exact ends_fault initially
            · exact ends_constructCall isMade initially added
        · exact ends_shortcut ‹_› exchanged
        · exact ends_ofOutcome_bind initially fun _ _ => ends_sendGiven exchanged
        · exact ends_ofOutcome_bind initially fun _ _ => ends_sendOperation exchanged
        · exact ends_fault initially

namespace KeptBySteps

variable (kept : KeptBySteps index arguments store holds)
include kept

theorem ends_changeClauses {change : Clauses → Clauses}
    (patterns : ∀ clauses, ∀ pattern ∈ (change clauses).allPatterns,
      pattern ∈ clauses.allPatterns ∨ store.Sources arguments pattern) (initially : holds inner) :
    Ends (changeClauses index change) inner holds fun after _ => holds after :=
  ends_modify (kept.queryChanged inner index _ ⟨fun _ => rfl, fun _ => patterns _⟩ initially (.inl rfl))

/-- The last thing that many a call does is to change its query. -/
theorem ends_attach {change : QueryRecord → QueryRecord} {reply : Reply}
    (sourced : SourcedChange store arguments change) (initially : holds inner) :
    Ends (do changeQuery index change; return reply) inner holds fun after _ => holds after := by
  have last : Ends (changeQuery index change) inner holds fun after _ => holds after :=
    ends_modify (kept.queryChanged inner index change sourced initially (.inl rfl))
  exact ends_bind last fun _ _ held => ends_pure held

/-- Clauses that are made of those of a query in the store have its patterns, and perhaps some of the arguments. -/
theorem ends_attachClauses {record : QueryRecord} {clauses : Clauses} {reply : Reply} (isHeld : record ∈ store.queries)
    (patterns : ∀ pattern ∈ clauses.allPatterns,
      pattern ∈ record.clauses.allPatterns ∨ store.Sources arguments pattern) (initially : holds inner) :
    Ends (do changeClauses index fun _ => clauses; return reply) inner holds fun after _ => holds after := by
  refine kept.ends_attach ⟨fun _ => rfl, fun _ pattern mem => .inr ?_⟩ initially
  rcases patterns pattern mem with old | sourced
  · exact .inl (.inl ⟨record, isHeld, old⟩)
  · exact sourced

theorem ends_changeCall {name : String} {change : Clauses → Outcome Clauses}
    (named : Clauses.change? name arguments = some change) (initially : holds store) :
    Ends (changeCall index change) store holds fun after _ => holds after := by
  refine ends_query_bind initially fun record found => ends_ofOutcome_bind initially fun clauses done => ?_
  exact kept.ends_attachClauses (List.mem_of_getElem? found) (Clauses.sources_of_change named done) initially

theorem ends_subqueryCall (initially : holds store) :
    Ends (subqueryCall index arguments) store holds fun after _ => holds after := by
  refine ends_ofOutcome_bind initially fun _ _ => ends_ofOutcome_bind initially fun clauses selected => ?_
  have noPatterns : AreSourced store arguments clauses.allPatterns := by
    simp [AreSourced, Clauses.allPatterns_select selected]
  apply ends_addQuery_bind
  exact kept.ends_attach (sourcedChange_of_eq (fun _ => rfl) fun _ => rfl)
    (kept.queryAdded store { clauses } noPatterns initially)

/-- Either bound is set when it is read. -/
theorem ends_sliceCall (initially : holds store) :
    Ends (sliceCall index arguments) store holds fun after _ => holds after := by
  apply ends_ofOutcome_bind initially
  intro values _
  split
  · refine ends_query_bind initially fun record found => ends_ofOutcome_bind initially fun shifted isShifted => ?_
    have isHeld := List.mem_of_getElem? found
    have samePatterns := Clauses.allPatterns_of_bound (.inl isShifted)
    have first : Ends (changeClauses index fun _ => shifted) store holds fun after _ => holds after :=
      kept.ends_changeClauses (fun _ pattern mem => .inr (.inl (.inl ⟨record, isHeld, samePatterns ▸ mem⟩))) initially
    apply ends_bind first
    intro _ middle held
    apply ends_ofOutcome_bind held
    intro limited isLimited
    have alsoSame := (Clauses.allPatterns_of_bound (.inr isLimited)).trans samePatterns
    exact kept.ends_attachClauses isHeld (fun pattern mem => .inl (alsoSame ▸ mem)) held
  · exact ends_fault initially

/-- Declarations are added as they are read. -/
theorem ends_declareCall {value : Value} {named : List (String × Value)} (initially : holds store) :
    Ends (declareCall index value named) store holds fun after _ => holds after := by
  apply ends_ofOutcome_bind initially
  rintro ⟨written, entries⟩ _
  have added {text : String} {inner : Store} (held : holds inner) :
      Ends (changeClauses index (·.addDeclaration text)) inner holds fun after _ => holds after :=
    kept.ends_changeClauses (fun _ _ => .inl) held
  have first : Ends (written.forM fun text => changeClauses index (·.addDeclaration text)) store holds
      fun after _ => holds after := by
    cases written with
    | none => exact ends_pure initially
    | some text => exact added initially
  apply ends_bind first
  intro _ middle held
  refine ends_bind (ends_forM ?_ held) fun _ _ held => ends_pure held
  intro entry after held
  exact ends_ofOutcome_bind held fun text _ => added held

theorem ends_prologueCall (initially : holds store) :
    Ends (prologueCall index arguments) store holds fun after _ => holds after := by
  unfold prologueCall
  split
  · exact kept.ends_declareCall initially
  · exact kept.ends_declareCall initially
  · exact ends_fault initially

theorem ends_plainCall {name : String} {call : Session Reply}
    (named : plainCall? index name arguments = some call) (initially : holds store) :
    Ends call store holds fun after _ => holds after := by
  unfold plainCall? at named
  split at named
  case h_4 => cases named
  case h_5 =>
      rcases Option.map_eq_some_iff.mp named with ⟨made, isMade, rfl⟩
      exact ends_constructCall isMade initially fun record areSourced =>
        kept.queryAdded store record areSourced initially
  all_goals cases named
  case h_1 => exact kept.ends_subqueryCall initially
  case h_2 => exact kept.ends_sliceCall initially
  case h_3 => exact kept.ends_prologueCall initially

/-- Every call that neither has a block nor executes its query keeps what its steps keep. -/
theorem of_ordinaryCall {name : String} (noBlock : blockCall? index name arguments block = none)
    (noView : executingView? name = none) (initially : holds store) :
    Ends (queryCall index name arguments block) store holds fun after _ => holds after := by
  unfold queryCall
  rw [noBlock]
  simp only
  split
  · exact ends_withoutArguments initially (ends_readingCall noView ‹_› initially)
  · split
    · exact kept.ends_changeCall ‹_› initially
    · exact ends_fault initially
    · split
      · exact kept.ends_plainCall ‹_› initially
      · exact ends_fault initially
      · exact ends_fault initially

/-- A query that is executed keeps its text while it is sent, and its result. -/
theorem holds_executeBound {binding : Value} (initially : holds store)
    (exchanged : ∀ inner after : Store, holds inner → inner.Exchanged after → holds after) :
    holds (perform (executeBound binding index) store).2 := by
  rcases written : store.render index with failure | text
  · rw [perform_executeBound_unwritten written]
    exact initially
  rcases sent : perform (sendBound binding index) (store.withFrozen index (some text)) with ⟨failure | result, after⟩
  all_goals
    rcases exchanged_of_sendBound sent with ⟨between, isExchanged, rfl⟩
    have fixed : holds (between.withFrozen index (some text)) :=
      kept.queryChanged between index _ (sourcedChange_of_eq (fun _ => rfl) fun _ => rfl)
        (exchanged store between initially isExchanged) (.inl rfl)
  · rw [perform_executeBound_failed written sent]
    exact kept.queryChanged _ index _ (sourcedChange_of_eq (fun _ => rfl) fun _ => rfl) fixed (.inl rfl)
  · rw [perform_executeBound_ok written sent]
    exact kept.queryChanged _ index _ (sourcedChange_of_eq (fun _ => rfl) fun _ => rfl) fixed (.inl rfl)

theorem ends_execute (initially : holds store)
    (exchanged : ∀ inner after : Store, holds inner → inner.Exchanged after → holds after) :
    Ends (execute index) store holds fun after _ => holds after := by
  refine ends_query_bind initially fun record _ => ?_
  split
  · exact ends_pure initially
  · exact ends_refuse initially
  · exact ends_of_holds (kept.holds_executeBound initially exchanged)

end KeptBySteps

/-! ## Calls with a block -/

theorem KeptByBlock.ends_chosen {named : Value} {run : Block} (kept : KeptByBlock index arguments block store holds)
    (isChosen : blockOf block named = some run) (initially : holds inner)
    (sameRegisters : inner.registers = store.registers) (fresh : object = .query index ∨ store.Lacks object) :
    Ends (run object) inner holds fun after _ => holds after := by
  unfold blockOf at isChosen
  split at isChosen <;> cases isChosen
  · exact ends_of_holds (kept.blockRun inner run object rfl initially sameRegisters fresh)
  · exact ends_fault initially

/-- A call that hands an object to its block, if there is one, and then goes on. -/
theorem ends_handed {given : Option Block} {rest : Unit → Session α}
    (ran : ∀ run, given = some run → Ends (run object) inner holds fun after _ => holds after)
    (initially : holds inner) (ends : ∀ after, holds after → Ends (rest ()) after holds gives) :
    Ends (match given with
      | some run => run object >>= rest
      | none => rest ()) inner holds gives := by
  cases given with
  | none => exact ends inner initially
  | some run => exact ends_bind (ran run rfl) fun _ => ends

namespace KeptByBlock

variable (kept : KeptByBlock index arguments block store holds)
include kept

theorem ends_addPatterns {target : Nat} {values : List Value} (areGiven : values ⊆ arguments.positional)
    (initially : holds inner) (own : target = index ∨ store.queries.length ≤ target) :
    Ends (addPatterns target values) inner holds fun after _ =>
      holds after ∧ after.registers = inner.registers := by
  apply ends_ofOutcome_bind initially
  intro patterns read
  have areSourced : AreSourced store arguments patterns :=
    Store.sources_of_asPatterns (fun value mem => areGiven (List.mem_of_mem_filter mem)) read
  have sourced : SourcedChange store arguments fun record => { record with
      clauses := { record.clauses with patterns := record.clauses.patterns ++ patterns }
      subqueries := record.subqueries ++ values.filterMap queryIndex? } := by
    refine ⟨fun _ => rfl, fun record pattern mem => ?_⟩
    simp only [Clauses.allPatterns, List.mem_append] at mem ⊢
    rcases mem with ((own | new) | other) | other
    · exact .inl (.inl (.inl own))
    · exact .inr (areSourced pattern new)
    · exact .inl (.inl (.inr other))
    · exact .inl (.inr other)
  exact ends_modify ⟨kept.queryChanged inner target _ sourced initially own, rfl⟩

theorem ends_whereCall (initially : holds store) :
    Ends (whereCall index arguments block) store holds fun after _ => holds after := by
  apply ends_ofOutcome_bind initially
  intro named _
  apply ends_bind (kept.ends_addPatterns (List.Subset.refl _) initially (.inl rfl))
  rintro _ after ⟨held, sameRegisters⟩
  refine ends_handed ?_ held fun _ held => ends_pure held
  intro run isChosen
  exact kept.ends_chosen isChosen held sameRegisters (.inl rfl)

theorem ends_optionalCall (initially : holds store) :
    Ends (optionalCall index arguments block) store holds fun after _ => holds after := by
  apply ends_ofOutcome_bind initially
  intro named _
  apply ends_ofOutcome_bind initially
  intro patterns read
  have added := kept.groupAdded store { patterns } (Store.sources_of_asPatterns (fun _ => id) read) initially
  have isNew : store.Lacks (.group store.groups.length) := Nat.lt_irrefl _
  refine ends_handed ?_ added fun _ => kept.ends_attach (sourcedChange_of_eq (fun _ => rfl) fun _ => rfl)
  intro run isChosen
  exact kept.ends_chosen isChosen added rfl (.inr isNew)

theorem ends_branches {clause : BranchClause} {values : List Value} {named : Value}
    (areGiven : values ⊆ arguments.positional) (initially : holds store) :
    Ends (branches clause values (blockOf block named)) store holds fun after _ => holds after := by
  have noPatterns : AreSourced store arguments selectAll.clauses.allPatterns := by
    simp [AreSourced, selectAll, Clauses.allPatterns]
  have added := kept.queryAdded store selectAll noPatterns initially
  have isNew : store.Lacks (.query store.queries.length) := Nat.lt_irrefl _
  unfold branches
  split
  · next run isChosen =>
      apply ends_unless initially
      apply ends_addQuery_bind
      apply ends_bind (kept.ends_chosen isChosen added rfl (.inr isNew))
      exact fun _ _ held => ends_pure held
  · apply ends_unless initially
    split
    · exact ends_pure initially
    · apply ends_unless initially
      apply ends_addQuery_bind
      apply ends_bind (kept.ends_addPatterns areGiven added (.inr le_rfl))
      exact fun _ _ held => ends_pure held.1

theorem ends_unionCall (initially : holds store) :
    Ends (unionCall index arguments block) store holds fun after _ => holds after := by
  apply ends_ofOutcome_bind initially
  intro named _
  refine ends_bind (kept.ends_branches (List.Subset.refl _) initially) fun _ _ => ?_
  exact kept.ends_attach (sourcedChange_of_eq (fun _ => rfl) fun _ => rfl)

theorem ends_minusCall (initially : holds store) :
    Ends (minusCall index arguments block) store holds fun after _ => holds after := by
  apply ends_ofOutcome_bind initially
  intro named _
  refine ends_bind (kept.ends_branches (List.Subset.refl _) initially) fun _ _ => ?_
  exact kept.ends_attach (sourcedChange_of_eq (fun _ => rfl) fun _ => rfl)

theorem ends_serviceCall (initially : holds store) :
    Ends (serviceCall index arguments block) store holds fun after _ => holds after := by
  apply ends_ofOutcome_bind initially
  rintro ⟨endpoint, values, rest⟩ isEndpoint
  have areGiven : values ⊆ arguments.positional := by
    unfold endpointOf at isEndpoint
    split at isEndpoint
    · next positional _ =>
        cases isEndpoint
        exact fun value mem => positional ▸ List.mem_cons_of_mem _ mem
    · cases isEndpoint
      exact List.nil_subset _
    · cases isEndpoint
  apply ends_ofOutcome_bind initially
  intro named _
  split
  · apply ends_ofOutcome_bind initially
    intro resource _
    apply ends_bind (kept.ends_branches areGiven initially)
    intro added after held
    split
    · exact kept.ends_attach (sourcedChange_of_eq (fun _ => rfl) fun _ => rfl) held
    · exact ends_refuse held
  · exact ends_fault initially

/-- Every call that may have a block keeps what its steps keep. -/
theorem of_blockCall {name : String} {call : Session Reply} (initially : holds store)
    (named : blockCall? index name arguments block = some call) :
    Ends call store holds fun after _ => holds after := by
  unfold blockCall? at named
  split at named <;> cases named
  · exact kept.ends_whereCall initially
  · exact kept.ends_whereCall initially
  · exact kept.ends_optionalCall initially
  · exact kept.ends_unionCall initially
  · exact kept.ends_minusCall initially
  · exact kept.ends_serviceCall initially

/-- Every call on a query keeps what its steps keep, if an exchange keeps it too. -/
theorem of_queryCall {name : String} (initially : holds store)
    (exchanged : ∀ inner after : Store, holds inner → inner.Exchanged after → holds after) :
    Ends (queryCall index name arguments block) store holds fun after _ => holds after := by
  rcases isView : executingView? name with _ | view
  · rcases hasBlock : blockCall? index name arguments block with _ | call
    · exact kept.of_ordinaryCall hasBlock isView initially
    · unfold queryCall
      rw [hasBlock]
      exact kept.of_blockCall initially hasBlock
  · rw [queryCall_of_executingView isView]
    apply ends_withoutArguments initially
    exact ends_bind (kept.ends_execute initially exchanged) fun _ _ held => ends_pure held

end KeptByBlock

/-! ## Running the steps of a script -/

theorem ends_evaluateArguments {positional : List Expression} {named : List (String × Expression)} :
    Ends (evaluateArguments positional named) store (· = store) fun after _ => after = store :=
  ends_get_bind (ends_ofOutcome_bind rfl fun _ _ => ends_ofOutcome_bind rfl fun _ _ => ends_pure rfl)

/-- Arguments are built before anything changes. -/
theorem ends_evaluateArguments_bind {α : Type} {positional : List Expression}
    {named : List (String × Expression)} {rest : Arguments → Session α} {fails : Store → Prop}
    {gives : Store → α → Prop} (failed : fails store)
    (ends : ∀ arguments, perform (evaluateArguments positional named) store = (.ok arguments, store) →
      Ends (rest arguments) store fails gives) :
    Ends (evaluateArguments positional named >>= rest) store fails gives := by
  refine ends_bind (ends_evaluateArguments.with_performed.mono ?_ fun _ _ evaluated => evaluated) ?_
  · rintro _ rfl
    exact failed
  · rintro arguments _ ⟨performed, rfl⟩
    exact ends arguments performed

/-- What is called on is a query or an operation that is added, or what stands in a register. -/
theorem ends_receiverCall {receiver : Receiver} {method : String} (initially : holds store)
    (queryAdded : ∀ record, AreSourced store arguments record.clauses.allPatterns →
      holds { store with queries := store.queries ++ [record] })
    (operationAdded : ∀ operation, holds { store with operations := store.operations ++ [operation] })
    (onReply : ∀ name reply, receiver = .register name → store.register? name = some reply →
      Ends (replyCall reply method arguments block) store holds fun after _ => holds after) :
    Ends (receiverCall receiver method arguments block) store holds fun after _ => holds after := by
  cases receiver with
  | queries =>
      unfold receiverCall
      simp only
      split
      · exact ends_unless initially (ends_constructCall ‹_› initially queryAdded)
      · exact ends_fault initially
  | operations =>
      have made : Ends (do
          let operation ← ofOutcome (UpdateOperation.ofCall method arguments)
          return Reply.operation (← addOperation operation)) store holds fun after _ => holds after := by
        refine ends_ofOutcome_bind initially fun operation _ => ?_
        have added : Ends (addOperation operation) store holds fun after _ => holds after := operationAdded operation
        exact ends_bind added fun _ _ held => ends_pure held
      unfold receiverCall
      simp only
      split
      · exact initially
      · exact made
  | register name =>
      refine ends_get_bind ?_
      split
      · next reply found => exact onReply name reply rfl found
      · exact ends_fault initially

/-- A scripted call may store what it returns at its end. -/
theorem ends_runCall_of_receiverCall {receiver : Receiver} {method : String} {positional : List Expression}
    {named : List (String × Expression)} {block : Option (List Step)} {result : Option String}
    (initially : holds store)
    (stored : ∀ (inner : Store) (name : String) (reply : Reply), result = some name → holds inner →
      holds (inner.setRegister name reply))
    (called : ∀ arguments, perform (evaluateArguments positional named) store = (.ok arguments, store) →
      Ends (receiverCall receiver method arguments (runBlock block)) store holds fun after _ => holds after) :
    Ends (runCall (.call receiver method positional named block result)) store holds fun after _ => holds after := by
  refine ends_evaluateArguments_bind initially fun arguments evaluated => ends_bind (called arguments evaluated) ?_
  intro reply after held
  cases result with
  | none => exact ends_pure held
  | some name =>
      have last : Ends (modify (·.setRegister name reply)) after holds fun after _ => holds after :=
        ends_modify (stored after name reply rfl held)
      exact ends_bind last fun _ _ held => ends_pure held

/-- What does not depend on the registers is kept while a block is handed its object. -/
theorem ends_withBlockRegister {run : Session Unit}
    (anyRegisters : ∀ (inner : Store) (registers : List (String × Reply)), holds inner → holds { inner with registers })
    (ran : Ends run (store.setRegister blockRegister (replyOf object)) holds fun after _ => holds after) :
    Ends (withBlockRegister object run) store holds fun after _ => holds after := by
  have enter : Ends (modify (·.setRegister blockRegister (replyOf object))) store holds
      fun after _ => after = store.setRegister blockRegister (replyOf object) :=
    ends_modify rfl
  refine ends_get_bind (ends_bind enter ?_)
  rintro _ _ rfl
  refine ends_tryFinally ran fun after held => ?_
  cases store.register? blockRegister <;> exact anyRegisters after _ held

end Session

end Sparql
