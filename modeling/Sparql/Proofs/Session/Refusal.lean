import Sparql.Proofs.Session.Signature

/-!
# How builder calls are refused

A builder method that is called with the parameters it declares returns, or refuses an argument. A few shapes of
arguments are caught by no check; `Builder.Escapes` lists them all, method by method.

Both directions are shown for each method first. A call that fits its method reads its arguments one after the other,
and each step returns, blames what it is given or meets a listed shape. An escape is followed from the shape to the step
that it breaks, and what comes before that step succeeds.
-/

namespace Sparql

open Outcome Failure Session

/-! ## Constructors -/

variable {arguments : Arguments} {method : String}

theorem Arguments.single_of_bind {parameter : Parameter} {value : Value}
    (bound : arguments.bind [parameter] = .ok [value]) : arguments.single parameter = .ok value := by
  unfold Arguments.single
  rw [bound]
  rfl

namespace Session

open Builder

theorem construct_blamesOr {made : Outcome QueryRecord} (fits : Fits arguments .constructors method)
    (isMade : construct? method arguments = some made) :
    FailsOnly (BlamesOr arguments.given (Escapes arguments .constructors method)) made := by
  have positionalWithin : ∀ value ∈ arguments.positional, value.Within arguments.given :=
    fun _ => Arguments.within_of_positional
  cases fits with
  | @new form client bound =>
      cases isMade
      refine failsOnly_bind_of_eq_ok bound ?_
      have formWithin := Arguments.within_of_bind (by simp [Value.Within.null, Value.Within.text]) bound form (by simp)
      exact ((blames_formOf formWithin).bind fun _ => failsOnly_ok).orEscape
  | ask bound =>
      cases isMade
      refine failsOnly_bind_of_eq_ok (Arguments.single_of_bind bound) ?_
      exact failsOnly_ok
  | @select count client bound =>
      cases isMade
      refine failsOnly_bind_of_eq_ok bound ?_
      have countWithin := Arguments.within_of_options (by simp [Value.Within.null]) bound count (by simp)
      apply FailsOnly.bind
      · apply (Clauses.select_blamesOr positionalWithin countWithin).weaken
        rintro fault ⟨rfl, isNoMapping, names, areNames⟩
        exact .count bound areNames isNoMapping
      · intro clauses
        exact failsOnly_ok
  | made isMethod bound =>
      simp only [List.mem_cons, List.not_mem_nil, or_false] at isMethod
      rcases isMethod with rfl | rfl <;> cases isMade <;> refine failsOnly_bind_of_eq_ok bound ?_
      · exact ((Clauses.blames_describe positionalWithin).bind fun _ => failsOnly_ok).orEscape
      · exact ((Clauses.blames_construct positionalWithin).bind fun _ => failsOnly_ok).orEscape

theorem construct_of_escapes {made : Outcome QueryRecord} {fault : Fault}
    (escapes : Escapes arguments .constructors method fault) (isMade : construct? method arguments = some made) :
    made = misuse fault := by
  cases escapes with
  | count bound areNames isNoMapping =>
      cases isMade
      apply bind_eq_error_of_ok bound
      exact bind_eq_error.mpr (.inl (Clauses.select_of_noMapping isNoMapping areNames))

/-! ## Running a part of a session -/

variable {α β : Type} {allowed : Failure → Prop} {run : Session α} {rest : α → Session β} {store : Store}

theorem failsOnly_perform_bind (failsOnly : FailsOnly allowed (perform run store).1)
    (restFailsOnly : ∀ value after, perform run store = (.ok value, after) →
      FailsOnly allowed (perform (rest value) after).1) : FailsOnly allowed (perform (run >>= rest) store).1 := by
  rcases outcome : perform run store with ⟨failure | value, after⟩
  · rw [perform_bind_error outcome]
    rw [outcome] at failsOnly
    exact failsOnly_error (failsOnly failure rfl)
  · rw [perform_bind_ok outcome]
    exact restFailsOnly value after outcome

/-- A check of arguments leaves the store as it is. -/
theorem failsOnly_ofOutcome_bind {outcome : Outcome α} (failsOnly : FailsOnly allowed outcome)
    (restFailsOnly : ∀ value, outcome = .ok value → FailsOnly allowed (perform (rest value) store).1) :
    FailsOnly allowed (perform (ofOutcome outcome >>= rest) store).1 := by
  apply failsOnly_perform_bind
  · rw [perform_ofOutcome]
    exact failsOnly
  · intro value after done
    rw [perform_ofOutcome] at done
    cases done
    exact restFailsOnly value rfl

theorem perform_ofOutcome_bind_ok {outcome : Outcome α} {value : α} (done : outcome = .ok value) :
    perform (ofOutcome outcome >>= rest) store = perform (rest value) store := by
  rw [perform_bind, perform_ofOutcome, done]

theorem perform_ofOutcome_bind_error {outcome : Outcome α} {failure : Failure} (failed : outcome = .error failure) :
    (perform (ofOutcome outcome >>= rest) store).1 = .error failure := by
  rw [perform_bind, perform_ofOutcome, failed]

theorem perform_bind_of_failed {failure : Failure} (failed : (perform run store).1 = .error failure) :
    (perform (run >>= rest) store).1 = .error failure := by
  rcases outcome : perform run store with ⟨_, after⟩
  rw [outcome] at failed
  subst failed
  rw [perform_bind_error outcome]

/-- A refusal that shows nothing is thrown as it is. -/
theorem blames_session_refuse {cause : ConstructionError} {outer : Value} (silent : cause.shown? = none) :
    FailsOnly (Blames outer) (perform (Session.refuse cause : Session α) store).1 := by
  have refused : Failure.construction cause = .ofRefusal cause := by
    unfold ofRefusal
    rw [silent]
    rfl
  rw [perform_refuse, refused]
  apply failsOnly_error
  apply Blames.refusal
  intro value isShown
  cases silent.symm.trans isShown

/-! ## Parts of calls -/

variable {outer : Value} {index : Nat} {record : QueryRecord}

theorem failsOnly_changeQuery {change : QueryRecord → QueryRecord} :
    FailsOnly allowed (perform (changeQuery index change) store).1 := failsOnly_ok

theorem blames_addPatterns {values : List Value} (areWithin : ∀ value ∈ values, value.Within outer) :
    FailsOnly (Blames outer) (perform (addPatterns index values) store).1 := by
  unfold addPatterns
  apply failsOnly_ofOutcome_bind
  · exact Value.blames_asPatterns fun value mem => areWithin value (List.mem_of_mem_filter mem)
  · intro patterns _
    exact failsOnly_changeQuery

/-- What is given as a block, but is no block, cannot be called. -/
theorem blockOf_of_given {block : Value} (isGiven : block ≠ .null) :
    blockOf none block = some fun _ => fault .wrongKind := by
  cases block <;> first | rfl | exact absurd rfl isGiven

variable {block : Value}

/-- A call is misuse as soon as it comes to a block that is none. -/
theorem block_failsOnly {object : ObjectRef} {rest : Session Reply}
    (allows : block ≠ .null → allowed (.fault .wrongKind)) (restFailsOnly : FailsOnly allowed (perform rest store).1) :
    FailsOnly allowed (perform (match blockOf none block with
      | some block => block object >>= fun _ => rest
      | none => rest) store).1 := by
  by_cases isNull : block = .null
  · subst isNull
    exact restFailsOnly
  · rw [blockOf_of_given isNull]
    exact failsOnly_error (allows isNull)

theorem filter_notQuery {values : List Value} (noQueries : ∀ value ∈ values, value.isQuery = false) :
    values.filter (!·.isQuery) = values := by
  rw [List.filter_eq_self]
  intro value mem
  simp [noQueries value mem]

theorem whereCall_blamesOr (isMethod : method ∈ ["where", "whether", "optional"])
    (bound : arguments.options [blockParameter] = .ok [block])
    (noQueries : ∀ value ∈ arguments.positional, value.isQuery = false) :
    FailsOnly (BlamesOr arguments.given (Escapes arguments .query method))
      (perform (whereCall index arguments none) store).1 := by
  unfold whereCall Session.options addPatterns
  rw [perform_ofOutcome_bind_ok bound, filter_notQuery noQueries]
  simp only [List.headD_cons, bind_assoc]
  apply failsOnly_ofOutcome_bind
  · exact (Value.blames_asPatterns fun _ => Arguments.within_of_positional).orEscape
  intro patterns arePatterns
  refine failsOnly_perform_bind failsOnly_changeQuery fun _ after _ => ?_
  refine block_failsOnly (fun isGiven => ?_) failsOnly_ok
  exact .inr ⟨_, rfl, .block isMethod bound isGiven arePatterns⟩

theorem optionalCall_blamesOr (bound : arguments.options [blockParameter] = .ok [block]) :
    FailsOnly (BlamesOr arguments.given (Escapes arguments .query "optional"))
      (perform (optionalCall index arguments none) store).1 := by
  unfold optionalCall Session.options
  rw [perform_ofOutcome_bind_ok bound]
  simp only [List.headD_cons]
  apply failsOnly_ofOutcome_bind
  · exact (Value.blames_asPatterns fun _ => Arguments.within_of_positional).orEscape
  intro patterns arePatterns
  refine failsOnly_perform_bind failsOnly_ok fun group after _ => ?_
  refine block_failsOnly (fun isGiven => ?_) failsOnly_ok
  exact .inr ⟨_, rfl, .block (by simp) bound isGiven arePatterns⟩

/-- The branches of a clause are refused, unless something that is no block is given alone. -/
theorem branches_failsOnly {clause : BranchClause} {values : List Value}
    (areWithin : ∀ value ∈ values, value.Within outer)
    (blames : ∀ failure : Failure, failure.Blames outer → allowed failure)
    (allows : block ≠ .null → values = [] → allowed (.fault .wrongKind)) :
    FailsOnly allowed (perform (branches clause values (blockOf none block)) store).1 := by
  have refused {α : Type} {cause : ConstructionError} (silent : cause.shown? = none) (rest : Session α) :
      FailsOnly allowed (perform (Session.refuse cause >>= fun _ : Unit => rest) store).1 :=
    failsOnly_perform_bind ((blames_session_refuse silent).mono blames) (by rintro _ _ ⟨⟩)
  by_cases isNull : block = .null
  · subst isNull
    change FailsOnly allowed (perform (branches clause values none) store).1
    unfold branches
    simp only
    split
    · exact refused rfl _
    split
    · exact failsOnly_ok
    split
    · exact refused rfl _
    · refine failsOnly_perform_bind failsOnly_ok fun query after _ => ?_
      refine failsOnly_perform_bind ?_ fun _ after _ => failsOnly_ok
      exact (blames_addPatterns areWithin).mono blames
  · rw [blockOf_of_given isNull]
    unfold branches
    simp only
    split
    · exact refused rfl _
    · rename_i noValues
      refine failsOnly_perform_bind failsOnly_ok fun query after _ => failsOnly_error ?_
      exact allows isNull (by simpa using noValues)

theorem unionCall_blamesOr (bound : arguments.options [blockParameter] = .ok [block]) :
    FailsOnly (BlamesOr arguments.given (Escapes arguments .query "union"))
      (perform (unionCall index arguments none) store).1 := by
  unfold unionCall Session.options
  rw [perform_ofOutcome_bind_ok bound]
  refine failsOnly_perform_bind ?_ fun added after _ => failsOnly_ok
  refine branches_failsOnly (fun _ => Arguments.within_of_positional) (fun _ => .inl) fun isGiven noValues => ?_
  exact .inr ⟨_, rfl, .branchBlock (by simp) bound isGiven noValues⟩

theorem minusCall_blamesOr (bound : arguments.options [blockParameter] = .ok [block]) :
    FailsOnly (BlamesOr arguments.given (Escapes arguments .query "minus"))
      (perform (minusCall index arguments none) store).1 := by
  unfold minusCall Session.options
  rw [perform_ofOutcome_bind_ok bound]
  refine failsOnly_perform_bind ?_ fun added after _ => failsOnly_ok
  refine branches_failsOnly (fun _ => Arguments.within_of_positional) (fun _ => .inl) fun isGiven noValues => ?_
  exact .inr ⟨_, rfl, .branchBlock (by simp) bound isGiven noValues⟩

theorem within_of_endpoint {endpoint : Value} {values : List Value} {rest : Arguments}
    (hasEndpoint : endpointOf arguments = .ok (endpoint, values, rest)) :
    endpoint.Within arguments.given ∧ ∀ value ∈ values, value.Within arguments.given := by
  unfold endpointOf at hasEndpoint
  split at hasEndpoint
  · rename_i positional _
    cases hasEndpoint
    constructor
    · exact Arguments.within_of_positional (by simp [positional])
    · intro value mem
      exact Arguments.within_of_positional (by simp [positional, mem])
  · rename_i isNamed
    cases hasEndpoint
    rcases Arguments.mem_of_named? isNamed with ⟨name, mem⟩
    exact ⟨Arguments.within_of_named mem, by simp⟩
  · cases hasEndpoint

theorem serviceCall_blamesOr {endpoint silent : Value} {values : List Value} {rest : Arguments}
    (hasEndpoint : endpointOf arguments = .ok (endpoint, values, rest))
    (bound : rest.options [⟨"silent", some (.bool false)⟩, blockParameter] = .ok [silent, block]) :
    FailsOnly (BlamesOr arguments.given (Escapes arguments .query "service"))
      (perform (serviceCall index arguments none) store).1 := by
  have within := within_of_endpoint hasEndpoint
  unfold serviceCall Session.options
  rw [perform_ofOutcome_bind_ok hasEndpoint, perform_ofOutcome_bind_ok bound]
  apply failsOnly_ofOutcome_bind
  · exact (Value.blames_asResource within.1).orEscape
  intro site isSite
  refine failsOnly_perform_bind ?_ fun added after _ => ?_
  · refine branches_failsOnly within.2 (fun _ => .inl) fun isGiven noValues => ?_
    subst noValues
    exact .inr ⟨_, rfl, .serviceBlock hasEndpoint bound isSite isGiven⟩
  · split
    · exact failsOnly_ok
    · exact (blames_session_refuse rfl).orEscape

theorem subqueryCall_blamesOr {count : Value} (bound : arguments.options [⟨"count", some .null⟩] = .ok [count]) :
    FailsOnly (BlamesOr arguments.given (Escapes arguments .query "with_subquery"))
      (perform (subqueryCall index arguments) store).1 := by
  have countWithin := Arguments.within_of_options (by simp [Value.Within.null]) bound count (by simp)
  unfold subqueryCall Session.options
  rw [perform_ofOutcome_bind_ok bound]
  apply failsOnly_ofOutcome_bind
  · apply (Clauses.select_blamesOr (fun _ => Arguments.within_of_positional) countWithin).weaken
    rintro fault ⟨rfl, isNoMapping, names, areNames⟩
    exact .subqueryCount bound areNames isNoMapping
  · intro clauses _
    exact failsOnly_ok

/-! ## Calls that change clauses -/

theorem queryCall_of_change {change : Clauses → Outcome Clauses}
    (isChange : Clauses.change? method arguments = some change) :
    queryCall index method arguments none = changeCall index change := by
  unfold Clauses.change? at isChange
  split at isChange <;> cases isChange <;> rfl

theorem queryCall_failsOnly {change : Clauses → Outcome Clauses} (found : store.queries[index]? = some record)
    (isChange : Clauses.change? method arguments = some change)
    (failsOnly : ∀ clauses, FailsOnly allowed (change clauses)) :
    FailsOnly allowed (perform (queryCall index method arguments none) store).1 := by
  rw [queryCall_of_change isChange, changeCall, perform_bind_ok (perform_query_of_some found)]
  apply failsOnly_ofOutcome_bind (failsOnly record.clauses)
  intro clauses _
  exact failsOnly_ok

theorem setOffset_blamesOr {start : Value} {clauses : Clauses} (isWithin : start.Within outer) :
    FailsOnly (BlamesOr outer (BoundEscapes "OFFSET" start)) (clauses.setOffset start) := by
  unfold Clauses.setOffset
  split
  · exact failsOnly_ok
  · exact (boundOf_blamesOr isWithin).map

theorem setLimit_blamesOr {length : Value} {clauses : Clauses} (isWithin : length.Within outer) :
    FailsOnly (BlamesOr outer (BoundEscapes "LIMIT" length)) (clauses.setLimit length) := by
  unfold Clauses.setLimit
  split
  · exact failsOnly_ok
  · exact (boundOf_blamesOr isWithin).map

theorem boundTaken_of_setOffset {start : Value} {clauses shifted : Clauses}
    (done : clauses.setOffset start = .ok shifted) : start = .null ∨ ∃ offset, boundOf "OFFSET" start = .ok offset := by
  unfold Clauses.setOffset at done
  split at done
  · exact .inl rfl
  · rcases map_eq_ok.mp done with ⟨offset, isOffset, _⟩
    exact .inr ⟨offset, isOffset⟩

theorem sliceCall_blamesOr {start length : Value} (found : store.queries[index]? = some record)
    (bound : arguments.bind [⟨"start", none⟩, ⟨"length", none⟩] = .ok [start, length]) :
    FailsOnly (BlamesOr arguments.given (Escapes arguments .query "slice"))
      (perform (sliceCall index arguments) store).1 := by
  have within := Arguments.within_of_bind (by simp) bound
  unfold sliceCall
  rw [perform_ofOutcome_bind_ok bound, perform_bind_ok (perform_query_of_some found)]
  apply failsOnly_ofOutcome_bind
  · apply (setOffset_blamesOr (within start (by simp))).weaken
    intro fault escapes
    exact .sliceStart bound escapes
  intro shifted isShifted
  refine failsOnly_perform_bind failsOnly_changeQuery fun _ after _ => ?_
  apply failsOnly_ofOutcome_bind
  · apply (setLimit_blamesOr (within length (by simp))).weaken
    intro fault escapes
    exact .sliceLength bound (boundTaken_of_setOffset isShifted) escapes
  · intro limited _
    exact failsOnly_ok

theorem setOffset_of_taken {start : Value} (startTaken : start = .null ∨ ∃ offset, boundOf "OFFSET" start = .ok offset)
    (clauses : Clauses) : ∃ shifted, clauses.setOffset start = .ok shifted := by
  unfold Clauses.setOffset
  split
  · exact ⟨clauses, rfl⟩
  · rename_i notNull
    rcases startTaken with isNull | ⟨offset, isOffset⟩
    · exact absurd isNull notNull
    · exact ⟨_, map_eq_ok.mpr ⟨offset, isOffset, rfl⟩⟩

/-! ## Declarations -/

theorem failsOnly_forM {items : List α} {each : α → Session Unit}
    (failsOnly : ∀ item ∈ items, ∀ store, FailsOnly allowed (perform (each item) store).1) :
    FailsOnly allowed (perform (items.forM each) store).1 := by
  induction items generalizing store with
  | nil => exact failsOnly_ok
  | cons item rest ih =>
      refine failsOnly_perform_bind (failsOnly item (.head _) store) fun _ after _ => ?_
      exact ih fun other mem => failsOnly other (.tail _ mem)

theorem blames_declareCall {value : Value} {named : List (String × Value)} (isWithin : value.Within outer)
    (namedWithin : ∀ name value, (name, value) ∈ named → value.Within outer) :
    FailsOnly (Blames outer) (perform (declareCall index value named) store).1 := by
  unfold declareCall
  apply failsOnly_ofOutcome_bind (blames_declaredBy isWithin)
  rintro ⟨written, entries⟩ declared
  have areWithin := within_of_declaredBy isWithin namedWithin declared
  refine failsOnly_perform_bind ?_ fun _ after _ => ?_
  · cases written with
    | none => exact failsOnly_ok
    | some text => exact failsOnly_ok
  refine failsOnly_perform_bind ?_ fun _ after _ => failsOnly_ok
  apply failsOnly_forM
  intro entry mem store
  apply failsOnly_ofOutcome_bind
  · exact blames_declaration (areWithin entry mem).1 (areWithin entry mem).2
  · intro text _
    exact failsOnly_ok

theorem blames_prologueCall (atMostOne : arguments.positional.length ≤ 1) :
    FailsOnly (Blames arguments.given) (perform (prologueCall index arguments) store).1 := by
  unfold prologueCall
  split
  · exact blames_declareCall .null fun _ _ => Arguments.within_of_named
  · rename_i value isPositional
    refine blames_declareCall ?_ fun _ _ => Arguments.within_of_named
    exact Arguments.within_of_positional (by simp [isPositional])
  · rename_i notNone notOne
    match positions : arguments.positional with
    | [] => exact absurd positions notNone
    | [value] => exact absurd positions (notOne value)
    | _ :: _ :: _ => simp [positions] at atMostOne

/-! ## Any builder call -/

theorem Clauses.blames_setValues {clauses : Clauses} {named : Value} {data : List Value}
    (namedWithin : named.Within outer) (dataWithin : ∀ value ∈ data, value.Within outer) :
    FailsOnly (Blames outer) (clauses.setValues named data) :=
  (blames_valuesBlock namedWithin dataWithin).bind fun _ => failsOnly_ok

theorem within_of_firstAndRest {name : String} {first : Value} {rest : List Value}
    (bound : arguments.firstAndRest name = .ok (first, rest)) :
    first.Within arguments.given ∧ ∀ value ∈ rest, value.Within arguments.given := by
  unfold Arguments.firstAndRest at bound
  split at bound
  · rename_i positional _
    cases bound
    constructor
    · exact Arguments.within_of_positional (by simp [positional])
    · intro value mem
      exact Arguments.within_of_positional (by simp [positional, mem])
  · rename_i isNamed
    split at bound <;> cases bound
    exact ⟨Arguments.within_of_named (by rw [isNamed]; exact .head _), by simp⟩
  · cases bound

/-- A change of clauses that is given what it declares is made, blames an argument or escapes in one of the listed
ways. -/
theorem Clauses.change_blamesOr {change : Clauses → Outcome Clauses} (fits : Fits arguments .query method)
    (isChange : Clauses.change? method arguments = some change) (clauses : Clauses) :
    FailsOnly (BlamesOr arguments.given (Escapes arguments .query method)) (change clauses) := by
  have positionalWithin : ∀ value ∈ arguments.positional, value.Within arguments.given :=
    fun _ => Arguments.within_of_positional
  cases fits with
  -- These calls change more than the clauses of one query, so no change of clauses has their names.
  | subquery | service | declarations | slice => cases isChange
  | blocked isMethod =>
      simp only [List.mem_cons, List.not_mem_nil, or_false] at isMethod
      rcases isMethod with rfl | rfl | rfl | rfl | rfl <;> cases isChange
  | tagged bound =>
      cases isChange
      refine failsOnly_bind_of_eq_ok bound ?_
      apply FailsOnly.bind
      · apply (bindUnionOf_blamesOr positionalWithin).weaken
        rintro fault ⟨rfl, escapes⟩
        exact .tagged bound escapes
      · intro union
        exact failsOnly_ok
  | values bound =>
      cases isChange
      have within := within_of_firstAndRest bound
      refine failsOnly_bind_of_eq_ok bound ?_
      exact (Clauses.blames_setValues within.1 within.2).orEscape
  | positions isMethod bound =>
      simp only [List.mem_cons, List.not_mem_nil, or_false] at isMethod
      rcases isMethod with rfl | rfl | rfl | rfl | rfl
      all_goals
        cases isChange
        refine failsOnly_bind_of_eq_ok bound (FailsOnly.orEscape ?_)
      · exact (blames_conditions positionalWithin).bind fun _ => failsOnly_ok
      · exact (blames_conditions positionalWithin).bind fun _ => failsOnly_ok
      · exact (blames_conditions positionalWithin).bind fun _ => failsOnly_ok
      · exact (blames_conditions positionalWithin).bind fun _ => failsOnly_ok
      · apply blames_guard rfl
        exact (Value.blames_mapM positionalWithin fun _ => Value.blames_asIri).bind fun _ => failsOnly_ok
  | @filter expression bound =>
      cases isChange
      have within := Arguments.within_of_bind (by simp) bound expression (by simp)
      refine failsOnly_bind_of_eq_ok (Arguments.single_of_bind bound) ?_
      exact ((blames_filterExpression within).bind fun _ => failsOnly_ok).orEscape
  | @directed _ value isMethod bound =>
      have within := Arguments.within_of_bind (by simp) bound value (by simp)
      simp only [List.mem_cons, List.not_mem_nil, or_false] at isMethod
      rcases isMethod with rfl | rfl
      all_goals
        cases isChange
        refine failsOnly_bind_of_eq_ok (Arguments.single_of_bind bound) ?_
        exact ((Value.blames_asVariable within).bind fun _ => failsOnly_ok).orEscape
  | flag isMethod bound =>
      simp only [List.mem_cons, List.not_mem_nil, or_false] at isMethod
      rcases isMethod with rfl | rfl
      all_goals
        cases isChange
        apply FailsOnly.map
        apply FailsOnly.map
        rw [Arguments.single_of_bind bound]
        exact failsOnly_ok
  | @graph value bound =>
      cases isChange
      have within := Arguments.within_of_bind (by simp) bound value (by simp)
      refine failsOnly_bind_of_eq_ok (Arguments.single_of_bind bound) ?_
      exact ((Value.blames_asResource within).bind fun _ => failsOnly_ok).orEscape
  | @offset start bound =>
      cases isChange
      refine failsOnly_bind_of_eq_ok (Arguments.single_of_bind bound) ?_
      apply (setOffset_blamesOr (Arguments.within_of_bind (by simp) bound start (by simp))).weaken
      intro fault escapes
      exact .offset bound escapes
  | @limit length bound =>
      cases isChange
      refine failsOnly_bind_of_eq_ok (Arguments.single_of_bind bound) ?_
      apply (setLimit_blamesOr (Arguments.within_of_bind (by simp) bound length (by simp))).weaken
      intro fault escapes
      exact .limit bound escapes

/-- A call on a query that declares its arguments returns, blames an argument or escapes in one of the listed ways. -/
theorem queryCall_blamesOr (fits : Fits arguments .query method) (found : store.queries[index]? = some record)
    (noQueries : ∀ value ∈ arguments.positional, value.isQuery = false) :
    FailsOnly (BlamesOr arguments.given (Escapes arguments .query method))
      (perform (queryCall index method arguments none) store).1 := by
  cases isChange : Clauses.change? method arguments with
  | some change => exact queryCall_failsOnly found isChange (Clauses.change_blamesOr fits isChange)
  | none =>
      -- What is left changes more than the clauses of its query.
      cases fits with
      | blocked isMethod bound =>
          simp only [List.mem_cons, List.not_mem_nil, or_false] at isMethod
          rcases isMethod with rfl | rfl | rfl | rfl | rfl
          · exact whereCall_blamesOr (by simp) bound noQueries
          · exact whereCall_blamesOr (by simp) bound noQueries
          · exact optionalCall_blamesOr bound
          · exact unionCall_blamesOr bound
          · exact minusCall_blamesOr bound
      | subquery bound => exact subqueryCall_blamesOr bound
      | service hasEndpoint bound => exact serviceCall_blamesOr hasEndpoint bound
      | declarations atMostOne => exact (blames_prologueCall atMostOne).orEscape
      | slice bound => exact sliceCall_blamesOr found bound
      | positions isMethod =>
          simp only [List.mem_cons, List.not_mem_nil, or_false] at isMethod
          rcases isMethod with rfl | rfl | rfl | rfl | rfl <;> cases isChange
      | directed isMethod | flag isMethod =>
          simp only [List.mem_cons, List.not_mem_nil, or_false] at isMethod
          rcases isMethod with rfl | rfl <;> cases isChange
      | _ => cases isChange

/-- A call on an optional part that declares its arguments returns or blames an argument. -/
theorem groupCall_blamesOr {group : OptionalGroup} (fits : Fits arguments .group method)
    (found : store.groups[index]? = some group) :
    FailsOnly (BlamesOr arguments.given (Escapes arguments .group method))
      (perform (groupCall index method arguments none) store).1 := by
  have changed {change : OptionalGroup → Outcome OptionalGroup}
      (isChange : OptionalGroup.change? method arguments = some change)
      (blames : FailsOnly (Blames arguments.given) (change group)) :
      FailsOnly (BlamesOr arguments.given (Escapes arguments .group method))
        (perform (groupCall index method arguments none) store).1 := by
    unfold groupCall
    rw [perform_bind_ok (perform_get store), found, isChange]
    exact failsOnly_ofOutcome_bind blames.orEscape fun _ _ => failsOnly_ok
  cases fits with
  | groupWhere bound =>
      refine changed rfl (failsOnly_bind_of_eq_ok bound ?_)
      exact (Value.blames_asPatterns fun _ => Arguments.within_of_positional).bind fun _ => failsOnly_ok
  | @groupFilter expression bound =>
      have within := Arguments.within_of_bind (by simp) bound expression (by simp)
      refine changed rfl (failsOnly_bind_of_eq_ok (Arguments.single_of_bind bound) ?_)
      exact (blames_filterExpression within).bind fun _ => failsOnly_ok

theorem operation_blamesOr (fits : Fits arguments .operations method) :
    FailsOnly (BlamesOr arguments.given (Escapes arguments .operations method))
      (UpdateOperation.ofCall method arguments) := by
  cases fits with
  | operation fits =>
      apply UpdateOperation.ofCall_blamesOr.weaken
      rintro fault (notFits | ⟨rfl, areParameters, bound, escapes⟩)
      · exact absurd fits notFits
      · exact .template areParameters bound escapes

/-! ## Calls that escape -/

variable {fault : Fault}

theorem queryCall_of_failedChange {change : Clauses → Outcome Clauses} {failure : Failure}
    (found : store.queries[index]? = some record) (isChange : Clauses.change? method arguments = some change)
    (failed : change record.clauses = .error failure) :
    (perform (queryCall index method arguments none) store).1 = .error failure := by
  rw [queryCall_of_change isChange, changeCall, perform_bind_ok (perform_query_of_some found)]
  exact perform_ofOutcome_bind_error failed

theorem setOffset_of_escapes {start : Value} {clauses : Clauses} (escapes : BoundEscapes "OFFSET" start fault) :
    clauses.setOffset start = misuse fault := by
  unfold Clauses.setOffset
  split
  · exact absurd rfl escapes.ne_null
  · rw [boundOf_of_escapes escapes]
    rfl

theorem setLimit_of_escapes {length : Value} {clauses : Clauses} (escapes : BoundEscapes "LIMIT" length fault) :
    clauses.setLimit length = misuse fault := by
  unfold Clauses.setLimit
  split
  · exact absurd rfl escapes.ne_null
  · rw [boundOf_of_escapes escapes]
    rfl

theorem branches_of_given {clause : BranchClause} (isGiven : block ≠ .null) :
    (perform (branches clause [] (blockOf none block)) store).1 = misuse .wrongKind := by
  rw [blockOf_of_given isGiven]
  rfl

theorem whereCall_of_given {patterns : List Pattern} (bound : arguments.options [blockParameter] = .ok [block])
    (isGiven : block ≠ .null) (noQueries : ∀ value ∈ arguments.positional, value.isQuery = false)
    (arePatterns : Value.asPatterns arguments.positional = .ok patterns) :
    (perform (whereCall index arguments none) store).1 = misuse .wrongKind := by
  unfold whereCall Session.options addPatterns
  rw [perform_ofOutcome_bind_ok bound, filter_notQuery noQueries, bind_assoc, perform_ofOutcome_bind_ok arePatterns]
  simp only [List.headD_cons, blockOf_of_given isGiven]
  rfl

theorem optionalCall_of_given {patterns : List Pattern} (bound : arguments.options [blockParameter] = .ok [block])
    (isGiven : block ≠ .null) (arePatterns : Value.asPatterns arguments.positional = .ok patterns) :
    (perform (optionalCall index arguments none) store).1 = misuse .wrongKind := by
  unfold optionalCall Session.options
  rw [perform_ofOutcome_bind_ok bound, perform_ofOutcome_bind_ok arePatterns]
  simp only [List.headD_cons, blockOf_of_given isGiven]
  rfl

theorem serviceCall_of_given {endpoint silent : Value} {rest : Arguments} {site : Term}
    (hasEndpoint : endpointOf arguments = .ok (endpoint, [], rest))
    (bound : rest.options [⟨"silent", some (.bool false)⟩, blockParameter] = .ok [silent, block])
    (isSite : endpoint.asResource = .ok site) (isGiven : block ≠ .null) :
    (perform (serviceCall index arguments none) store).1 = misuse .wrongKind := by
  unfold serviceCall Session.options
  rw [perform_ofOutcome_bind_ok hasEndpoint, perform_ofOutcome_bind_ok bound, perform_ofOutcome_bind_ok isSite]
  exact perform_bind_of_failed (branches_of_given isGiven)

theorem unionCall_of_given (bound : arguments.options [blockParameter] = .ok [block]) (isGiven : block ≠ .null)
    (noValues : arguments.positional = []) :
    (perform (unionCall index arguments none) store).1 = misuse .wrongKind := by
  unfold unionCall Session.options
  rw [perform_ofOutcome_bind_ok bound, noValues]
  exact perform_bind_of_failed (branches_of_given isGiven)

theorem minusCall_of_given (bound : arguments.options [blockParameter] = .ok [block]) (isGiven : block ≠ .null)
    (noValues : arguments.positional = []) :
    (perform (minusCall index arguments none) store).1 = misuse .wrongKind := by
  unfold minusCall Session.options
  rw [perform_ofOutcome_bind_ok bound, noValues]
  exact perform_bind_of_failed (branches_of_given isGiven)

theorem subqueryCall_of_noMapping {count : Value} {names : List String}
    (bound : arguments.options [⟨"count", some .null⟩] = .ok [count])
    (areNames : arguments.positional.mapM Value.asVariable = .ok names) (isNoMapping : IsNoMapping count) :
    (perform (subqueryCall index arguments) store).1 = misuse .noSuchOperation := by
  unfold subqueryCall Session.options
  rw [perform_ofOutcome_bind_ok bound]
  exact perform_ofOutcome_bind_error (Clauses.select_of_noMapping isNoMapping areNames)

theorem sliceCall_of_start {start length : Value}
    (bound : arguments.bind [⟨"start", none⟩, ⟨"length", none⟩] = .ok [start, length])
    (escapes : BoundEscapes "OFFSET" start fault) (found : store.queries[index]? = some record) :
    (perform (sliceCall index arguments) store).1 = misuse fault := by
  unfold sliceCall
  rw [perform_ofOutcome_bind_ok bound, perform_bind_ok (perform_query_of_some found)]
  exact perform_ofOutcome_bind_error (setOffset_of_escapes escapes)

theorem sliceCall_of_length {start length : Value}
    (bound : arguments.bind [⟨"start", none⟩, ⟨"length", none⟩] = .ok [start, length])
    (startTaken : start = .null ∨ ∃ offset, boundOf "OFFSET" start = .ok offset)
    (escapes : BoundEscapes "LIMIT" length fault) (found : store.queries[index]? = some record) :
    (perform (sliceCall index arguments) store).1 = misuse fault := by
  rcases setOffset_of_taken startTaken record.clauses with ⟨shifted, isShifted⟩
  unfold sliceCall
  rw [perform_ofOutcome_bind_ok bound, perform_bind_ok (perform_query_of_some found),
    perform_ofOutcome_bind_ok isShifted]
  exact perform_ofOutcome_bind_error (setLimit_of_escapes escapes)

/-- A call on a query whose arguments escape is misuse. -/
theorem queryCall_of_escapes (escapes : Escapes arguments .query method fault)
    (found : store.queries[index]? = some record)
    (noQueries : ∀ value ∈ arguments.positional, value.isQuery = false) :
    (perform (queryCall index method arguments none) store).1 = misuse fault := by
  cases escapes with
  | subqueryCount bound areNames isNoMapping => exact subqueryCall_of_noMapping bound areNames isNoMapping
  | block isMethod bound isGiven arePatterns =>
      simp only [List.mem_cons, List.not_mem_nil, or_false] at isMethod
      rcases isMethod with rfl | rfl | rfl
      · exact whereCall_of_given bound isGiven noQueries arePatterns
      · exact whereCall_of_given bound isGiven noQueries arePatterns
      · exact optionalCall_of_given bound isGiven arePatterns
  | branchBlock isMethod bound isGiven noValues =>
      simp only [List.mem_cons, List.not_mem_nil, or_false] at isMethod
      rcases isMethod with rfl | rfl
      · exact unionCall_of_given bound isGiven noValues
      · exact minusCall_of_given bound isGiven noValues
  | serviceBlock hasEndpoint bound isSite isGiven => exact serviceCall_of_given hasEndpoint bound isSite isGiven
  | tagged bound escapes =>
      refine queryCall_of_failedChange found rfl ?_
      apply bind_eq_error_of_ok bound
      exact bind_eq_error.mpr (.inl (bindUnionOf_of_escapes escapes))
  | offset bound escapes =>
      refine queryCall_of_failedChange found rfl ?_
      apply bind_eq_error_of_ok (Arguments.single_of_bind bound)
      exact setOffset_of_escapes escapes
  | limit bound escapes =>
      refine queryCall_of_failedChange found rfl ?_
      apply bind_eq_error_of_ok (Arguments.single_of_bind bound)
      exact setLimit_of_escapes escapes
  | sliceStart bound escapes => exact sliceCall_of_start bound escapes found
  | sliceLength bound startTaken escapes => exact sliceCall_of_length bound startTaken escapes found

/-! ## All builder calls -/

/-- What the methods under a heading are called on. -/
inductive IsReceiver (store : Store) : Builder → Receiver → Prop
  | constructors : IsReceiver store .constructors .queries
  | operations : IsReceiver store .operations .operations
  | query {name : String} {index : Nat} {record : QueryRecord} (isQuery : store.register? name = some (.query index))
      (found : store.queries[index]? = some record) : IsReceiver store .query (.register name)
  | group {name : String} {index : Nat} {group : OptionalGroup} (isGroup : store.register? name = some (.group index))
      (found : store.groups[index]? = some group) : IsReceiver store .group (.register name)

variable {builder : Builder} {receiver : Receiver}

theorem isQuery_of_data (data : arguments.given.IsData) : ∀ value ∈ arguments.positional, value.isQuery = false := by
  intro value mem
  have notShared := (Arguments.within_of_positional mem).data data value .here
  cases value with
  | object => cases notShared
  | _ => rfl

theorem receiverCall_of_register {name : String} {reply : Reply} (isReply : store.register? name = some reply) :
    perform (receiverCall (.register name) method arguments none) store =
      perform (replyCall reply method arguments none) store := by
  unfold receiverCall
  rw [perform_bind_ok (perform_get store), isReply]

theorem receiverCall_of_construct {made : Outcome QueryRecord} (isMade : construct? method arguments = some made) :
    perform (receiverCall .queries method arguments none) store = perform (constructCall made) store := by
  unfold receiverCall
  rw [isMade]
  rfl

theorem receiverCall_operations :
    perform (receiverCall .operations method arguments none) store =
      perform (do
        let operation ← ofOutcome (UpdateOperation.ofCall method arguments)
        return .operation (← addOperation operation)) store := rfl

theorem construct?_of_fits (fits : Fits arguments .constructors method) :
    ∃ made, construct? method arguments = some made := by
  cases fits with
  | made isMethod =>
      simp only [List.mem_cons, List.not_mem_nil, or_false] at isMethod
      rcases isMethod with rfl | rfl <;> exact ⟨_, rfl⟩
  | _ => exact ⟨_, rfl⟩

theorem receiverCall_blamesOr (isReceiver : IsReceiver store builder receiver)
    (fits : Fits arguments builder method) (data : arguments.given.IsData) :
    FailsOnly (BlamesOr arguments.given (Escapes arguments builder method))
      (perform (receiverCall receiver method arguments none) store).1 := by
  cases isReceiver with
  | constructors =>
      rcases construct?_of_fits fits with ⟨made, isMade⟩
      rw [receiverCall_of_construct isMade]
      exact failsOnly_ofOutcome_bind (construct_blamesOr fits isMade) fun _ _ => failsOnly_ok
  | operations =>
      rw [receiverCall_operations]
      exact failsOnly_ofOutcome_bind (operation_blamesOr fits) fun _ _ => failsOnly_ok
  | query isQuery found =>
      rw [receiverCall_of_register isQuery]
      exact queryCall_blamesOr fits found (isQuery_of_data data)
  | group isGroup found =>
      rw [receiverCall_of_register isGroup]
      exact groupCall_blamesOr fits found

theorem receiverCall_of_escapes (isReceiver : IsReceiver store builder receiver)
    (fits : Fits arguments builder method) (data : arguments.given.IsData)
    (escapes : Escapes arguments builder method fault) :
    (perform (receiverCall receiver method arguments none) store).1 = misuse fault := by
  cases isReceiver with
  | constructors =>
      rcases construct?_of_fits fits with ⟨made, isMade⟩
      rw [receiverCall_of_construct isMade]
      exact perform_ofOutcome_bind_error (construct_of_escapes escapes isMade)
  | operations =>
      rw [receiverCall_operations]
      cases escapes with
      | template areParameters bound escapes =>
          exact perform_ofOutcome_bind_error (UpdateOperation.ofCall_of_template areParameters bound escapes)
  | query isQuery found =>
      rw [receiverCall_of_register isQuery]
      exact queryCall_of_escapes escapes found (isQuery_of_data data)
  | group => cases escapes

/-- A builder method that is called on data, with the parameters it declares, returns or refuses an argument, unless
a number in the arguments has too many digits to be written or the arguments are among those that no check catches.
Those are misuse, always. -/
theorem builderCall_fails (isReceiver : IsReceiver store builder receiver) (fits : Fits arguments builder method)
    (data : arguments.given.IsData) :
    (∀ failure, (perform (receiverCall receiver method arguments none) store).1 = .error failure →
      failure.IsRefusal arguments.given ∨ ∃ fault, failure = .fault fault ∧ Escapes arguments builder method fault) ∧
      ∀ fault, Escapes arguments builder method fault →
        (perform (receiverCall receiver method arguments none) store).1 = misuse fault := by
  constructor
  · intro failure failed
    rcases receiverCall_blamesOr isReceiver fits data failure failed with blames | escapes
    · exact .inl (blames.isRefusal data)
    · exact .inr escapes
  · intro fault escapes
    exact receiverCall_of_escapes isReceiver fits data escapes

theorem isData_of_single {value : Value} (isScalar : value.contents = []) (notShared : value.isShared = false) :
    (Arguments.given ⟨[value], []⟩).IsData := by
  intro part isPart
  cases isPart with
  | here => rfl
  | inside mem isPart =>
      cases List.mem_singleton.mp mem
      cases isPart with
      | here => exact notShared
      | inside mem _ =>
          rw [isScalar] at mem
          cases mem

/-- A template that is a number is not refused. -/
theorem builderCall_fails_numberTemplate :
    Fits ⟨[.int 5], []⟩ .operations "DeleteInsert" ∧ (Arguments.given ⟨[.int 5], []⟩).IsData ∧
      (perform (receiverCall .operations "DeleteInsert" ⟨[.int 5], []⟩ none) {}).1 = misuse .wrongKind := by
  have fits : Fits ⟨[.int 5], []⟩ .operations "DeleteInsert" := .operation ⟨_, _, rfl, rfl⟩
  have data : (Arguments.given ⟨[.int 5], []⟩).IsData := isData_of_single rfl rfl
  exact ⟨fits, data, (builderCall_fails .operations fits data).2 _ (.template rfl rfl (.delete rfl))⟩

/-- An infinite number of solutions to pass over is not refused. -/
theorem offset_of_infinity :
    Fits ⟨[.float (.infinite false)], []⟩ .query "offset" ∧
      (Arguments.given ⟨[.float (.infinite false)], []⟩).IsData ∧
      (perform (receiverCall (.register "q") "offset" ⟨[.float (.infinite false)], []⟩ none)
        { queries := [selectAll], registers := [("q", .query 0)] }).1 = misuse .overflow :=
  ⟨.offset rfl, isData_of_single rfl rfl, rfl⟩

end Session

end Sparql
