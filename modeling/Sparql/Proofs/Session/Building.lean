import Sparql.Proofs.Session.Reach

/-!
# Building moves a store

One statement for each call that builds: whatever its arguments are and however it ends, it changes the
store in the listed ways only, and what it returns is held by the store.
-/

namespace Sparql

open Relation

/-! ## Arguments -/

namespace Store

variable {store : Store}

theorem hasValue_of_noQuery {value : Value} (noQuery : Session.queryIndex? value = none) :
    store.HasValue value := by
  intro index isQuery
  rw [noQuery] at isQuery
  cases isQuery

/-- The value of a reply refers to the query that the reply is, if to any. -/
theorem hasValue_valueOf {reply : Reply} (has : store.Has reply) :
    store.HasValue (store.valueOf reply) := by
  cases reply with
  | query index =>
      rintro _ ⟨⟩
      exact has
  | text _ | truth _ | group _ | operation _ | client | cacheKey _ | result _ | solutions _ | statements _ =>
      exact hasValue_of_noQuery rfl

/-- An expression refers to a query only by naming a register. -/
theorem noQuery_or_register {registers : String → Value} {expression : Expression} {value : Value}
    (done : expression.evaluate registers = .ok value) :
    Session.queryIndex? value = none ∨ ∃ name ∈ expression.registers, value = registers name := by
  cases expression with
  | register name =>
      cases done
      exact .inr ⟨name, .head _, rfl⟩
  | constant given =>
      refine .inl ?_
      cases given <;> cases done <;> rfl
  | unreadable => cases done
  | «variable» name =>
      simp only [Expression.evaluate, Expression.namedVariable] at done
      split at done <;> cases done <;> exact .inl rfl
  | literal text language datatype =>
      simp only [Expression.evaluate] at done
      split at done <;> cases done
      exact .inl rfl
  | list items | tuple items =>
      rcases Outcome.map_eq_ok.mp done with ⟨values, _, rfl⟩
      exact .inl rfl
  | map entries =>
      rcases Outcome.bind_eq_ok.mp done with ⟨values, _, done⟩
      split at done <;> cases done
      exact .inl rfl
  | pattern items | branch items =>
      rcases Outcome.bind_eq_ok.mp done with ⟨values, _, done⟩
      rcases Outcome.bind_eq_ok.mp done with ⟨built, _, ⟨⟩⟩
      exact .inl rfl
  | graph statements =>
      rcases Outcome.bind_eq_ok.mp done with ⟨values, _, done⟩
      rcases Outcome.bind_eq_ok.mp done with ⟨built, _, ⟨⟩⟩
      exact .inl rfl

theorem noQuery_or_register_of_mem {registers : String → Value} {expressions : List Expression}
    {values : List Value} (done : Expression.evaluateAll registers expressions = .ok values) :
    ∀ value ∈ values, Session.queryIndex? value = none ∨
      ∃ name ∈ Expression.registersOf expressions, value = registers name := by
  induction expressions generalizing values with
  | nil =>
      cases done
      simp
  | cons expression rest ih =>
      rcases Outcome.bind_eq_ok.mp done with ⟨value, valueDone, done⟩
      rcases Outcome.bind_eq_ok.mp done with ⟨others, othersDone, ⟨⟩⟩
      simp only [List.mem_cons, forall_eq_or_imp, Expression.registersOf, List.mem_append]
      refine ⟨(noQuery_or_register valueDone).imp_right ?_, fun other mem => (ih othersDone other mem).imp_right ?_⟩
      · rintro ⟨name, isNamed, isValue⟩
        exact ⟨name, .inl isNamed, isValue⟩
      · rintro ⟨name, isNamed, isValue⟩
        exact ⟨name, .inr isNamed, isValue⟩

theorem hasValue_evaluateAll {registers : String → Value} {expressions : List Expression}
    {values : List Value} (known : ∀ name, store.HasValue (registers name))
    (done : Expression.evaluateAll registers expressions = .ok values) :
    ∀ value ∈ values, store.HasValue value := by
  intro value mem
  rcases noQuery_or_register_of_mem done value mem with noQuery | ⟨name, _, rfl⟩
  · exact hasValue_of_noQuery noQuery
  · exact known name

/-- The queries among some values are held by the store. -/
theorem known_of_hasValue {values : List Value} (known : ∀ value ∈ values, store.HasValue value) :
    ∀ query ∈ values.filterMap Session.queryIndex?, query < store.queries.length := by
  intro query mem
  rcases List.mem_filterMap.mp mem with ⟨value, isValue, isQuery⟩
  exact known value isValue query isQuery

end Store

/-! ## New queries -/

namespace Clauses

/-- Clauses as they are made. -/
theorem select_isNew {named : List Value} {count : Value} {clauses : Clauses}
    (done : select named count = .ok clauses) (binding : Value) :
    QueryRecord.IsNew { clauses, binding } := by
  simp only [select, Outcome.bind_eq_ok, Outcome.pure_eq_ok] at done
  rcases done with ⟨names, _, counts, _, rfl⟩
  exact ⟨.select, names.map .variable, counts, [], binding, rfl⟩

theorem describe_isNew {resources : List Value} {clauses : Clauses}
    (done : describe resources = .ok clauses) (binding : Value) :
    QueryRecord.IsNew { clauses, binding } := by
  simp only [describe, Outcome.bind_eq_ok, Outcome.pure_eq_ok] at done
  rcases done with ⟨projection, _, rfl⟩
  exact ⟨.describe, projection, [], [], binding, rfl⟩

theorem construct_isNew {patterns : List Value} {clauses : Clauses}
    (done : construct patterns = .ok clauses) (binding : Value) :
    QueryRecord.IsNew { clauses, binding } := by
  unfold construct at done
  split at done
  · rcases Outcome.bind_eq_ok.mp done with ⟨_, ⟨⟩, _⟩
  · simp only [Outcome.bind_eq_ok, Outcome.pure_eq_ok] at done
    rcases done with ⟨template, _, rfl⟩
    exact ⟨.construct, [], [], template, binding, rfl⟩

end Clauses

namespace Session

variable {store : Store} {index : Nat} {arguments : Arguments}

theorem selectAll_isNew : selectAll.IsNew := ⟨.select, [], [], [], .null, rfl⟩

theorem newQuery_isNew {record : QueryRecord} (done : newQuery arguments = .ok record) :
    record.IsNew := by
  rcases Outcome.bind_eq_ok.mp done with ⟨values, _, done⟩
  split at done
  · rcases Outcome.bind_eq_ok.mp done with ⟨form, _, ⟨⟩⟩
    exact ⟨form, [], [], [], _, rfl⟩
  · cases done

/-- What a constructor makes. -/
theorem construct_isNew {name : String} {made : Outcome QueryRecord} {record : QueryRecord}
    (named : construct? name arguments = some made) (done : made = .ok record) : record.IsNew := by
  unfold construct? at named
  split at named <;> cases named
  case h_1 => exact newQuery_isNew done
  case h_2 =>
      rcases Outcome.bind_eq_ok.mp done with ⟨binding, _, ⟨⟩⟩
      exact ⟨.ask, [], [], [], binding, rfl⟩
  case h_3 | h_4 | h_5 =>
      rcases Outcome.bind_eq_ok.mp done with ⟨values, _, done⟩
      split at done
      · rcases Outcome.bind_eq_ok.mp done with ⟨clauses, made, ⟨⟩⟩
        first
          | exact Clauses.select_isNew made _
          | exact Clauses.describe_isNew made _
          | exact Clauses.construct_isNew made _
      · cases done

/-! ## Queries inside queries -/

theorem leads_addQuery {record : QueryRecord} (isNew : record.IsNew) :
    Leads (addQuery record) store fun after index => index < after.queries.length :=
  fun _ => ⟨Store.moves_query isNew, fun _ done => by cases done; simp [perform_addQuery]⟩

theorem leads_addGroup {patterns : List Pattern} :
    Leads (addGroup { patterns }) store fun after index => index < after.groups.length :=
  fun _ => ⟨.single (.quiet (.single (.group patterns)) (fun _ => rfl) rfl), fun _ done => by
    cases done
    simp [perform_addGroup]⟩

/-- A block that moves every store which holds the object that it is handed. -/
def Block.Moves (block : Block) : Prop :=
  ∀ object store, store.Has (replyOf object) → Leads (block object) store fun _ _ => True

theorem blockOf_moves {given : Option Block} {named : Value} {block : Block}
    (moves : ∀ block, given = some block → block.Moves) (chosen : blockOf given named = some block) :
    block.Moves := by
  unfold blockOf at chosen
  split at chosen
  · exact moves _ chosen
  · cases chosen
  · cases chosen
    exact fun _ _ _ => leads_fault

/-- What follows a block runs on the store that the block leaves, if there is a block. -/
theorem leads_block {α : Type} {holds : Store → α → Prop} {block : Option Block} (object : ObjectRef)
    {rest : Unit → Session α} (moves : ∀ run, block = some run → run.Moves)
    (has : store.Has (replyOf object))
    (leads : ∀ after, store.Moves after → Leads (rest ()) after holds) :
    Leads (match block with
      | some block => block object >>= rest
      | none => rest ()) store holds := by
  cases block with
  | none => exact leads store .refl
  | some run =>
      exact leads_bind (moves run rfl object store has) fun _ after grown _ => leads after grown

theorem leads_addPatterns {values : List Value} (known : ∀ value ∈ values, store.HasValue value) :
    Leads (addPatterns index values) store fun _ _ => True := by
  refine leads_ofOutcome_bind fun patterns _ => leads_changeQuery (fun record _ => ?_) (fun _ => rfl) trivial
  exact .tail (.single (.clauses (.patterns patterns))) (.subqueries (Store.known_of_hasValue known))

theorem leads_whereCall {block : Option Block} (isKnown : index < store.queries.length)
    (known : ∀ value ∈ arguments.positional, store.HasValue value)
    (moves : ∀ run, block = some run → run.Moves) :
    Leads (whereCall index arguments block) store Store.Has := by
  refine leads_ofOutcome_bind fun named _ => ?_
  refine leads_bind (leads_addPatterns known) fun _ middle grown _ => ?_
  have stillKnown := isKnown.trans_le grown.grows.queries
  refine leads_block (.query index) (fun _ => blockOf_moves moves) stillKnown
    fun after later => ?_
  exact leads_pure (stillKnown.trans_le later.grows.queries)

/-- What follows a check runs when the check passes. -/
theorem leads_unless {α : Type} {holds : Store → α → Prop} {condition : Bool} {failure : Failure}
    {rest : Unit → Session α} (leads : condition = false → Leads (rest ()) store holds) :
    Leads (if condition then throw failure >>= rest else rest ()) store holds := by
  cases condition with
  | true => exact leads_throw
  | false => exact leads rfl

/-- Changing a query and returning what the store held before. -/
theorem leads_changeQuery_pure {change : QueryRecord → QueryRecord} {reply : Reply}
    (changed : ∀ record, store.queries[index]? = some record →
      ReflTransGen (QueryRecord.Change store) record (change record))
    (quiet : ∀ record, (change record).frozen = record.frozen) (has : store.Has reply) :
    Leads (do changeQuery index change; return reply) store Store.Has := by
  have moves := moves_modify_query changed quiet
  exact leads_bind (leads_modify moves (has.mono moves.grows)) fun _ _ _ has => leads_pure has

theorem leads_subqueryCall : Leads (subqueryCall index arguments) store Store.Has := by
  refine leads_ofOutcome_bind fun named _ => ?_
  refine leads_ofOutcome_bind fun clauses made => ?_
  refine leads_bind (leads_addQuery (Clauses.select_isNew made .null)) fun query middle _ added => ?_
  refine leads_changeQuery_pure (fun record _ => .single (.subqueries ?_)) (fun _ => rfl) added
  rintro _ (_ | ⟨_, ⟨⟩⟩)
  exact added

theorem leads_optionalCall {block : Option Block} (isKnown : index < store.queries.length)
    (moves : ∀ run, block = some run → run.Moves) :
    Leads (optionalCall index arguments block) store Store.Has := by
  refine leads_ofOutcome_bind fun named _ => ?_
  refine leads_ofOutcome_bind fun patterns _ => ?_
  refine leads_bind leads_addGroup fun group middle grown added => ?_
  refine leads_block (.group group) (fun _ => blockOf_moves moves) added fun after later => ?_
  refine leads_changeQuery_pure (fun record _ => .single (.optional ?_)) (fun _ => rfl) ?_
  · exact added.trans_le later.grows.groups
  · exact isKnown.trans_le (grown.grows.trans later.grows).queries

/-- The queries of a clause are held by the store. -/
theorem leads_branches {clause : BranchClause} {values : List Value} {block : Option Block}
    (known : ∀ value ∈ values, store.HasValue value)
    (moves : ∀ run, block = some run → run.Moves) :
    Leads (branches clause values block) store fun after queries =>
      ∀ query ∈ queries, query < after.queries.length := by
  have of_new : ∀ {middle after : Store} {query : Nat}, query < middle.queries.length →
      middle.Moves after → ∀ each ∈ [query], each < after.queries.length := by
    intro middle after query added grown each mem
    cases List.mem_singleton.mp mem
    exact added.trans_le grown.grows.queries
  unfold branches
  split
  case h_1 run =>
      refine leads_unless fun _ => ?_
      refine leads_bind (leads_addQuery selectAll_isNew) fun query middle _ added => ?_
      refine leads_bind (moves run rfl (.query query) middle added) fun _ after grown _ => ?_
      exact leads_pure (of_new added grown)
  case h_2 =>
      refine leads_unless fun _ => ?_
      split
      · exact leads_pure (Store.known_of_hasValue known)
      · refine leads_unless fun _ => ?_
        refine leads_bind (leads_addQuery selectAll_isNew) fun query middle grown added => ?_
        refine leads_bind (leads_addPatterns fun value mem => (known value mem).mono grown.grows)
          fun _ after later _ => ?_
        exact leads_pure (of_new added later)

theorem leads_unionCall {block : Option Block} (isKnown : index < store.queries.length)
    (known : ∀ value ∈ arguments.positional, store.HasValue value)
    (moves : ∀ run, block = some run → run.Moves) :
    Leads (unionCall index arguments block) store Store.Has := by
  refine leads_ofOutcome_bind fun named _ => ?_
  refine leads_bind (leads_branches known fun _ => blockOf_moves moves)
    fun added after grown addedKnown => ?_
  exact leads_changeQuery_pure (fun _ _ => .single (.unions addedKnown)) (fun _ => rfl)
    (isKnown.trans_le grown.grows.queries)

theorem leads_minusCall {block : Option Block} (isKnown : index < store.queries.length)
    (known : ∀ value ∈ arguments.positional, store.HasValue value)
    (moves : ∀ run, block = some run → run.Moves) :
    Leads (minusCall index arguments block) store Store.Has := by
  refine leads_ofOutcome_bind fun named _ => ?_
  refine leads_bind (leads_branches known fun _ => blockOf_moves moves)
    fun added after grown addedKnown => ?_
  exact leads_changeQuery_pure (fun _ _ => .single (.minuses addedKnown)) (fun _ => rfl)
    (isKnown.trans_le grown.grows.queries)

theorem mem_of_endpointOf {endpoint : Value} {values : List Value} {rest : Arguments}
    (done : endpointOf arguments = .ok (endpoint, values, rest)) :
    ∀ value ∈ values, value ∈ arguments.positional := by
  unfold endpointOf at done
  split at done <;> cases done
  case h_1 positional =>
      rw [positional]
      exact fun value mem => .tail _ mem
  case h_2 => simp

theorem leads_serviceCall {block : Option Block} (isKnown : index < store.queries.length)
    (known : ∀ value ∈ arguments.positional, store.HasValue value)
    (moves : ∀ run, block = some run → run.Moves) :
    Leads (serviceCall index arguments block) store Store.Has := by
  refine leads_ofOutcome_bind fun ⟨endpoint, values, rest⟩ done => ?_
  have valuesKnown : ∀ value ∈ values, store.HasValue value :=
    fun value mem => known value (mem_of_endpointOf done value mem)
  refine leads_ofOutcome_bind fun named _ => ?_
  split
  · refine leads_ofOutcome_bind fun resource _ => ?_
    refine leads_bind (leads_branches valuesKnown fun _ => blockOf_moves moves)
      fun added after grown addedKnown => ?_
    split
    · exact leads_changeQuery_pure (fun _ _ => .single (.service _ (addedKnown _ (.head _)))) (fun _ => rfl)
        (isKnown.trans_le grown.grows.queries)
    · exact leads_refuse
  · exact leads_fault

/-! ## Clauses -/

theorem leads_changeClauses {record : QueryRecord} {clauses : Clauses}
    (found : store.queries[index]? = some record)
    (changed : ReflGen Clauses.Change record.clauses clauses) :
    Leads (changeClauses index fun _ => clauses) store fun after _ =>
      after.queries[index]? = some { record with clauses } := by
  refine leads_changeQuery (fun same isSame => ?_) (fun _ => rfl) ?_
  · cases found.symm.trans isSame
    rcases changed with _ | changed
    · exact .refl
    · exact .single (.clauses changed)
  · simp [found]

theorem leads_changeCall {change : Clauses → Outcome Clauses} (isKnown : index < store.queries.length)
    (changes : ∀ clauses after, change clauses = .ok after → ReflGen Clauses.Change clauses after) :
    Leads (changeCall index change) store Store.Has := by
  refine leads_query_bind fun record found => ?_
  refine leads_ofOutcome_bind fun clauses done => ?_
  refine leads_bind (leads_changeClauses found (changes _ _ done)) fun _ after grown _ => ?_
  exact leads_pure (isKnown.trans_le grown.grows.queries)

/-- Both bounds are set, or the first alone when the second is refused. -/
theorem leads_sliceCall (isKnown : index < store.queries.length) :
    Leads (sliceCall index arguments) store Store.Has := by
  refine leads_ofOutcome_bind fun named _ => ?_
  split
  · refine leads_query_bind fun record found => ?_
    refine leads_ofOutcome_bind fun shifted shiftedDone => ?_
    refine leads_bind (leads_changeClauses found (Clauses.setOffset_change shiftedDone))
      fun _ middle grown foundShifted => ?_
    refine leads_ofOutcome_bind fun limited limitedDone => ?_
    refine leads_bind (leads_changeClauses foundShifted (Clauses.setLimit_change limitedDone))
      fun _ after later _ => ?_
    exact leads_pure (isKnown.trans_le (grown.grows.trans later.grows).queries)
  · exact leads_fault

theorem leads_addDeclaration {text : String} :
    Leads (changeClauses index (·.addDeclaration text)) store fun _ _ => True :=
  leads_changeQuery (fun _ _ => .single (.clauses (.declaration text))) (fun _ => rfl) trivial

theorem leads_declareCall {value : Value} {named : List (String × Value)}
    (isKnown : index < store.queries.length) :
    Leads (declareCall index value named) store Store.Has := by
  refine leads_ofOutcome_bind ?_
  rintro ⟨written, entries⟩ _
  have first : Leads (written.forM fun text => changeClauses index (·.addDeclaration text)) store
      fun _ _ => True := by
    cases written with
    | none => exact leads_pure trivial
    | some text => exact leads_addDeclaration
  refine leads_bind first fun _ middle grown _ => ?_
  refine leads_bind (leads_forM fun entry _ after _ => leads_ofOutcome_bind fun text _ =>
    leads_addDeclaration) fun _ after later _ => ?_
  exact leads_pure (isKnown.trans_le (grown.grows.trans later.grows).queries)

theorem leads_prologueCall (isKnown : index < store.queries.length) :
    Leads (prologueCall index arguments) store Store.Has := by
  unfold prologueCall
  split
  · exact leads_declareCall isKnown
  · exact leads_declareCall isKnown
  · exact leads_fault

end Session

end Sparql
