import Mathlib.Tactic.FinCases
import Sparql.Proofs.Session.Kept
import Sparql.Proofs.Session.Script

/-!
# Failed calls change nothing

A call that builds checks all of its arguments before it changes what it is made on, and a block runs before
what it fills is attached. A call that fails therefore leaves every query, every optional part, every operation
and the client as they were, as long as its block keeps to what it is handed.
-/

namespace Sparql

namespace Session

/-! ## What a block acts on -/

mutual

/-- A call on one of the listed objects. Its block acts on these and on what it is handed. -/
def stepActsOn (targets : List ObjectRef) (store : Store) : Step → Prop
  | .call receiver _ _ _ block _ =>
    (∃ name, receiver = .register name ∧
      ∃ object ∈ targets, store.register? name = some (replyOf object)) ∧
    blockActsOn targets store block

/-- A block that acts on the listed objects and on the one it is handed, whichever that is. -/
def blockActsOn (targets : List ObjectRef) (store : Store) : Option (List Step) → Prop
  | none => True
  | some steps => ∀ object inner, IsHanded targets store object inner →
    stepsActOn (object :: targets) (inner.setRegister blockRegister (replyOf object)) steps

/-- Calls of which each that is made is on one of the listed objects. -/
def stepsActOn (targets : List ObjectRef) (store : Store) : List Step → Prop
  | [] => True
  | step :: rest =>
    if step.isReady store then
      stepActsOn targets store step ∧ ∀ reply after,
        perform (runCall step) store = (.ok reply, after) → stepsActOn targets after rest
    else stepsActOn targets store rest

end

/-! ## Running a block -/

variable {store : Store} {changed : List ObjectRef}

theorem changes_replyCall {object : ObjectRef} {method : String} {arguments : Arguments}
    {block : Option Block} (unbound : store.Unbound object) (listed : object ∈ changed)
    (confined : ∀ run, block = some run → run.IsConfined changed store) :
    Changes (replyCall (replyOf object) method arguments block) changed store := by
  cases object with
  | query index => exact changes_queryCall unbound listed confined
  | group index => exact changesLast_groupCall.changes listed
  | operation _ | client => cases unbound

theorem changes_withBlockRegister {object : ObjectRef} {run : Session Unit}
    (changes : Changes run changed (store.setRegister blockRegister (replyOf object))) :
    Changes (withBlockRegister object run) changed store := by
  have entered : Store.Spares changed store (store.setRegister blockRegister (replyOf object)) :=
    Store.spares_registers _
  have ran := changes.mono (fun _ => entered.trans_same) fun _ _ => entered.trans_same
  exact ends_withBlockRegister (fun _ _ spares => spares.trans_same (Store.spares_registers _)) ran

mutual

/-- A call on objects that nothing executes changes nothing but these, whatever its block does to them. -/
theorem changes_runCall (step : Step) (changed : List ObjectRef) (store : Store)
    (unbound : ∀ object ∈ changed, store.Unbound object) (acts : stepActsOn changed store step) :
    Changes (runCall step) changed store := by
  cases step with
  | call receiver method positional named block target =>
      simp only [stepActsOn] at acts
      rcases acts with ⟨⟨name, rfl, object, listed, found⟩, inside⟩
      apply ends_runCall_of_receiverCall (.refl store)
      · exact fun _ _ _ _ spares => spares.trans_same (Store.spares_registers _)
      intro arguments _
      refine ends_get_bind ?_
      rw [found]
      exact changes_replyCall (unbound object listed) listed
        (runBlock_isConfined block changed store unbound inside)

theorem runBlock_isConfined (block : Option (List Step)) (changed : List ObjectRef) (store : Store)
    (unbound : ∀ object ∈ changed, store.Unbound object) (acts : blockActsOn changed store block)
    (run : Block) (isRun : runBlock block = some run) : run.IsConfined changed store := by
  cases block with
  | none => cases isRun
  | some steps =>
      cases isRun
      intro object inner handed
      simp only [blockActsOn] at acts
      refine changes_withBlockRegister (changes_runAll steps (object :: changed) _ ?_ (acts object inner handed))
      have entered : Store.Spares [] inner (inner.setRegister blockRegister (replyOf object)) :=
        Store.spares_registers _
      intro each mem
      rcases List.mem_cons.mp mem with rfl | listed
      · exact entered.unbound handed.unbound
      · exact entered.unbound (handed.spares.unbound (unbound each listed))

theorem changes_runAll (steps : List Step) (changed : List ObjectRef) (store : Store)
    (unbound : ∀ object ∈ changed, store.Unbound object) (acts : stepsActOn changed store steps) :
    Changes (runAll steps) changed store := by
  cases steps with
  | nil => exact ends_pure (.refl store)
  | cons step rest =>
      simp only [stepsActOn] at acts
      refine ends_get_bind ?_
      split at acts
      · rename_i isReady
        rw [if_pos isReady]
        rcases acts with ⟨first, later⟩
        have call := (changes_runCall step changed store unbound first).with_performed
        refine ends_bind call fun reply after ⟨performed, spares⟩ => ?_
        have others := changes_runAll rest changed after
          (fun object mem => spares.unbound (unbound object mem)) (later reply after performed)
        exact others.mono (fun _ => spares.trans_same) fun _ _ => spares.trans_same
      · rename_i notReady
        rw [if_neg notReady]
        exact changes_runAll rest changed store unbound acts

end

/-! ## Calls that build -/

/-- The calls that set or add a clause, or add a new sub-query, by their arguments alone. -/
def clauseCalls : List String :=
  ["filter", "values", "union_with_bind", "order", "order_by", "asc", "desc", "group", "group_by", "distinct",
    "reduced", "graph", "from_", "offset", "limit", "with_subquery"]

/-- The calls that attach an optional part or a query, which a block may fill. -/
def attachingCalls : List String := ["optional", "union", "minus", "service"]

/-- The calls that build on a query or an optional part and change it at their end only. Patterns are added
before a block runs, so the call for these has none; the blocks of other calls act on what they are handed. -/
inductive Builds (store : Store) : Step → Prop
  | clause {name method : String} {index : Nat} {positional : List Expression}
      {named : List (String × Expression)} {block : Option (List Step)} {target : Option String}
      (isQuery : store.register? name = some (.query index)) (isClause : method ∈ clauseCalls) :
      Builds store (.call (.register name) method positional named block target)
  | patterns {name method : String} {index : Nat} {positional : List Expression}
      {named : List (String × Expression)} {target : Option String}
      (isQuery : store.register? name = some (.query index)) (isPatterns : method ∈ ["where", "whether"])
      (noBlock : ∀ arguments, perform (evaluateArguments positional named) store = (.ok arguments, store) →
        ∀ value, arguments.named? "block" = some value → value = .null) :
      Builds store (.call (.register name) method positional named none target)
  | attaching {name method : String} {index : Nat} {positional : List Expression}
      {named : List (String × Expression)} {block : Option (List Step)} {target : Option String}
      (isQuery : store.register? name = some (.query index)) (isAttaching : method ∈ attachingCalls)
      (inside : blockActsOn [] store block) :
      Builds store (.call (.register name) method positional named block target)
  | group {name method : String} {index : Nat} {positional : List Expression}
      {named : List (String × Expression)} {block : Option (List Step)} {target : Option String}
      (isGroup : store.register? name = some (.group index)) :
      Builds store (.call (.register name) method positional named block target)

variable {index : Nat} {method : String} {arguments : Arguments} {block : Option Block}

theorem changesLast_clauseCall (isClause : method ∈ clauseCalls) :
    ChangesLast (queryCall index method arguments block) (.query index) changed store := by
  have notAttaching : blockCall? index method arguments block = none := by
    fin_cases isClause <;> rfl
  have notReading : readingCall? index method = none := by
    fin_cases isClause <;> rfl
  have changesOrAdds : (∃ change, Clauses.change? method arguments = some change) ∨
      Clauses.change? method arguments = none ∧
        plainCall? index method arguments = some (subqueryCall index arguments) := by
    fin_cases isClause
    case «15» => exact .inr ⟨rfl, rfl⟩
    all_goals exact .inl ⟨_, rfl⟩
  unfold queryCall
  rw [notAttaching, notReading]
  rcases changesOrAdds with ⟨change, isChange⟩ | ⟨noChange, adds⟩
  · rw [isChange]
    cases block with
    | none => exact changesLast_changeCall
    | some run => exact ends_fault (.refl store)
  · rw [noChange, adds]
    cases block with
    | none => exact changesLast_subqueryCall
    | some run => exact ends_fault (.refl store)

theorem changesLast_attachingCall (isAttaching : method ∈ attachingCalls)
    (confined : ∀ run, block = some run → run.IsConfined changed store) :
    ChangesLast (queryCall index method arguments block) (.query index) changed store := by
  fin_cases isAttaching
  · exact changesLast_optionalCall confined
  · exact changesLast_unionCall confined
  · exact changesLast_minusCall confined
  · exact changesLast_serviceCall confined

/-- The only option of a call is what is given for it, or nothing. -/
theorem headD_of_options {named : List Value} (done : arguments.options [blockParameter] = .ok named) :
    named.headD .null = (arguments.named? "block").getD .null := by
  unfold Arguments.options Arguments.bind at done
  split at done
  · have same : Arguments.named? { arguments with positional := [] } "block" = arguments.named? "block" := rfl
    rw [Arguments.assign, blockParameter, same] at done
    cases isGiven : arguments.named? "block" <;> rw [isGiven] at done <;> cases done <;> rfl
  · cases done

theorem changesLast_patternCall (isPatterns : method ∈ ["where", "whether"])
    (noBlock : ∀ value, arguments.named? "block" = some value → value = .null) :
    ChangesLast (queryCall index method arguments none) (.query index) changed store := by
  have isWhere : queryCall index method arguments none = whereCall index arguments none := by
    fin_cases isPatterns <;> rfl
  rw [isWhere]
  refine changesLast_whereCall fun named done => ?_
  rw [headD_of_options done]
  rcases given : arguments.named? "block" with _ | value
  · rfl
  · exact noBlock value given

/-- A call on an object ends as what it does to the object does. -/
theorem ends_runCall_of_changesLast {name : String} {object : ObjectRef} {positional : List Expression}
    {named : List (String × Expression)} {inner : Option (List Step)} {target : Option String}
    (found : store.register? name = some (replyOf object))
    (changesLast : ∀ arguments, perform (evaluateArguments positional named) store = (.ok arguments, store) →
      ChangesLast (replyCall (replyOf object) method arguments (runBlock inner)) object changed store) :
    ChangesLast (runCall (.call (.register name) method positional named inner target)) object changed store := by
  refine ends_evaluateArguments_bind (.refl store) fun arguments evaluated => ?_
  have call : ChangesLast (receiverCall (.register name) method arguments (runBlock inner)) object changed store := by
    refine ends_get_bind ?_
    rw [found]
    exact changesLast arguments evaluated
  refine ends_bind call fun reply after spares => ?_
  cases target with
  | none => exact ends_pure spares
  | some name => exact spares.trans_same (Store.spares_registers _)

/-- A call that builds changes nothing when it fails. -/
theorem changesLast_runCall {step : Step} (builds : Builds store step) :
    ∃ object, ChangesLast (runCall step) object [] store := by
  cases builds with
  | @clause name method index _ _ _ _ isQuery isClause =>
      exact ⟨.query index, ends_runCall_of_changesLast isQuery fun _ _ => changesLast_clauseCall isClause⟩
  | @patterns name method index _ _ _ isQuery isPatterns noBlock =>
      exact ⟨.query index, ends_runCall_of_changesLast isQuery fun arguments evaluated =>
        changesLast_patternCall isPatterns (noBlock arguments evaluated)⟩
  | @attaching name method index _ _ block _ isQuery isAttaching inside =>
      exact ⟨.query index, ends_runCall_of_changesLast isQuery fun _ _ =>
        changesLast_attachingCall isAttaching (runBlock_isConfined block [] store (by simp) inside)⟩
  | @group name method index _ _ _ _ isGroup =>
      exact ⟨.group index, ends_runCall_of_changesLast isGroup fun _ _ => changesLast_groupCall⟩

end Session

/-! ## Sessions -/

/-- A store that holds all that another one held, unchanged, has sent nothing and has logged nothing. -/
structure Store.Untouched (store after : Store) : Prop where
  queries : ∀ (index : Nat) (record : QueryRecord), store.queries[index]? = some record →
    after.queries[index]? = some record
  groups : ∀ (index : Nat) (group : OptionalGroup), store.groups[index]? = some group →
    after.groups[index]? = some group
  texts : ∀ index < store.queries.length, after.text index = store.text index
  groupTexts : ∀ index < store.groups.length, after.groupText index = store.groupText index
  operations : after.operations = store.operations
  client : after.client = store.client
  wire : after.wire = store.wire

theorem Store.Closed.untouched {store after : Store} (closed : store.Closed) (spares : Spares [] store after) :
    store.Untouched after where
  queries index record found := spares.queries index record found (by simp)
  groups index group found := spares.groups index group found (by simp)
  texts _ known := spares.keeps.text_eq closed known isApart_nil
  groupTexts _ known := spares.keeps.groupText_eq known (by simp)
  operations := spares.operations
  client := spares.client
  wire := spares.wire

/-- In every state of a session, a call that builds and fails leaves everything as it was. -/
theorem Store.untouched_of_session (client : Option Client) (answers : List Answer) (steps : List Step)
    (step : Step) (failure : Failure) (after : Store) :
    let store := Session.storeAfter (start client answers) steps
    Session.Builds store step → perform (Session.runCall step) store = (.error failure, after) →
      store.Untouched after := by
  intro store builds failed
  rcases Session.changesLast_runCall builds with ⟨object, changesLast⟩
  exact (closed_of_session client answers steps).untouched (changesLast.of_error failed)

open Session

/-- A query with one pattern. -/
def patternSession : List Step :=
  [.call .queries "select" [] [] none (some "q"),
    .call (.register "q") "where" [.list [.variable "s", .constant (.term (.iri "http://p")), .variable "o"]] []
      none none]

/-- A union whose block has set the first solution of the branch when the number of solutions is refused. -/
def brokenUnion : Step :=
  .call (.register "q") "union" [] []
    (some [.call (.register "it") "slice" [.constant (.int 1), .constant (.int (-1))] [] none none]) none

theorem builds_brokenUnion : Builds (storeAfter (Store.start none []) patternSession) brokenUnion := by
  refine .attaching rfl (by decide) fun object inner _ => ?_
  have held : (inner.setRegister blockRegister (replyOf object)).register? blockRegister =
      some (replyOf object) := by
    simp [Store.register?, Store.setRegister]
  unfold stepsActOn
  split
  · exact ⟨⟨⟨blockRegister, rfl, object, .head _, held⟩, trivial⟩, fun _ _ _ => trivial⟩
  · trivial

theorem Store.untouched_of_brokenUnion :
    let store := storeAfter (start none []) patternSession
    let ended := perform (runCall brokenUnion) store
    Builds store brokenUnion ∧ ended.1 = .error (.construction (.negative "LIMIT" (-1))) ∧
      ended.2.queries.length = 2 ∧ store.Untouched ended.2 :=
  ⟨builds_brokenUnion, rfl, rfl,
    untouched_of_session none [] patternSession brokenUnion _ _ builds_brokenUnion rfl⟩

end Sparql
