import Sparql.Proofs.Query.RespelledCall
import Sparql.Proofs.Session.Run

/-!
# Respelled calls

A call whose arguments differ from those of another call in the spellings of variables alone does what the other one
does: both fail or both return the same, and the store is the same afterwards.

Binding keeps that two runs agree. Once the arguments are read as the same clauses, the runs are the same one, so the
argument of each call is about its reading of arguments alone; a table of methods is gone through row by row.
-/

namespace Sparql

open Outcome

namespace Session

variable {α β γ δ : Type} {arguments others : Arguments} {method : String} {index : Nat} {values values' : List Value}

/-! ## Parts of a session -/

theorem agree_ofOutcome_bind {related : α → β → Prop} {outcome : Outcome α} {other : Outcome β} {rest : α → Session γ}
    {others : β → Session γ} (agree : Agree related outcome other)
    (restAgree : ∀ value other, related value other → Run.Agree (rest value) (others other)) :
    Run.Agree (ofOutcome outcome >>= rest) (ofOutcome other >>= others) := by
  cases agree with
  | failed => exact fun _ => ⟨.failed, rfl⟩
  | done isRelated => exact restAgree _ _ isRelated

theorem agree_ofOutcome_bind_eq {outcome other : Outcome α} {rest others : α → Session β}
    (agree : Agree (· = ·) outcome other) (restAgree : ∀ value, Run.Agree (rest value) (others value)) :
    Run.Agree (ofOutcome outcome >>= rest) (ofOutcome other >>= others) := by
  refine agree_ofOutcome_bind agree ?_
  rintro value _ rfl
  exact restAgree value

/-- What fails in any case agrees with what fails in any case. -/
theorem agree_throw {failure other : Failure} : Run.Agree (throw failure : Session α) (throw other) :=
  fun _ => ⟨.failed, rfl⟩

theorem agree_ite {condition condition' : Bool} {run other rest otherRest : Session α} (same : condition = condition')
    (agree : Run.Agree run other) (restAgree : Run.Agree rest otherRest) :
    Run.Agree (if condition then run else rest) (if condition' then other else otherRest) := by
  subst same
  split
  · exact agree
  · exact restAgree

/-- A refusal before something else. -/
theorem agree_unless {condition condition' : Bool} {failure : Session Unit} {rest other : Session α}
    (same : condition = condition') (agree : Run.Agree rest other) :
    Run.Agree (if condition then failure >>= fun _ => rest else rest)
      (if condition' then failure >>= fun _ => other else other) :=
  agree_ite same (.bind (Run.agree_refl _) fun _ => agree) agree

/-! ## Blocks -/

/-- Two blocks do the same to each object. -/
def SameBlock : Option Block → Option Block → Prop :=
  Option.Rel fun run other => ∀ object, Run.Agree (run object) (other object)

variable {block other : Option Block}

theorem SameBlock.isSome (same : SameBlock block other) : block.isSome = other.isSome := by
  cases same <;> rfl

theorem SameBlock.blockOf {named : Value} (same : SameBlock block other) :
    SameBlock (blockOf block named) (blockOf other named) := by
  cases same with
  | some same => exact .some same
  | none => exact rel_refl (fun _ _ => Run.agree_refl _) _

/-- What a block does to an object, if there is one, and then something else. -/
theorem SameBlock.agree {object : ObjectRef} {rest : Session α} : ∀ {block other : Option Block},
    SameBlock block other → Run.Agree (match block with
        | some block => block object >>= fun _ => rest
        | none => rest)
      (match other with
        | some block => block object >>= fun _ => rest
        | none => rest) := by
  intro block other same
  cases same with
  | some same => exact (same object).bind fun _ => Run.agree_refl _
  | none => exact Run.agree_refl _

/-! ## Patterns -/

theorem queryIndex?_eq {value value' : Value} (respelled : Value.Respelled .pattern value value') :
    queryIndex? value = queryIndex? value' := by
  cases respelled with
  | same => rfl
  | name takesVariable => cases takesVariable
  | list => rfl
  | tuple => rfl
  | map hasEntries => cases hasEntries

section Patterns

variable (respelled : List.Forall₂ (Value.Respelled .pattern) values values')

include respelled

theorem all_eq {holds : Value → Bool}
    (same : ∀ value value', Value.Respelled .pattern value value' → holds value = holds value') :
    values.all holds = values'.all holds := by
  induction respelled with
  | nil => rfl
  | cons first _ ih => rw [List.all_cons, List.all_cons, same _ _ first, ih]

theorem isEmpty_eq : values.isEmpty = values'.isEmpty := by
  cases respelled <;> rfl

theorem queryIndices_eq : values.filterMap queryIndex? = values'.filterMap queryIndex? := by
  induction respelled with
  | nil => rfl
  | cons first _ ih => rw [List.filterMap_cons, List.filterMap_cons, queryIndex?_eq first, ih]

theorem agree_addPatterns : Run.Agree (addPatterns index values) (addPatterns index values') := by
  have patternsRespelled : List.Forall₂ (Value.Respelled .pattern) (values.filter (!·.isQuery))
      (values'.filter (!·.isQuery)) := by
    refine List.rel_filter (fun value value' isRespelled => ?_) respelled
    simp only [isRespelled.isQuery]
  unfold addPatterns
  rw [queryIndices_eq respelled]
  exact agree_ofOutcome_bind_eq (Value.Respelled.asPatterns patternsRespelled) fun _ => Run.agree_refl _

theorem agree_branches {clause : BranchClause} (same : SameBlock block other) :
    Run.Agree (branches clause values block) (branches clause values' other) := by
  unfold branches
  cases same with
  | some same =>
      apply agree_unless (congrArg _ (isEmpty_eq respelled))
      exact Run.agree_bind _ fun query => (same _).bind fun _ => Run.agree_refl _
  | none =>
      apply agree_unless (isEmpty_eq respelled)
      apply agree_ite (all_eq respelled fun _ _ isRespelled => isRespelled.isQuery)
      · rw [queryIndices_eq respelled]
        exact Run.agree_refl _
      · apply agree_unless (congrArg _ (all_eq respelled fun _ _ isRespelled => isRespelled.isPatternLike))
        exact Run.agree_bind _ fun query => (agree_addPatterns respelled).bind fun _ => Run.agree_refl _

end Patterns

/-! ## Calls -/

/-- The values of the parameters that a name gives, of which none is for a variable. -/
theorem agree_options_bind {places : CallPlaces} {parameters : List Parameter} {rest otherRest : List Value → Session α}
    (respelled : arguments.Respelled places others)
    (noVariables : parameters.map (fun parameter => places.named parameter.name) =
      (List.range parameters.length).map fun _ => .fixed)
    (agree : ∀ values, Run.Agree (rest values) (otherRest values)) :
    Run.Agree (options arguments parameters >>= rest) (options others parameters >>= otherRest) := by
  refine agree_ofOutcome_bind (respelled.options (fun _ => .fixed) noVariables) ?_
  intro values values' areRespelled
  have sameValues : values = values' := by
    rw [← List.forall₂_eq_eq_eq]
    exact areRespelled.forall₂.imp fun _ _ isRespelled => isRespelled.eq_of_fixed
  rw [sameValues]
  exact agree values'

section Blocks

variable (same : SameBlock block other)

include same

theorem agree_whereCall (respelled : arguments.Respelled (.each .pattern) others) :
    Run.Agree (whereCall index arguments block) (whereCall index others other) := by
  refine agree_options_bind respelled rfl fun named => ?_
  exact (agree_addPatterns respelled.positional.forall₂).bind fun _ => same.blockOf.agree

theorem agree_optionalCall (respelled : arguments.Respelled (.each .pattern) others) :
    Run.Agree (optionalCall index arguments block) (optionalCall index others other) := by
  refine agree_options_bind respelled rfl fun named => ?_
  apply agree_ofOutcome_bind_eq (Value.Respelled.asPatterns respelled.positional.forall₂)
  intro patterns
  exact Run.agree_bind _ fun group => same.blockOf.agree

theorem agree_unionCall (respelled : arguments.Respelled (.each .pattern) others) :
    Run.Agree (unionCall index arguments block) (unionCall index others other) := by
  refine agree_options_bind respelled rfl fun named => ?_
  exact (agree_branches respelled.positional.forall₂ same.blockOf).bind fun _ => Run.agree_refl _

theorem agree_minusCall (respelled : arguments.Respelled (.each .pattern) others) :
    Run.Agree (minusCall index arguments block) (minusCall index others other) := by
  refine agree_options_bind respelled rfl fun named => ?_
  exact (agree_branches respelled.positional.forall₂ same.blockOf).bind fun _ => Run.agree_refl _

omit same in
/-- The endpoint stands for a variable or a resource, whether it is given by position or by name. -/
theorem agree_endpointOf (respelled : arguments.Respelled (.ofMethod "service") others) :
    Agree (fun given other => Value.Respelled .variable given.1 other.1 ∧
        List.Forall₂ (Value.Respelled .pattern) given.2.1 other.2.1 ∧
        given.2.2.Respelled (.ofMethod "service") other.2.2)
      (endpointOf arguments) (endpointOf others) := by
  have named := respelled.named? "endpoint"
  have positional := respelled.positional
  unfold endpointOf
  generalize arguments.positional = given at positional
  generalize others.positional = given' at positional
  generalize arguments.named? "endpoint" = endpoint at named
  generalize others.named? "endpoint" = endpoint' at named
  cases positional with
  | nil =>
      cases named with
      | none => exact .failed
      | some isRespelled =>
          refine .done ⟨isRespelled, .nil, .nil, List.rel_filter (fun entry entry' both => ?_) respelled.named⟩
          simp only [both.1]
  | cons isRespelled areRespelled =>
      cases named with
      | none =>
          have patterns : Itemwise Value.Respelled (fun _ => .pattern) _ _ := areRespelled
          exact .done ⟨isRespelled, patterns.forall₂, respelled⟩
      | some => exact .failed

theorem agree_serviceCall (respelled : arguments.Respelled (.ofMethod "service") others) :
    Run.Agree (serviceCall index arguments block) (serviceCall index others other) := by
  apply agree_ofOutcome_bind (agree_endpointOf respelled)
  rintro ⟨endpoint, values, rest⟩ ⟨endpoint', values', rest'⟩ ⟨endpoints, areRespelled, restRespelled⟩
  refine agree_options_bind restRespelled rfl fun named => ?_
  split
  · apply agree_ofOutcome_bind_eq endpoints.asResource
    intro endpoint
    exact (agree_branches areRespelled same.blockOf).bind fun _ => Run.agree_refl _
  · exact Run.agree_refl _

/-- Calls with blocks that are the same do the same. -/
theorem rel_blockCall? (respelled : arguments.Respelled (.ofMethod method) others) :
    Option.Rel Run.Agree (blockCall? index method arguments block) (blockCall? index method others other) := by
  unfold blockCall?
  split
  · exact .some (agree_whereCall same respelled)
  · exact .some (agree_whereCall same respelled)
  · exact .some (agree_optionalCall same respelled)
  · exact .some (agree_unionCall same respelled)
  · exact .some (agree_minusCall same respelled)
  · exact .some (agree_serviceCall same respelled)
  · exact .none

end Blocks

theorem agree_subqueryCall (respelled : arguments.Respelled (.ofMethod "with_subquery") others) :
    Run.Agree (subqueryCall index arguments) (subqueryCall index others) := by
  apply agree_ofOutcome_bind (respelled.options (fun _ => .counts) rfl)
  intro named named' areRespelled
  have counts : Value.Respelled .counts (named.headD .null) (named'.headD .null) := by
    cases areRespelled with
    | nil => exact .same
    | cons isRespelled => exact isRespelled
  have positional := respelled.positional.forall₂
  exact agree_ofOutcome_bind_eq (Value.Respelled.select positional counts) fun _ => Run.agree_refl _

theorem agree_select (respelled : arguments.Respelled (.ofMethod "select") others) :
    Agree (· = ·) (do
        match ← arguments.options [⟨"count", some .null⟩, ⟨"client", some .null⟩] with
        | [count, binding] => return ({ clauses := ← Clauses.select arguments.positional count, binding } : QueryRecord)
        | _ => misuse .wrongKind)
      (do
        match ← others.options [⟨"count", some .null⟩, ⟨"client", some .null⟩] with
        | [count, binding] => return ({ clauses := ← Clauses.select others.positional count, binding } : QueryRecord)
        | _ => misuse .wrongKind) := by
  apply (respelled.options (fun index => if index = 0 then .counts else .fixed) rfl).bind
  rintro _ _ (_ | ⟨count, _ | ⟨client, _ | _⟩⟩)
  case cons.cons.nil =>
    cases client.eq_of_fixed
    have positional := respelled.positional.forall₂
    exact (Value.Respelled.select positional count).bind_eq fun _ => agree_refl _
  all_goals exact .failed

/-- What is made of the arguments by position, for a client. -/
theorem agree_made {place : Place} {make : List Value → Outcome Clauses}
    (respelled : arguments.Respelled (.each place) others)
    (agree : ∀ values values', List.Forall₂ (Value.Respelled place) values values' →
      Agree (· = ·) (make values) (make values')) :
    Agree (· = ·) (do
        match ← arguments.options [⟨"client", some .null⟩] with
        | [binding] => return ({ clauses := ← make arguments.positional, binding } : QueryRecord)
        | _ => misuse .wrongKind)
      (do
        match ← others.options [⟨"client", some .null⟩] with
        | [binding] => return ({ clauses := ← make others.positional, binding } : QueryRecord)
        | _ => misuse .wrongKind) := by
  apply (respelled.options (fun _ => .fixed) rfl).bind
  rintro _ _ (_ | ⟨client, _ | _⟩)
  case cons.nil =>
    cases client.eq_of_fixed
    exact (agree _ _ respelled.positional.forall₂).bind_eq fun _ => agree_refl _
  all_goals exact .failed

/-- Constructors make the same query. -/
theorem rel_construct? (respelled : arguments.Respelled (.ofMethod method) others) :
    Option.Rel (Agree (· = ·)) (construct? method arguments) (construct? method others) := by
  unfold construct?
  simp only
  split
  · rw [Arguments.Respelled.eq_of_fixed respelled]
    exact .some (agree_refl _)
  · rw [Arguments.Respelled.eq_of_fixed respelled]
    exact .some (agree_refl _)
  · exact .some (agree_select respelled)
  · exact .some (agree_made respelled fun _ _ => Value.Respelled.describe)
  · exact .some (agree_made respelled fun _ _ => Value.Respelled.construct)
  · exact .none

theorem rel_made {made : Option (Outcome QueryRecord)} {other : Option (Outcome QueryRecord)}
    (same : Option.Rel (Agree (· = ·)) made other) :
    Option.Rel Run.Agree (made.map constructCall) (other.map constructCall) := by
  cases same with
  | none => exact .none
  | some agree => exact .some (agree_ofOutcome_bind_eq agree fun _ => Run.agree_refl _)

theorem rel_plainCall? (respelled : arguments.Respelled (.ofMethod method) others) :
    Option.Rel Run.Agree (plainCall? index method arguments) (plainCall? index method others) := by
  unfold plainCall?
  split
  · exact .some (agree_subqueryCall respelled)
  · rw [Arguments.Respelled.eq_of_fixed respelled]
    exact .some (Run.agree_refl _)
  · rw [Arguments.Respelled.eq_of_fixed respelled]
    exact .some (Run.agree_refl _)
  · exact .none
  · exact rel_made (rel_construct? respelled)

/-! ## Calls on what a session holds -/

theorem agree_withoutArguments {places : CallPlaces} {call : Session Reply}
    (respelled : arguments.Respelled places others) (same : SameBlock block other) :
    Run.Agree (withoutArguments arguments block call) (withoutArguments others other call) := by
  rcases arguments with ⟨positional, named⟩
  rcases others with ⟨positional', named'⟩
  have samePositional : positional.isEmpty = positional'.isEmpty := by
    rcases respelled with ⟨_ | _, _⟩ <;> rfl
  have sameNamed : named.isEmpty = named'.isEmpty := by
    rcases respelled with ⟨_, _ | _⟩ <;> rfl
  unfold withoutArguments
  apply agree_unless
  · rw [samePositional, sameNamed, same.isSome]
  · exact Run.agree_refl _

theorem agree_changeCall {change other : Clauses → Outcome Clauses}
    (agree : ∀ clauses, Agree (· = ·) (change clauses) (other clauses)) :
    Run.Agree (changeCall index change) (changeCall index other) :=
  Run.agree_bind _ fun record => agree_ofOutcome_bind_eq (agree record.clauses) fun _ => Run.agree_refl _

section Calls

variable (respelled : arguments.Respelled (.ofMethod method) others) (same : SameBlock block other)

include respelled same

theorem agree_queryCall : Run.Agree (queryCall index method arguments block) (queryCall index method others other) := by
  have blocked : Option.Rel Run.Agree (blockCall? index method arguments block)
      (blockCall? index method others other) :=
    rel_blockCall? same respelled
  have changed := Clauses.rel_change? respelled
  have plain : Option.Rel Run.Agree (plainCall? index method arguments) (plainCall? index method others) :=
    rel_plainCall? respelled
  unfold queryCall
  generalize blockCall? index method arguments block = call at blocked
  generalize blockCall? index method others other = otherCall at blocked
  cases blocked with
  | some agree => exact agree
  | none =>
      cases readingCall? index method with
      | some call => exact agree_withoutArguments respelled same
      | none =>
          generalize Clauses.change? method arguments = change at changed
          generalize Clauses.change? method others = otherChange at changed
          generalize plainCall? index method arguments = call at plain
          generalize plainCall? index method others = otherCall at plain
          cases changed with
          | some agree =>
              cases same with
              | none => exact agree_changeCall agree
              | some => exact agree_throw
          | none =>
              cases plain with
              | none => exact agree_throw
              | some agree =>
                  cases same with
                  | none => exact agree
                  | some => exact agree_throw

theorem agree_groupCall : Run.Agree (groupCall index method arguments block) (groupCall index method others other) := by
  have changed := OptionalGroup.rel_change? respelled
  unfold groupCall
  apply Run.agree_bind
  intro store
  cases store.groups[index]? with
  | none => exact agree_throw
  | some group =>
      simp only
      generalize OptionalGroup.change? method arguments = change at changed
      generalize OptionalGroup.change? method others = otherChange at changed
      cases changed with
      | none =>
          split
          · contradiction
          all_goals exact Run.agree_refl _
      | some agree =>
          apply agree_unless same.isSome
          exact agree_ofOutcome_bind_eq (agree group) fun _ => Run.agree_refl _

theorem agree_operationCall :
    Run.Agree (operationCall index method arguments block) (operationCall index method others other) := by
  unfold operationCall
  apply Run.agree_bind
  intro store
  cases store.operations[index]? with
  | none => exact agree_throw
  | some operation =>
      simp only
      split
      case h_4 =>
        rw [Arguments.Respelled.eq_of_fixed respelled]
        exact agree_unless same.isSome (Run.agree_refl _)
      all_goals exact Run.agree_refl _

end Calls

/-! ## The client -/

theorem rel_boundQuery {client : Value} (respelled : arguments.Respelled (.ofMethod method) others) :
    Option.Rel Run.Agree (boundQuery client method arguments) (boundQuery client method others) := by
  have bound : Arguments.Respelled (.ofMethod method)
      { arguments with named := arguments.named ++ [("client", client)] }
      { others with named := others.named ++ [("client", client)] } :=
    ⟨respelled.positional, List.rel_append respelled.named (.cons ⟨rfl, .same⟩ .nil)⟩
  have made := rel_construct? bound
  have sameClient : (arguments.named? "client").isSome = (others.named? "client").isSome := by
    have named := respelled.named? "client"
    generalize arguments.named? "client" = given at named
    generalize others.named? "client" = given' at named
    cases named <;> rfl
  unfold boundQuery
  simp only
  generalize construct? method { arguments with named := arguments.named ++ [("client", client)] } = query at made
  generalize construct? method { others with named := others.named ++ [("client", client)] } = query' at made
  split
  · exact .none
  · cases made with
    | none => exact .none
    | some agree =>
        refine .some (agree_ite sameClient (Run.agree_refl _) ?_)
        exact agree_ofOutcome_bind_eq agree fun _ => Run.agree_refl _

/-- The arguments of a shortcut are for the same under the names of the operation. -/
theorem agree_shortcut {places kindPlaces : CallPlaces} {parameters : List Parameter}
    (respelled : arguments.Respelled places others)
    (atNames : parameters.map (fun parameter => places.named parameter.name) =
      (List.range parameters.length).map places.positional)
    (sameNames : ∀ parameter ∈ parameters, kindPlaces.named parameter.name = places.named parameter.name) :
    Agree (Arguments.Respelled kindPlaces) (shortcut arguments parameters) (shortcut others parameters) := by
  apply (respelled.bind atNames).bind
  intro values values' areRespelled
  refine .done ⟨.nil, areRespelled.zip fun index name found => ?_⟩
  rcases List.getElem?_eq_some_iff.mp found with ⟨isIndex, rfl⟩
  rw [List.length_map] at isIndex
  have atName := congrArg (·[index]?) atNames
  rw [List.getElem_map, sameNames _ (List.getElem_mem isIndex)]
  simpa [List.getElem?_eq_getElem isIndex, List.getElem?_range isIndex] using atName

/-- The shortcuts of the client make the same operation and send it. -/
theorem rel_shortcut? (respelled : arguments.Respelled (.ofMethod method) others) :
    Option.Rel Run.Agree (shortcut? method arguments) (shortcut? method others) := by
  have sent {kind : String} {parameters : List Parameter}
      (agree : Agree (Arguments.Respelled (.ofMethod kind)) (shortcut arguments parameters)
        (shortcut others parameters)) :
      Run.Agree (ofOutcome (shortcut arguments parameters) >>= sendNew kind)
        (ofOutcome (shortcut others parameters) >>= sendNew kind) := by
    apply agree_ofOutcome_bind agree
    intro given given' areRespelled
    exact agree_ofOutcome_bind_eq (UpdateOperation.agree_ofCall areRespelled) fun _ => Run.agree_refl _
  unfold shortcut?
  simp only
  split
  case h_1 | h_2 => exact .some (sent (agree_shortcut respelled rfl (by simp; decide)))
  case h_3 => exact .some (sent (agree_shortcut respelled rfl (by simp; decide)))
  case h_9 => exact .none
  all_goals
    rw [Arguments.Respelled.eq_of_fixed respelled]
    exact .some (Run.agree_refl _)

theorem agree_clientCall (respelled : arguments.Respelled (.ofMethod method) others) (same : SameBlock block other) :
    Run.Agree (clientCall method arguments block) (clientCall method others other) := by
  unfold clientCall
  apply Run.agree_bind
  intro store
  cases store.client with
  | none => exact agree_throw
  | some client =>
      simp only
      cases clientReading? method with
      | some read => exact Run.agree_refl _
      | none =>
          apply agree_unless same.isSome
          apply Run.agree_bind
          intro store
          have bound : Option.Rel Run.Agree (boundQuery store.clientValue method arguments)
            (boundQuery store.clientValue method others) := rel_boundQuery respelled
          have shortcuts := rel_shortcut? respelled
          generalize boundQuery store.clientValue method arguments = call at bound
          generalize boundQuery store.clientValue method others = otherCall at bound
          generalize shortcut? method arguments = call at shortcuts
          generalize shortcut? method others = otherCall at shortcuts
          cases bound with
          | some agree => exact agree
          | none =>
              cases shortcuts with
              | some agree => exact agree
              | none =>
                  split
                  case h_3 | h_4 =>
                    rw [Arguments.Respelled.eq_of_fixed respelled]
                    exact Run.agree_refl _
                  all_goals exact Run.agree_refl _

/-! ## Any call -/

section AnyCall

variable (respelled : arguments.Respelled (.ofMethod method) others) (same : SameBlock block other)

include respelled same

theorem agree_replyCall {reply : Reply} :
    Run.Agree (replyCall reply method arguments block) (replyCall reply method others other) := by
  unfold replyCall
  split
  · exact agree_queryCall respelled same
  · exact agree_groupCall respelled same
  · exact agree_operationCall respelled same
  · exact agree_clientCall respelled same
  all_goals exact Run.agree_refl _

theorem agree_receiverCall {receiver : Receiver} :
    Run.Agree (receiverCall receiver method arguments block) (receiverCall receiver method others other) := by
  cases receiver with
  | queries =>
      have made := rel_construct? respelled
      unfold receiverCall
      simp only
      generalize construct? method arguments = query at made
      generalize construct? method others = query' at made
      cases made with
      | none => exact Run.agree_refl _
      | some agree =>
          apply agree_unless same.isSome
          exact agree_ofOutcome_bind_eq agree fun _ => Run.agree_refl _
  | operations =>
      unfold receiverCall
      apply agree_unless
      · rw [same.isSome]
      · exact agree_ofOutcome_bind_eq (UpdateOperation.agree_ofCall respelled) fun _ => Run.agree_refl _
  | register name =>
      unfold receiverCall
      apply Run.agree_bind
      intro store
      cases store.register? name with
      | none => exact Run.agree_refl _
      | some reply => exact agree_replyCall respelled same

end AnyCall

end Session

end Sparql
