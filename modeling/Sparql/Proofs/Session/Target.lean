import Sparql.Proofs.Session.Kept
import Sparql.Proofs.Session.Script

/-!
# Calls that keep to their target

A call on a query or an optional part may have a block, which is handed this object or a new one and makes further
calls. As long as the block keeps to its own, that is to the target of the call and to objects made since, whatever
it does there, and whether the call fails or not, the call changes nothing else that the store held before.
-/

namespace Sparql

/-- The target of a call, or an object that was made since the call began. -/
def Store.IsOwn (base : Store) (target object : ObjectRef) : Prop := object = target ∨ base.Lacks object

namespace Session

/-! ## What a block keeps to -/

mutual

/-- A call on the target or on an object made since, if it is on an object at all. Its block keeps to these too. -/
def stepKeepsTo (base : Store) (target : ObjectRef) (store : Store) : Step → Prop
  | .call receiver _ _ _ block _ =>
    (∀ name, receiver = .register name → ∀ object, store.register? name = some (replyOf object) →
      base.IsOwn target object) ∧
    blockKeepsTo base target store block

/-- A block that keeps to the target and to objects made since, whichever of them it is handed. -/
def blockKeepsTo (base : Store) (target : ObjectRef) (store : Store) : Option (List Step) → Prop
  | none => True
  | some steps => ∀ object inner, base.Keeps [target] inner → inner.registers = store.registers →
    base.IsOwn target object → stepsKeepTo base target (inner.setRegister blockRegister (replyOf object)) steps

/-- Calls of which each that is made keeps to the target. -/
def stepsKeepTo (base : Store) (target : ObjectRef) (store : Store) : List Step → Prop
  | [] => True
  | step :: rest =>
    if step.isReady store then
      stepKeepsTo base target store step ∧ ∀ reply after,
        perform (runCall step) store = (.ok reply, after) → stepsKeepTo base target after rest
    else stepsKeepTo base target store rest

end

/-- A call on an object other than the client, whose block keeps to this object. -/
inductive ActsOn (store : Store) (target : ObjectRef) : Step → Prop
  | call {name method : String} {positional : List Expression} {named : List (String × Expression)}
      {block : Option (List Step)} {result : Option String} (notClient : target ≠ .client)
      (isTarget : store.register? name = some (replyOf target)) (inside : blockKeepsTo store target store block) :
      ActsOn store target (.call (.register name) method positional named block result)

end Session

/-! ## Steps on one object -/

namespace Store

variable {base store after : Store} {target object : ObjectRef}

theorem Keeps.act (keeps : base.Keeps [target] store) (own : base.IsOwn target object)
    (acted : store.Keeps [object] after) : base.Keeps [target] after := by
  apply keeps.trans acted
  simpa [IsOwn] using own

/-- Nothing that is only added, and no exchange, changes an object. -/
theorem Keeps.quiet (keeps : base.Keeps [target] store) (quiet : store.Keeps [] after) : base.Keeps [target] after :=
  keeps.trans quiet (by simp)

theorem Exchanged.keeps (exchanged : store.Exchanged after) : store.Keeps [] after := by
  cases exchanged <;> exact ⟨⟨le_rfl, le_rfl, le_rfl⟩, fun _ _ found _ => found, fun _ _ found _ => found,
    fun _ _ found _ => found⟩

theorem keeps_setOperation {index : Nat} {operation : UpdateOperation} :
    store.Keeps [.operation index] { store with operations := store.operations.set index operation } where
  grows := ⟨le_rfl, le_rfl, by simp⟩
  queries _ _ found _ := found
  groups _ _ found _ := found
  operations other _ found kept := by
    have different : index ≠ other := fun same => kept (same ▸ .head _)
    simp [different, found]

theorem keeps_addOperation {operation : UpdateOperation} :
    store.Keeps [] { store with operations := store.operations ++ [operation] } where
  grows := ⟨le_rfl, le_rfl, by simp⟩
  queries _ _ found _ := found
  groups _ _ found _ := found
  operations index _ found _ := by
    rw [List.getElem?_append_left (List.getElem?_eq_some_iff.mp found).1, found]

/-- What a store does not hold, it did not hold before. -/
theorem Keeps.isOwn (keeps : base.Keeps [target] store) (lacks : store.Lacks object) : base.IsOwn target object :=
  .inr fun has => lacks (has.mono keeps.grows)

end Store

namespace Session

variable {base store : Store} {target : ObjectRef} {block : Option Block} {arguments : Arguments} {method : String}

/-! ## Calls -/

/-- A block that changes nothing but what is its own. -/
def Block.KeepsTo (run : Block) (base : Store) (target : ObjectRef) (store : Store) : Prop :=
  ∀ object inner, base.Keeps [target] inner → inner.registers = store.registers → base.IsOwn target object →
    base.Keeps [target] (perform (run object) inner).2

/-- A call on a query of its own keeps to its target step by step. -/
theorem keptByBlock_keeps {index : Nat} (keeps : base.Keeps [target] store) (own : base.IsOwn target (.query index))
    (inside : ∀ run, block = some run → run.KeepsTo base target store) :
    KeptByBlock index arguments block store (base.Keeps [target]) := by
  refine ⟨⟨?_, ?_⟩, ?_, ?_⟩
  · intro inner record _ kept
    exact kept.quiet (Store.spares_addQuery record).keeps
  · intro inner changed change _ kept isOwn
    refine kept.act ?_ (Store.keeps_changeQuery (.head _))
    rcases isOwn with rfl | new
    · exact own
    · exact keeps.isOwn (Nat.not_lt.mpr new)
  · intro inner group _ kept
    exact kept.quiet (Store.spares_addGroup group).keeps
  · intro inner run object given kept sameRegisters isOwn
    refine inside run given object inner kept sameRegisters ?_
    rcases isOwn with rfl | new
    · exact own
    · exact keeps.isOwn new

theorem keeps_replyCall {reply : Reply} (notClient : target ≠ .client) (keeps : base.Keeps [target] store)
    (own : ∀ object, reply = replyOf object → base.IsOwn target object)
    (inside : ∀ run, block = some run → run.KeepsTo base target store) :
    Ends (replyCall reply method arguments block) store (base.Keeps [target])
      fun after _ => base.Keeps [target] after := by
  cases reply with
  | query index =>
      apply (keptByBlock_keeps keeps (own _ rfl) inside).of_queryCall keeps
      intro inner after kept exchanged
      exact kept.quiet exchanged.keeps
  | group index =>
      apply ends_groupCall keeps
      intro group _
      exact keeps.act (own _ rfl) (Store.spares_changeGroup (.head _)).keeps
  | operation index =>
      apply ends_operationCall keeps
      intro operation
      exact keeps.act (own _ rfl) Store.keeps_setOperation
  | client =>
      rcases own .client rfl with isTarget | lacks
      · exact absurd isTarget.symm notClient
      · exact absurd trivial lacks
  | text _ | truth _ =>
      unfold replyCall
      split
      all_goals first
        | exact ends_pure keeps
        | exact ends_fault keeps
        | contradiction
  | cacheKey _ | result _ | solutions _ | statements _ => exact ends_fault keeps

/-! ## Scripted calls -/

mutual

/-- A call that keeps to the target changes nothing else, whatever its block does there. -/
theorem keeps_runCall (step : Step) (store : Store) (notClient : target ≠ .client)
    (keeps : base.Keeps [target] store) (keepsTo : stepKeepsTo base target store step) :
    Ends (runCall step) store (base.Keeps [target]) fun after _ => base.Keeps [target] after := by
  cases step with
  | call receiver method positional named block result =>
      simp only [stepKeepsTo] at keepsTo
      rcases keepsTo with ⟨own, inside⟩
      apply ends_runCall_of_receiverCall keeps
      · exact fun _ _ _ _ kept => kept.quiet (Store.spares_registers _).keeps
      intro arguments _
      apply ends_receiverCall keeps
      · exact fun record _ => keeps.quiet (Store.spares_addQuery record).keeps
      · exact fun _ => keeps.quiet Store.keeps_addOperation
      rintro name reply rfl found
      apply keeps_replyCall notClient keeps _ (keeps_runBlock block store notClient inside)
      rintro object rfl
      exact own name rfl object found

theorem keeps_runBlock (block : Option (List Step)) (store : Store) (notClient : target ≠ .client)
    (keepsTo : blockKeepsTo base target store block) (run : Block) (isRun : runBlock block = some run) :
    run.KeepsTo base target store := by
  cases block with
  | none => cases isRun
  | some steps =>
      cases isRun
      intro object inner keeps sameRegisters own
      simp only [blockKeepsTo] at keepsTo
      have handed := keepsTo object inner keeps sameRegisters own
      have entered : base.Keeps [target] (inner.setRegister blockRegister (replyOf object)) :=
        keeps.quiet (Store.spares_registers _).keeps
      apply Ends.after
      apply ends_withBlockRegister _ (keeps_runAll steps _ notClient entered handed)
      intro after registers kept
      exact kept.quiet (Store.spares_registers registers).keeps

theorem keeps_runAll (steps : List Step) (store : Store) (notClient : target ≠ .client)
    (keeps : base.Keeps [target] store) (keepsTo : stepsKeepTo base target store steps) :
    Ends (runAll steps) store (base.Keeps [target]) fun after _ => base.Keeps [target] after := by
  cases steps with
  | nil => exact ends_pure keeps
  | cons step rest =>
      simp only [stepsKeepTo] at keepsTo
      refine ends_get_bind ?_
      split at keepsTo
      · next isReady =>
          rw [if_pos isReady]
          rcases keepsTo with ⟨first, later⟩
          apply ends_bind (keeps_runCall step store notClient keeps first).with_performed
          rintro reply after ⟨performed, kept⟩
          exact keeps_runAll rest after notClient kept (later reply after performed)
      · next notReady =>
          rw [if_neg notReady]
          exact keeps_runAll rest store notClient keeps keepsTo

end

/-! ## Blocks on what they are handed -/

mutual

/-- A call on what a block is handed, which leaves this in its register. -/
def stepIsOnHanded : Step → Bool
  | .call receiver _ _ _ block result =>
    receiver = .register blockRegister && result ≠ some blockRegister && blockIsOnHanded block

def blockIsOnHanded : Option (List Step) → Bool
  | none => true
  | some steps => stepsAreOnHanded steps

def stepsAreOnHanded : List Step → Bool
  | [] => true
  | step :: rest => stepIsOnHanded step && stepsAreOnHanded rest

end

theorem replyOf_injective {first second : ObjectRef} (same : replyOf first = replyOf second) : first = second := by
  cases first <;> cases second <;> cases same <;> rfl

theorem register?_setRegister (name : String) (reply : Reply) :
    (store.setRegister name reply).register? name = some reply := by
  simp [Store.register?, Store.setRegister]

theorem register?_setRegister_of_ne {name other : String} {reply : Reply} (isOther : other ≠ name) :
    (store.setRegister other reply).register? name = store.register? name := by
  have same : (fun entry : String × Reply => !decide (entry.1 = other) && decide (entry.1 = name)) =
      fun entry => decide (entry.1 = name) := by
    funext entry
    by_cases isName : entry.1 = name
    · simp [isName, isOther.symm]
    · simp [isName]
  simp [Store.register?, Store.setRegister, isOther, List.find?_filter, same]

/-- After a block the register of blocks is as it was. -/
theorem register?_withBlockRegister {object : ObjectRef} {run : Session Unit} :
    (perform (withBlockRegister object run) store).2.register? blockRegister = store.register? blockRegister := by
  have restored (after : Store) :
      (after.restoreRegister blockRegister (store.register? blockRegister)).register? blockRegister =
        store.register? blockRegister := by
    rcases store.register? blockRegister with _ | reply
    · simp [Store.register?, Store.restoreRegister]
    · exact register?_setRegister blockRegister reply
  unfold withBlockRegister
  rw [perform_bind_ok (perform_get store), perform_bind_ok (perform_modify _ _), perform_tryFinally]
  exact restored _

section Handed

variable {object : ObjectRef} (isObject : object ≠ .client)
include isObject

/-- A block that makes its calls on what it is handed finds it in its register at every call. -/
theorem handed_runCall {step : Step} (isOn : stepIsOnHanded step)
    (held : store.register? blockRegister = some (replyOf object)) :
    Ends (runCall step) store (fun after => after.register? blockRegister = some (replyOf object))
      fun after _ => after.register? blockRegister = some (replyOf object) := by
  rcases step with ⟨receiver, method, positional, named, block, result⟩
  simp only [stepIsOnHanded, Bool.and_eq_true, decide_eq_true_eq] at isOn
  rcases isOn with ⟨⟨rfl, notReplaced⟩, _⟩
  apply ends_runCall_of_receiverCall held
  · rintro inner name reply rfl held
    rw [register?_setRegister_of_ne (fun same => notReplaced (by rw [same]))]
    exact held
  intro arguments _
  apply ends_receiverCall held (fun _ _ => held) fun _ => held
  rintro name reply ⟨⟩ found
  cases held.symm.trans found
  cases object with
  | query index =>
      have kept : KeptByBlock index arguments (runBlock block) store
          fun after => after.register? blockRegister = some (replyOf (.query index)) := by
        refine ⟨⟨fun _ _ _ held => held, fun _ _ _ _ held _ => held⟩, fun _ _ _ held => held, ?_⟩
        intro inner run handed isRun held _ _
        cases block with
        | none => cases isRun
        | some steps =>
            cases isRun
            exact register?_withBlockRegister.trans held
      apply kept.of_queryCall held
      intro inner after held exchanged
      cases exchanged <;> exact held
  | group index => exact ends_groupCall held fun _ _ => held
  | operation index => exact ends_operationCall held fun _ => held
  | client => exact absurd rfl isObject

end Handed

mutual

/-- A block that makes all its calls on what it is handed keeps to the target, whatever else the session holds. -/
theorem stepKeepsTo_of_isOnHanded (step : Step) {store : Store} {object : ObjectRef} (notClient : target ≠ .client)
    (isOn : stepIsOnHanded step) (held : store.register? blockRegister = some (replyOf object))
    (own : base.IsOwn target object) : stepKeepsTo base target store step := by
  cases step with
  | call receiver method positional named block result =>
      simp only [stepIsOnHanded, Bool.and_eq_true, decide_eq_true_eq] at isOn
      rcases isOn with ⟨⟨rfl, _⟩, inside⟩
      simp only [stepKeepsTo]
      refine ⟨?_, blockKeepsTo_of_isOnHanded block notClient inside⟩
      rintro name ⟨⟩ other found
      rwa [replyOf_injective (Option.some.inj (found.symm.trans held))]

theorem blockKeepsTo_of_isOnHanded (block : Option (List Step)) {store : Store} (notClient : target ≠ .client)
    (isOn : blockIsOnHanded block) : blockKeepsTo base target store block := by
  cases block with
  | none => simp only [blockKeepsTo]
  | some steps =>
      simp only [blockKeepsTo]
      intro object inner _ _ own
      exact stepsKeepTo_of_areOnHanded steps notClient isOn (register?_setRegister _ _) own

theorem stepsKeepTo_of_areOnHanded (steps : List Step) {store : Store} {object : ObjectRef}
    (notClient : target ≠ .client) (areOn : stepsAreOnHanded steps)
    (held : store.register? blockRegister = some (replyOf object)) (own : base.IsOwn target object) :
    stepsKeepTo base target store steps := by
  cases steps with
  | nil => simp only [stepsKeepTo]
  | cons step rest =>
      simp only [stepsAreOnHanded, Bool.and_eq_true] at areOn
      have isObject : object ≠ .client := by
        rintro rfl
        rcases own with isTarget | lacks
        · exact notClient isTarget.symm
        · exact lacks trivial
      simp only [stepsKeepTo]
      split
      · refine ⟨stepKeepsTo_of_isOnHanded step notClient areOn.1 held own, ?_⟩
        intro reply after performed
        have still := (handed_runCall isObject areOn.1 held).of_ok performed
        exact stepsKeepTo_of_areOnHanded rest notClient areOn.2 still own
      · exact stepsKeepTo_of_areOnHanded rest notClient areOn.2 held own

end

/-! ## Calls on an object -/

/-- A call on an object whose block makes all its calls on what it is handed. -/
theorem actsOn_of_isOnHanded {name : String} {positional : List Expression} {named : List (String × Expression)}
    {block : Option (List Step)} {result : Option String} (notClient : target ≠ .client)
    (isTarget : store.register? name = some (replyOf target)) (isOn : blockIsOnHanded block) :
    ActsOn store target (.call (.register name) method positional named block result) :=
  .call notClient isTarget (blockKeepsTo_of_isOnHanded block notClient isOn)

/-- A call on an object changes nothing else that the store holds. -/
theorem ActsOn.keeps {step : Step} (acts : ActsOn store target step) :
    store.Keeps [target] (perform (runCall step) store).2 := by
  cases acts with
  | call notClient isTarget inside =>
      refine (keeps_runCall _ store notClient (Store.Spares.refl store).keeps ?_).after
      simp only [stepKeepsTo]
      refine ⟨?_, inside⟩
      rintro name ⟨⟩ object found
      exact .inl (replyOf_injective (Option.some.inj (found.symm.trans isTarget)))

end Session

end Sparql
