import Sparql.Proofs.Session.Calls

/-!
# What a call spares

A call that builds acts on one object. Whatever its arguments are and however it ends, it changes nothing else
that the store held before; and most calls change that one object at their very end only, so that a call which
fails changes nothing at all. New objects may have been made on the way. A call with a block spares what the
block spares, and the object that the block is handed is new.
-/

namespace Sparql

namespace Store

/-- An object of a session that can be built on and that nothing executes. -/
def Unbound (store : Store) : ObjectRef → Prop
  | .query index => ∃ record, store.queries[index]? = some record ∧ record.binding = .null
  | .group index => index < store.groups.length
  | .operation _ | .client => False

/-- Later on every query, optional part and operation that the store holds is as it was, but perhaps the listed
objects. Nothing is said of the client. -/
structure Keeps (changed : List ObjectRef) (store after : Store) : Prop where
  grows : store.Grows after
  queries : ∀ (index : Nat) (record : QueryRecord), store.queries[index]? = some record →
    .query index ∉ changed → after.queries[index]? = some record
  groups : ∀ (index : Nat) (group : OptionalGroup), store.groups[index]? = some group →
    .group index ∉ changed → after.groups[index]? = some group
  operations : ∀ (index : Nat) (operation : UpdateOperation), store.operations[index]? = some operation →
    .operation index ∉ changed → after.operations[index]? = some operation

/-- Later on nothing that the store holds is changed, but perhaps the listed objects. What a query is bound to
stays the same. -/
structure Spares (changed : List ObjectRef) (store after : Store) : Prop where
  grows : store.Grows after
  queries : ∀ (index : Nat) (record : QueryRecord), store.queries[index]? = some record →
    .query index ∉ changed → after.queries[index]? = some record
  groups : ∀ (index : Nat) (group : OptionalGroup), store.groups[index]? = some group →
    .group index ∉ changed → after.groups[index]? = some group
  bindings : ∀ (index : Nat) (record later : QueryRecord), store.queries[index]? = some record →
    after.queries[index]? = some later → later.binding = record.binding
  operations : after.operations = store.operations
  client : after.client = store.client
  wire : after.wire = store.wire

variable {store middle after : Store} {changed more : List ObjectRef}

theorem Spares.refl (store : Store) : Spares changed store store where
  grows := .refl store
  queries _ _ found _ := found
  groups _ _ found _ := found
  bindings _ _ _ found later := by rw [Option.some.inj (found.symm.trans later)]
  operations := rfl
  client := rfl
  wire := rfl

/-- What changes fewer objects changes no others. -/
theorem Spares.mono (spares : Spares changed store after) (among : changed ⊆ more) :
    Spares more store after :=
  { spares with
    queries := fun index record found spared =>
      spares.queries index record found fun mem => spared (among mem)
    groups := fun index group found spared =>
      spares.groups index group found fun mem => spared (among mem) }

theorem exists_query (grows : store.Grows after) {index : Nat} {record : QueryRecord}
    (found : store.queries[index]? = some record) : ∃ later, after.queries[index]? = some later := by
  have known := (List.getElem?_eq_some_iff.mp found).1
  exact ⟨_, List.getElem?_eq_getElem (known.trans_le grows.queries)⟩

theorem Spares.keeps (spares : Spares changed store after) : Keeps changed store after where
  grows := spares.grows
  queries := spares.queries
  groups := spares.groups
  operations _ _ found _ := by rw [spares.operations, found]

/-- What is changed later is among the listed objects, or the first store does not hold it. -/
theorem Keeps.trans (first : Keeps changed store middle) (second : Keeps more middle after)
    (among : ∀ object ∈ more, object ∈ changed ∨ store.Lacks object) : Keeps changed store after where
  grows := first.grows.trans second.grows
  queries index record found kept := by
    refine second.queries index record (first.queries index record found kept) fun mem => ?_
    rcases among _ mem with listed | new
    · exact kept listed
    · exact new (List.getElem?_eq_some_iff.mp found).1
  groups index group found kept := by
    refine second.groups index group (first.groups index group found kept) fun mem => ?_
    rcases among _ mem with listed | new
    · exact kept listed
    · exact new (List.getElem?_eq_some_iff.mp found).1
  operations index operation found kept := by
    refine second.operations index operation (first.operations index operation found kept) fun mem => ?_
    rcases among _ mem with listed | new
    · exact kept listed
    · exact new (List.getElem?_eq_some_iff.mp found).1

theorem Spares.trans (first : Spares changed store middle) (second : Spares more middle after)
    (among : ∀ object ∈ more, object ∈ changed ∨ store.Lacks object) : Spares changed store after := by
  have keeps := first.keeps.trans second.keeps among
  refine ⟨keeps.grows, keeps.queries, keeps.groups, ?_, ?_, ?_, ?_⟩
  · intro index record later found foundLater
    rcases exists_query first.grows found with ⟨between, foundBetween⟩
    rw [second.bindings index between later foundBetween foundLater,
      first.bindings index record between found foundBetween]
  · exact second.operations.trans first.operations
  · exact second.client.trans first.client
  · exact second.wire.trans first.wire

theorem Spares.trans_same (first : Spares changed store middle) (second : Spares changed middle after) :
    Spares changed store after :=
  first.trans second fun _ mem => .inl mem

/-- An object to build on stays one. -/
theorem Spares.unbound (spares : Spares changed store after) {object : ObjectRef}
    (unbound : store.Unbound object) : after.Unbound object := by
  cases object with
  | query index =>
      rcases unbound with ⟨record, found, isNull⟩
      rcases exists_query spares.grows found with ⟨later, foundLater⟩
      exact ⟨later, foundLater, (spares.bindings index record later found foundLater).trans isNull⟩
  | group index => exact Nat.lt_of_lt_of_le unbound spares.grows.groups
  | operation _ | client => exact unbound

/-! ## Changes -/

theorem spares_addQuery (record : QueryRecord) :
    Spares changed store { store with queries := store.queries ++ [record] } where
  grows := ⟨by simp, le_rfl, le_rfl⟩
  queries index _ found _ := by
    rw [List.getElem?_append_left (List.getElem?_eq_some_iff.mp found).1, found]
  groups _ _ found _ := found
  bindings index record later found foundLater := by
    rw [List.getElem?_append_left (List.getElem?_eq_some_iff.mp found).1, found] at foundLater
    rw [Option.some.inj foundLater]
  operations := rfl
  client := rfl
  wire := rfl

theorem spares_addGroup (group : OptionalGroup) :
    Spares changed store { store with groups := store.groups ++ [group] } where
  grows := ⟨le_rfl, by simp, le_rfl⟩
  queries _ _ found _ := found
  groups index _ found _ := by
    rw [List.getElem?_append_left (List.getElem?_eq_some_iff.mp found).1, found]
  bindings _ _ _ found later := by rw [Option.some.inj (found.symm.trans later)]
  operations := rfl
  client := rfl
  wire := rfl

theorem keeps_changeQuery {index : Nat} {change : QueryRecord → QueryRecord} (listed : .query index ∈ changed) :
    Keeps changed store { store with queries := store.queries.modify index change } where
  grows := ⟨by simp, le_rfl, le_rfl⟩
  queries other record found kept := by
    have different : index ≠ other := fun same => kept (same ▸ listed)
    simp [different, found]
  groups _ _ found _ := found
  operations _ _ found _ := found

theorem spares_changeQuery {index : Nat} {change : QueryRecord → QueryRecord}
    (sameBinding : ∀ record, (change record).binding = record.binding) (listed : .query index ∈ changed) :
    Spares changed store { store with queries := store.queries.modify index change } where
  grows := (keeps_changeQuery listed).grows
  queries := (keeps_changeQuery listed).queries
  groups _ _ found _ := found
  bindings other record later found foundLater := by
    rw [List.getElem?_modify, found] at foundLater
    cases foundLater
    split <;> simp [sameBinding]
  operations := rfl
  client := rfl
  wire := rfl

theorem spares_changeGroup {index : Nat} {change : OptionalGroup → OptionalGroup}
    (listed : .group index ∈ changed) :
    Spares changed store { store with groups := store.groups.modify index change } where
  grows := ⟨le_rfl, by simp, le_rfl⟩
  queries _ _ found _ := found
  groups other group found spared := by
    have different : index ≠ other := fun same => spared (same ▸ listed)
    simp [different, found]
  bindings _ _ _ found later := by rw [Option.some.inj (found.symm.trans later)]
  operations := rfl
  client := rfl
  wire := rfl

theorem spares_registers (registers : List (String × Reply)) :
    Spares changed store { store with registers } where
  grows := ⟨le_rfl, le_rfl, le_rfl⟩
  queries _ _ found _ := found
  groups _ _ found _ := found
  bindings _ _ _ found later := by rw [Option.some.inj (found.symm.trans later)]
  operations := rfl
  client := rfl
  wire := rfl

end Store

namespace Session

variable {α β : Type} {store : Store} {gives : Store → α → Prop}

/-! ## Calls on one object -/

variable {index : Nat} {arguments : Arguments} {changed : List ObjectRef}

/-- A call on an object that changes it last, so that it is unchanged when the call fails. Some other objects
may be changed in either case. -/
def ChangesLast (call : Session α) (object : ObjectRef) (changed : List ObjectRef) (store : Store) : Prop :=
  Ends call store (Store.Spares changed store) fun after _ => Store.Spares (object :: changed) store after

/-- A call that changes no object but those listed, however it ends. -/
def Changes (call : Session α) (changed : List ObjectRef) (store : Store) : Prop :=
  Ends call store (Store.Spares changed store) fun after _ => Store.Spares changed store after

theorem ChangesLast.changes {call : Session α} {object : ObjectRef}
    (changesLast : ChangesLast call object changed store) (listed : object ∈ changed) :
    Changes call changed store :=
  changesLast.mono (fun _ spares => spares) fun _ _ spares =>
    spares.mono (List.cons_subset.mpr ⟨listed, fun _ mem => mem⟩)

/-- The last thing that a call does is to change a query. -/
theorem ends_changeQuery_pure {middle : Store} {change : QueryRecord → QueryRecord} {value : α}
    (spares : Store.Spares changed store middle)
    (sameBinding : ∀ record, (change record).binding = record.binding) :
    Ends (do changeQuery index change; return value) middle (Store.Spares changed store)
      fun after _ => Store.Spares (.query index :: changed) store after := by
  have among : changed ⊆ .query index :: changed := List.subset_cons_self _ _
  have last : Ends (changeQuery index change) middle (Store.Spares changed store)
      fun after _ => Store.Spares (.query index :: changed) store after :=
    ends_modify ((spares.mono among).trans_same (Store.spares_changeQuery sameBinding (.head _)))
  exact ends_bind last fun _ _ spares => ends_pure spares

theorem ends_addPatterns {values : List Value} :
    Ends (addPatterns index values) store (Store.Spares changed store) fun after _ =>
      Store.Spares (.query index :: changed) store after ∧ after.registers = store.registers :=
  ends_ofOutcome_bind (.refl store) fun _ _ =>
    ends_modify ⟨Store.spares_changeQuery (fun _ => rfl) (.head _), rfl⟩

theorem changesLast_changeCall {change : Clauses → Outcome Clauses} :
    ChangesLast (changeCall index change) (.query index) changed store :=
  ends_query_bind (.refl store) fun _ _ =>
    ends_ofOutcome_bind (.refl store) fun _ _ => ends_changeQuery_pure (.refl store) fun _ => rfl

theorem changesLast_subqueryCall :
    ChangesLast (subqueryCall index arguments) (.query index) changed store := by
  refine ends_ofOutcome_bind (.refl store) fun _ _ => ends_ofOutcome_bind (.refl store) fun clauses _ => ?_
  exact ends_addQuery_bind (ends_changeQuery_pure (Store.spares_addQuery { clauses }) fun _ => rfl)

theorem changesLast_groupCall {name : String} {block : Option Block} :
    ChangesLast (groupCall index name arguments block) (.group index) changed store := by
  refine ends_get_bind ?_
  split
  · split
    · refine ends_unless (.refl store) (ends_ofOutcome_bind (.refl store) fun group _ => ?_)
      have last : ChangesLast (changeGroup index fun _ => group) (.group index) changed store :=
        ends_modify (Store.spares_changeGroup (.head _))
      exact ends_bind last fun _ _ spares => ends_pure spares
    · exact ends_pure (.refl store)
    · exact ends_pure (.refl store)
    · exact ends_fault (.refl store)
  · exact ends_fault (.refl store)

/-! ## Calls with a block -/

/-- What a block may be handed by a call: an object to build on that is new, or one of those that may be
changed anyway. -/
structure IsHanded (changed : List ObjectRef) (store : Store) (object : ObjectRef) (inner : Store) :
    Prop where
  spares : Store.Spares changed store inner
  unbound : inner.Unbound object
  fresh : object ∈ changed ∨ ¬ store.Has (replyOf object)
  registers : inner.registers = store.registers

/-- A block that changes what it is handed, and other objects only if they may be changed anyway. -/
def Block.IsConfined (block : Block) (changed : List ObjectRef) (store : Store) : Prop :=
  ∀ object inner, IsHanded changed store object inner → Changes (block object) (object :: changed) inner

theorem blockOf_isConfined {given : Option Block} {named : Value} {block : Block}
    (confined : ∀ run, given = some run → run.IsConfined changed store)
    (chosen : blockOf given named = some block) : block.IsConfined changed store := by
  unfold blockOf at chosen
  split at chosen
  · exact confined _ chosen
  · cases chosen
  · cases chosen
    exact fun _ inner _ => ends_fault (.refl inner)

theorem IsHanded.spares_trans {object : ObjectRef} {inner after : Store}
    (handed : IsHanded changed store object inner)
    (spares : Store.Spares (object :: changed) inner after) : Store.Spares changed store after :=
  handed.spares.trans spares fun each mem => by
    rcases List.mem_cons.mp mem with rfl | listed
    · exact handed.fresh
    · exact .inl listed

/-- A new query is what a block may be handed. -/
theorem isHanded_addQuery :
    IsHanded changed store (.query store.queries.length)
      { store with queries := store.queries ++ [selectAll] } where
  spares := Store.spares_addQuery selectAll
  unbound := ⟨selectAll, by simp, rfl⟩
  fresh := .inr (Nat.lt_irrefl _)
  registers := rfl

theorem isHanded_addGroup (group : OptionalGroup) :
    IsHanded changed store (.group store.groups.length)
      { store with groups := store.groups ++ [group] } where
  spares := Store.spares_addGroup group
  unbound := by simp [Store.Unbound]
  fresh := .inr (Nat.lt_irrefl _)
  registers := rfl

/-- A call that runs a block, if there is one, on what it hands it, and then goes on. -/
theorem ends_block {block : Option Block} {object : ObjectRef} {inner : Store} {rest : Unit → Session α}
    (confined : ∀ run, block = some run → run.IsConfined changed store)
    (handed : IsHanded changed store object inner)
    (ends : ∀ after, Store.Spares changed store after →
      Ends (rest ()) after (Store.Spares changed store) gives) :
    Ends (match block with
      | some block => block object >>= rest
      | none => rest ()) inner (Store.Spares changed store) gives := by
  cases block with
  | none => exact ends inner handed.spares
  | some run =>
      have ran := (confined run rfl object inner handed).mono (fun _ => handed.spares_trans)
        fun _ _ => handed.spares_trans
      exact ends_bind ran fun _ => ends

theorem changesLast_optionalCall {block : Option Block}
    (confined : ∀ run, block = some run → run.IsConfined changed store) :
    ChangesLast (optionalCall index arguments block) (.query index) changed store := by
  refine ends_ofOutcome_bind (.refl store) fun _ _ => ends_ofOutcome_bind (.refl store) fun patterns _ => ?_
  exact ends_block (fun _ => blockOf_isConfined confined) (isHanded_addGroup { patterns })
    fun after spares => ends_changeQuery_pure spares fun _ => rfl

/-- The queries of a clause are those given, or a new one. -/
theorem changes_branches {clause : BranchClause} {values : List Value} {block : Option Block}
    (confined : ∀ run, block = some run → run.IsConfined changed store) :
    Changes (branches clause values block) changed store := by
  have fresh : IsHanded changed store (.query store.queries.length) _ := isHanded_addQuery
  unfold branches
  split
  case h_1 run =>
      refine ends_unless (.refl store) ?_
      have ran := (confined run rfl _ _ fresh).mono (fun _ => fresh.spares_trans)
        fun _ _ => fresh.spares_trans
      exact ends_addQuery_bind (ends_bind ran fun _ _ spares => ends_pure spares)
  case h_2 =>
      refine ends_unless (.refl store) ?_
      split
      · exact ends_pure (.refl store)
      · refine ends_unless (.refl store) (ends_addQuery_bind ?_)
        refine ends_bind (ends_addPatterns.mono (fun _ => fresh.spares.trans_same)
          fun _ _ ⟨spares, _⟩ => fresh.spares_trans spares) fun _ _ spares => ends_pure spares

theorem changesLast_unionCall {block : Option Block}
    (confined : ∀ run, block = some run → run.IsConfined changed store) :
    ChangesLast (unionCall index arguments block) (.query index) changed store :=
  ends_ofOutcome_bind (.refl store) fun _ _ =>
    ends_bind (changes_branches fun _ => blockOf_isConfined confined) fun _ _ spares =>
      ends_changeQuery_pure spares fun _ => rfl

theorem changesLast_minusCall {block : Option Block}
    (confined : ∀ run, block = some run → run.IsConfined changed store) :
    ChangesLast (minusCall index arguments block) (.query index) changed store :=
  ends_ofOutcome_bind (.refl store) fun _ _ =>
    ends_bind (changes_branches fun _ => blockOf_isConfined confined) fun _ _ spares =>
      ends_changeQuery_pure spares fun _ => rfl

theorem changesLast_serviceCall {block : Option Block}
    (confined : ∀ run, block = some run → run.IsConfined changed store) :
    ChangesLast (serviceCall index arguments block) (.query index) changed store := by
  refine ends_ofOutcome_bind (.refl store) fun _ _ => ends_ofOutcome_bind (.refl store) fun _ _ => ?_
  split
  · refine ends_ofOutcome_bind (.refl store) fun resource _ => ?_
    refine ends_bind (changes_branches fun _ => blockOf_isConfined confined) fun _ _ spares => ?_
    split
    · exact ends_changeQuery_pure spares fun _ => rfl
    · exact ends_refuse spares
  · exact ends_fault (.refl store)

/-- Patterns and sub-queries alone are added last; a block may fail after that. -/
theorem changesLast_whereCall
    (noBlock : ∀ named, arguments.options [blockParameter] = .ok named → named.headD .null = .null) :
    ChangesLast (whereCall index arguments none) (.query index) changed store := by
  refine ends_ofOutcome_bind (.refl store) fun named done => ?_
  rw [noBlock named done]
  exact ends_bind ends_addPatterns fun _ _ spares => ends_pure spares.1

theorem changes_whereCall {block : Option Block} (unbound : store.Unbound (.query index))
    (listed : .query index ∈ changed) (confined : ∀ run, block = some run → run.IsConfined changed store) :
    Changes (whereCall index arguments block) changed store := by
  refine ends_ofOutcome_bind (.refl store) fun _ _ => ?_
  refine ends_bind ends_addPatterns fun _ inner ⟨added, sameRegisters⟩ => ?_
  have spares := added.mono (List.cons_subset.mpr ⟨listed, fun _ mem => mem⟩)
  exact ends_block (fun _ => blockOf_isConfined confined)
    ⟨spares, spares.unbound unbound, .inl listed, sameRegisters⟩ fun _ spares => ends_pure spares

/-! ## Other calls on a query -/

/-- What follows a part that changes the listed objects may change them too. -/
theorem Changes.bind {run : Session α} {rest : α → Session β} (first : Changes run changed store)
    (second : ∀ value after, Store.Spares changed store after → Changes (rest value) changed after) :
    Changes (run >>= rest) changed store := by
  refine ends_bind first fun value after spares => ?_
  exact (second value after spares).mono (fun _ => spares.trans_same) fun _ _ => spares.trans_same

/-- The steps of a call spare what the call does not act on. -/
theorem keptBySteps_spares (listed : .query index ∈ changed) :
    KeptBySteps index arguments store (Store.Spares changed store) where
  queryAdded inner record _ spares := spares.trans_same (Store.spares_addQuery record)
  queryChanged inner target change sourced spares own := by
    have last : Store.Spares [.query target] inner _ := Store.spares_changeQuery sourced.binding (.head _)
    refine spares.trans last fun object mem => ?_
    obtain rfl := List.mem_singleton.mp mem
    rcases own with rfl | new
    · exact .inl listed
    · exact .inr (Nat.not_lt.mpr new)

/-- A query that nothing executes is not sent. -/
theorem changes_execute (unbound : store.Unbound (.query index)) : Changes (execute index) changed store := by
  rcases unbound with ⟨bound, isBound, isNull⟩
  refine ends_query_bind (.refl store) fun record found => ?_
  obtain rfl : record = bound := Option.some.inj (found.symm.trans isBound)
  rw [isNull]
  cases record.result with
  | some result => exact ends_pure (.refl store)
  | none => exact ends_refuse (.refl store)

theorem changes_blockCall {name : String} {block : Option Block} {call : Session Reply}
    (unbound : store.Unbound (.query index)) (listed : .query index ∈ changed)
    (confined : ∀ run, block = some run → run.IsConfined changed store)
    (named : blockCall? index name arguments block = some call) : Changes call changed store := by
  unfold blockCall? at named
  split at named <;> cases named
  · exact changes_whereCall unbound listed confined
  · exact changes_whereCall unbound listed confined
  · exact (changesLast_optionalCall confined).changes listed
  · exact (changesLast_unionCall confined).changes listed
  · exact (changesLast_minusCall confined).changes listed
  · exact (changesLast_serviceCall confined).changes listed

/-- Any call on a query that nothing executes changes no other object. -/
theorem changes_queryCall {name : String} {block : Option Block} (unbound : store.Unbound (.query index))
    (listed : .query index ∈ changed) (confined : ∀ run, block = some run → run.IsConfined changed store) :
    Changes (queryCall index name arguments block) changed store := by
  rcases isView : executingView? name with _ | view
  · rcases hasBlock : blockCall? index name arguments block with _ | call
    · exact (keptBySteps_spares listed).of_ordinaryCall hasBlock isView (.refl store)
    · unfold queryCall
      rw [hasBlock]
      exact changes_blockCall unbound listed confined hasBlock
  · rw [queryCall_of_executingView isView]
    exact ends_withoutArguments (.refl store) ((changes_execute unbound).bind fun _ after _ => ends_pure (.refl after))

end Session
end Sparql
