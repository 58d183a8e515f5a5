import Mathlib.Tactic.FinCases
import Sparql.Proofs.Session.Building
import Sparql.Proofs.Session.Slots

/-!
# What calls write

A call that builds on a query and is given no block writes the slots that `slotsOf` names, by edits which its
arguments decide: whatever has been done to the query before, the same arguments make the same edits. No call reads
a slot that is not its own.
-/

namespace Sparql

open Relation

/-- A slot, unless nothing is given for it. -/
def Slot.ifGiven (slot : Slot) : Value → List Slot
  | .null => []
  | _ => [slot]

/-- The slots that a call writes. A call that has nothing to write leaves its slot alone: a condition that is
missing or blank, a bound that is not given, no declaration. -/
def slotsOf (method : String) (arguments : Arguments) : List Slot :=
  match method with
  | "where" | "whether" =>
    (if arguments.positional.all Value.isQuery then [] else [.patterns])
      ++ (if arguments.positional.all (!·.isQuery) then [] else [.subqueries])
  | "optional" => [.optionals]
  | "filter" =>
    match arguments.single ⟨"expression", none⟩ >>= filterExpression with
    | .ok [] => []
    | _ => [.filters]
  | "union" => [.unions]
  | "minus" => [.minuses]
  | "service" => [.services]
  | "union_with_bind" => [.bindUnions]
  | "values" => [.values]
  | "order" | "order_by" | "asc" | "desc" => [.orderBy]
  | "group" | "group_by" => [.groupBy]
  | "distinct" => [.distinct]
  | "reduced" => [.reduced]
  | "graph" => [.graph]
  | "from_" => [.fromGraphs]
  | "slice" =>
    match arguments.bind [⟨"start", none⟩, ⟨"length", none⟩] with
    | .ok [start, length] => Slot.offset.ifGiven start ++ Slot.limit.ifGiven length
    | _ => []
  | "offset" =>
    match arguments.single ⟨"start", none⟩ with
    | .ok start => Slot.offset.ifGiven start
    | _ => []
  | "limit" =>
    match arguments.single ⟨"length", none⟩ with
    | .ok length => Slot.limit.ifGiven length
    | _ => []
  | "prefix" =>
    match declaredBy (arguments.positional.headD .null) arguments.named with
    | .ok (none, []) => []
    | _ => [.prologue]
  | _ => []

/-! ## Clauses -/

/-- Clauses that differ from others by some edits of the slots. -/
structure Clauses.IsEdited (edits : List Edit) (clauses after : Clauses) : Prop where
  made : after.made = clauses.made
  contents : ∀ (store : Store) (record : QueryRecord),
    store.contents { record with clauses := after } = (store.contents { record with clauses }).applyAll edits

namespace Clauses

variable {α : Type} {slots : List Slot} {clauses middle after : Clauses} {edits more : List Edit}

theorem IsEdited.refl (clauses : Clauses) : IsEdited [] clauses clauses := ⟨rfl, fun _ _ => rfl⟩

theorem IsEdited.trans (first : IsEdited edits clauses middle) (second : IsEdited more middle after) :
    IsEdited (edits ++ more) clauses after where
  made := second.made.trans first.made
  contents store record := by
    rw [Contents.applyAll_append, ← first.contents, second.contents]

/-- A change of clauses that makes the same edits whatever the clauses are, all of them in the given slots. -/
def Writes (slots : List Slot) (change : Clauses → Outcome Clauses) : Prop :=
  ∃ edits : List Edit, (∀ edit ∈ edits, edit.slot ∈ slots) ∧
    ∀ clauses after, change clauses = .ok after → IsEdited edits clauses after

theorem writes_nothing : Writes slots .ok :=
  ⟨[], by simp, fun clauses after done => by cases done; exact .refl clauses⟩

theorem writes_misuse {cause : Fault} : Writes slots fun _ => misuse cause :=
  ⟨[], by simp, fun _ _ done => by cases done⟩

/-- An edit of one slot by what stood there. -/
theorem writes_edit (edit : Edit) {put : Clauses → Clauses} (listed : edit.slot ∈ slots)
    (isEdited : ∀ clauses, IsEdited [edit] clauses (put clauses)) : Writes slots fun clauses => .ok (put clauses) :=
  ⟨[edit], by simpa using listed, fun clauses after done => by cases done; exact isEdited clauses⟩

/-- What is read of arguments does not depend on clauses. -/
theorem writes_bind {read : Outcome α} {change : α → Clauses → Outcome Clauses}
    (writes : ∀ value, read = .ok value → Writes slots (change value)) :
    Writes slots fun clauses => read >>= fun value => change value clauses := by
  cases read with
  | ok value => exact writes value rfl
  | error failure => exact ⟨[], by simp, fun _ _ done => by cases done⟩

theorem writes_map {read : Outcome α} {put : α → Clauses → Clauses} (edit : α → Edit)
    (listed : ∀ value, (edit value).slot ∈ slots)
    (isEdited : ∀ value clauses, IsEdited [edit value] clauses (put value clauses)) :
    Writes slots fun clauses => read.map fun value => put value clauses := by
  cases read with
  | ok value => exact writes_edit (edit value) (listed value) (isEdited value)
  | error failure => exact ⟨[], by simp, fun _ _ done => by cases done⟩

/-! ### Changes -/

theorem writes_addFilter {expression : Value} :
    Writes (match filterExpression expression with | .ok [] => [] | _ => [.filters])
      (addFilter · expression) := by
  refine writes_bind fun filters read => ?_
  rw [read]
  cases filters with
  | nil =>
      simp only [List.map_nil, List.append_nil]
      exact writes_nothing
  | cons first rest =>
      exact writes_edit ⟨.filters, (· ++ (first :: rest).map (·.text))⟩ (.head _) fun clauses =>
        ⟨rfl, fun store record => by funext slot; cases slot <;> rfl⟩

theorem writes_setValues {named : Value} {data : List Value} : Writes [.values] (setValues · named data) :=
  writes_bind fun block _ => writes_edit ⟨.values, fun _ => some block⟩ (.head _) fun clauses =>
    ⟨rfl, fun store record => by funext slot; cases slot <;> rfl⟩

theorem writes_addBindUnion {branches : List Value} {optional : Value} :
    Writes [.bindUnions] (addBindUnion · branches optional) :=
  writes_bind fun union _ => writes_edit ⟨.bindUnions, (· ++ [union])⟩ (.head _) fun clauses =>
    ⟨rfl, fun store record => by funext slot; cases slot <;> rfl⟩

theorem writes_setOrder {entries : List Value} : Writes [.orderBy] (setOrder · entries) :=
  writes_bind fun orderBy _ => writes_edit ⟨.orderBy, fun _ => orderBy⟩ (.head _) fun clauses =>
    ⟨rfl, fun store record => by funext slot; cases slot <;> rfl⟩

theorem writes_addOrder {direction : String} {value : Value} :
    Writes [.orderBy] (addOrder · direction value) :=
  writes_bind fun name _ =>
    writes_edit ⟨.orderBy, (· ++ [.variable name (some direction)])⟩ (.head _) fun clauses =>
      ⟨rfl, fun store record => by funext slot; cases slot <;> rfl⟩

theorem writes_setGroup {entries : List Value} : Writes [.groupBy] (setGroup · entries) :=
  writes_bind fun groupBy _ => writes_edit ⟨.groupBy, fun _ => groupBy⟩ (.head _) fun clauses =>
    ⟨rfl, fun store record => by funext slot; cases slot <;> rfl⟩

theorem writes_setGraph {value : Value} : Writes [.graph] (setGraph · value) :=
  writes_bind fun graph _ => writes_edit ⟨.graph, fun _ => some graph⟩ (.head _) fun clauses =>
    ⟨rfl, fun store record => by funext slot; cases slot <;> rfl⟩

theorem writes_addFromGraphs {values : List Value} : Writes [.fromGraphs] (addFromGraphs · values) := by
  unfold addFromGraphs
  split
  · exact writes_bind fun _ done => by cases done
  · exact writes_bind fun graphs _ => writes_edit ⟨.fromGraphs, (· ++ graphs.map .iri)⟩ (.head _) fun clauses =>
      ⟨rfl, fun store record => by funext slot; cases slot <;> rfl⟩

theorem writes_setOffset {value : Value} : Writes (Slot.offset.ifGiven value) (setOffset · value) := by
  have given : Writes [.offset] fun clauses =>
      (boundOf "OFFSET" value).map fun offset => { clauses with offset := some offset } :=
    writes_map (fun offset => ⟨.offset, fun _ => some offset⟩) (fun _ => .head _) fun offset clauses =>
      ⟨rfl, fun store record => by funext slot; cases slot <;> rfl⟩
  cases value with
  | null => exact writes_nothing
  | _ => exact given

theorem writes_setLimit {value : Value} : Writes (Slot.limit.ifGiven value) (setLimit · value) := by
  have given : Writes [.limit] fun clauses =>
      (boundOf "LIMIT" value).map fun limit => { clauses with limit := some limit } :=
    writes_map (fun limit => ⟨.limit, fun _ => some limit⟩) (fun _ => .head _) fun limit clauses =>
      ⟨rfl, fun store record => by funext slot; cases slot <;> rfl⟩
  cases value with
  | null => exact writes_nothing
  | _ => exact given

/-- A named call writes its slots and no others. -/
theorem writes_of_change {method : String} {arguments : Arguments} {change : Clauses → Outcome Clauses}
    (named : change? method arguments = some change) : Writes (slotsOf method arguments) change := by
  unfold change? at named
  split at named <;> cases named
  -- One case for each method. Those that may write nothing tell so by their argument, which `slotsOf` reads as well.
  case h_1 =>
      refine writes_bind fun value given => ?_
      have slots : slotsOf "filter" arguments =
          match filterExpression value with | .ok [] => [] | _ => [.filters] := by
        show (match arguments.single ⟨"expression", none⟩ >>= filterExpression with | .ok [] => [] | _ => _) = _
        rw [given]
        rfl
      rw [slots]
      exact writes_addFilter
  case h_2 => exact writes_bind fun _ _ => writes_setValues
  case h_3 =>
      refine writes_bind fun values _ => ?_
      split
      · exact writes_addBindUnion
      · exact writes_misuse
  case h_4 | h_5 => exact writes_bind fun _ _ => writes_setOrder
  case h_6 | h_7 => exact writes_bind fun _ _ => writes_addOrder
  case h_8 | h_9 => exact writes_bind fun _ _ => writes_setGroup
  case h_10 =>
      exact writes_map (fun distinct => ⟨.distinct, fun _ => distinct⟩) (fun _ => .head _) fun distinct clauses =>
        ⟨rfl, fun store record => by funext slot; cases slot <;> rfl⟩
  case h_11 =>
      exact writes_map (fun reduced => ⟨.reduced, fun _ => reduced⟩) (fun _ => .head _) fun reduced clauses =>
        ⟨rfl, fun store record => by funext slot; cases slot <;> rfl⟩
  case h_12 => exact writes_bind fun _ _ => writes_setGraph
  case h_13 => exact writes_bind fun _ _ => writes_addFromGraphs
  case h_14 =>
      refine writes_bind fun value given => ?_
      have slots : slotsOf "offset" arguments = Slot.offset.ifGiven value := by
        show (match arguments.single ⟨"start", none⟩ with | .ok start => Slot.offset.ifGiven start | _ => []) = _
        rw [given]
      rw [slots]
      exact writes_setOffset
  case h_15 =>
      refine writes_bind fun value given => ?_
      have slots : slotsOf "limit" arguments = Slot.limit.ifGiven value := by
        show (match arguments.single ⟨"length", none⟩ with | .ok length => Slot.limit.ifGiven length | _ => []) = _
        rw [given]
      rw [slots]
      exact writes_setLimit

end Clauses

/-! ## Queries -/

/-- A query that goes on from another one: it was made and frozen in the same way, and nests at least as much. -/
structure QueryRecord.GoesOn (record later : QueryRecord) : Prop where
  frozen : later.frozen = record.frozen
  made : later.clauses.made = record.clauses.made
  nested : record.nested ⊆ later.nested

theorem QueryRecord.GoesOn.trans {record middle later : QueryRecord} (first : record.GoesOn middle)
    (second : middle.GoesOn later) : record.GoesOn later :=
  ⟨second.frozen.trans first.frozen, second.made.trans first.made, List.Subset.trans first.nested second.nested⟩

theorem QueryRecord.nested_mono {record later : QueryRecord} (subqueries : record.subqueries ⊆ later.subqueries)
    (unions : record.unions ⊆ later.unions) (minuses : record.minuses ⊆ later.minuses)
    (services : record.services ⊆ later.services) : record.nested ⊆ later.nested := by
  intro part
  simp only [nested, List.mem_append, List.mem_map]
  rintro (((mem | mem) | mem) | ⟨service, mem, isPart⟩)
  · exact .inl (.inl (.inl (subqueries mem)))
  · exact .inl (.inl (.inr (unions mem)))
  · exact .inl (.inr (minuses mem))
  · exact .inr ⟨service, services mem, isPart⟩

namespace Store

/-- A store in which some edits of the slots of one query have been made, and nothing else has changed. -/
structure Edited (index : Nat) (edits : List Edit) (store after : Store) : Prop where
  spares : Spares [.query index] store after
  registers : after.registers = store.registers
  query : ∀ record, store.queries[index]? = some record →
    ∃ later, after.queries[index]? = some later ∧ record.GoesOn later ∧
      after.contents later = (after.contents record).applyAll edits

/-- A later store, where nothing has changed but one query. -/
structure Leaves (index : Nat) (base store : Store) : Prop where
  closed : store.Closed
  spares : Spares [.query index] base store
  registers : store.registers = base.registers

/-- A value that is no query, or a query that the given one is not in. -/
def Outside (base : Store) (index : Nat) (value : Value) : Prop :=
  ∀ part, Session.queryIndex? value = some part →
    part < base.queries.length ∧ ¬ ReflTransGen base.Nests part index

/-- Queries that may become parts of another one, with the trees that they have and keep. -/
structure Offers (index : Nat) (trees : List (Option QueryTree)) (store middle : Store) (added : List Nat) :
    Prop where
  spares : Spares [] store middle
  registers : middle.registers = store.registers
  trees : ∀ after, Spares [.query index] middle after → added.map after.part? = trees

variable {base store middle after : Store} {index : Nat} {edits : List Edit} {values : List Value}

/-- The tree of a query that is outside is the same however the given one has changed. -/
theorem parts_of_outside (closed : base.Closed) (outside : ∀ value ∈ values, base.Outside index value)
    (spares : Spares [.query index] base after) :
    (values.filterMap Session.queryIndex?).map after.part? =
      (values.filterMap Session.queryIndex?).map base.part? := by
  refine List.map_congr_left fun part mem => ?_
  rcases List.mem_filterMap.mp mem with ⟨value, isValue, isPart⟩
  rcases outside value isValue part isPart with ⟨known, notReached⟩
  exact spares.keeps.part?_eq closed known (isApart_of_not_reached notReached)

/-- A query that has just been made of patterns. -/
theorem part?_of_patterns {patterns : List Pattern}
    (found : store.queries[index]? = some { clauses := { form := .select, patterns } }) :
    store.part? index = some (.node { form := .select, patterns } [] [] [] [] []) := by
  rw [part?_eq_tree?, tree?, found]
  rfl

end Store

namespace Session

open Store

variable {α β : Type} {base store middle : Store} {index : Nat} {slots : List Slot} {edits : List Edit}
  {arguments : Arguments} {values : List Value}

/-- A part of a session that makes the same edits of a query whatever was done to the query before, all of them in
the given slots. -/
def Writes (slots : List Slot) (base : Store) (index : Nat) (call : Session α) : Prop :=
  ∃ edits : List Edit, (∀ edit ∈ edits, edit.slot ∈ slots) ∧
    ∀ store, base.Leaves index store →
      Ends call store (fun _ => True) fun after _ => store.Edited index edits after

theorem writes_of_fails {call : Session α} {failure : Failure}
    (fails : ∀ store, perform call store = (.error failure, store)) : Writes slots base index call := by
  refine ⟨[], by simp, fun store _ => ?_⟩
  unfold Ends
  rw [fails]
  trivial

theorem writes_fault {cause : Fault} : Writes slots base index (fault cause : Session α) :=
  writes_of_fails fun _ => rfl

/-- What is read of arguments does not depend on the store. -/
theorem writes_ofOutcome_bind {outcome : Outcome β} {rest : β → Session α}
    (writes : ∀ value, outcome = .ok value → Writes slots base index (rest value)) :
    Writes slots base index (ofOutcome outcome >>= rest) := by
  cases outcome with
  | ok value => exact writes value rfl
  | error failure => exact writes_of_fails fun _ => rfl

/-- A query that is changed in a store where there may be new objects. -/
theorem edited_changeQuery {change : QueryRecord → QueryRecord} (spares : Spares [] store middle)
    (registers : middle.registers = store.registers)
    (sameBinding : ∀ record, (change record).binding = record.binding)
    (changed : ∀ record after, store.queries[index]? = some record → Spares [.query index] middle after →
      record.GoesOn (change record) ∧ after.contents (change record) = (after.contents record).applyAll edits) :
    store.Edited index edits { middle with queries := middle.queries.modify index change } := by
  have last : Spares [.query index] middle { middle with queries := middle.queries.modify index change } :=
    spares_changeQuery sameBinding (.head _)
  refine ⟨(spares.mono (by simp)).trans_same last, registers, fun record found => ?_⟩
  rcases changed record _ found last with ⟨goesOn, contents⟩
  exact ⟨change record, by simp [spares.queries index record found (by simp)], goesOn, contents⟩

/-- A call that changes a query at its end. -/
theorem ends_changed {change : QueryRecord → QueryRecord} {reply : α} (spares : Spares [] store middle)
    (registers : middle.registers = store.registers)
    (sameBinding : ∀ record, (change record).binding = record.binding)
    (changed : ∀ record after, store.queries[index]? = some record → Spares [.query index] middle after →
      record.GoesOn (change record) ∧ after.contents (change record) = (after.contents record).applyAll edits) :
    Ends (do changeQuery index change; return reply) middle (fun _ => True)
      fun after _ => store.Edited index edits after :=
  ends_bind (ends_modify (edited_changeQuery spares registers sameBinding changed))
    fun _ _ isEdited => ends_pure isEdited

/-- Without a block, a call goes on at once, or fails because of what it is given for one. -/
theorem ends_noBlock {named : Value} {object : ObjectRef} {rest : Unit → Session α} {gives : Store → α → Prop}
    (ends : Ends (rest ()) store (fun _ => True) gives) :
    Ends (match blockOf none named with
      | some block => block object >>= rest
      | none => rest ()) store (fun _ => True) gives := by
  cases named with
  | null => exact ends
  | _ => trivial

/-! ### Parts of a query -/

theorem writes_optionalCall : Writes [.optionals] base index (optionalCall index arguments none) := by
  refine writes_ofOutcome_bind fun named _ => writes_ofOutcome_bind fun patterns _ => ?_
  refine ⟨[⟨.optionals, (· ++ [some ({ patterns } : OptionalGroup)])⟩], by simp, fun store leaves => ?_⟩
  refine ends_noBlock (ends_changed (spares_addGroup { patterns }) rfl (fun _ => rfl) fun record after _ spares => ?_)
  refine ⟨⟨rfl, rfl, List.Subset.refl _⟩, ?_⟩
  funext slot
  cases slot with
  | optionals =>
      have added : after.groups[store.groups.length]? = some { patterns } := spares.groups _ _ (by simp) (by simp)
      exact List.map_append.trans (congrArg (_ ++ [·]) added)
  | _ => rfl

theorem queryIndex?_of_not_isQuery {value : Value} (notQuery : value.isQuery = false) : queryIndex? value = none := by
  unfold queryIndex?
  split
  · cases notQuery
  · rfl

/-- A new query that is made of patterns alone. -/
theorem ends_branches_patterns {clause : BranchClause} {patterns : List Pattern}
    (known : index < store.queries.length) (notQueries : values.all Value.isQuery = false)
    (read : Value.asPatterns (values.filter (!·.isQuery)) = .ok patterns) :
    Ends (branches clause values none) store (fun _ => True)
      (Offers index [some (.node { form := .select, patterns } [] [] [] [] [])] store) := by
  unfold branches
  refine ends_unless trivial ?_
  rw [notQueries]
  cases areLike : values.all Value.isPatternLike
  · trivial
  have noQueries : values.filterMap queryIndex? = [] := by
    refine List.filterMap_eq_nil_iff.mpr fun value mem => queryIndex?_of_not_isQuery ?_
    have isLike := List.all_eq_true.mp areLike value mem
    cases value <;> first | rfl | cases isLike
  refine ends_addQuery_bind ?_
  unfold addPatterns
  rw [read, noQueries]
  refine ends_bind (ends_modify ?_) fun _ _ offers => ends_pure offers
  refine ⟨isHanded_addQuery.spares_trans (spares_changeQuery (fun _ => rfl) (.head _)), rfl,
    fun after spares => ?_⟩
  have isOther : index ≠ store.queries.length := Nat.ne_of_lt known
  have found := spares.queries store.queries.length { clauses := { form := .select, patterns } }
    (by simp [selectAll]) (by simpa using isOther.symm)
  rw [List.map_singleton, part?_of_patterns found]

/-- The queries of a clause are given, or one is made of the patterns that are given. -/
theorem offers_branches {clause : BranchClause} {named : Value} (closed : base.Closed)
    (known : index < base.queries.length) (outside : ∀ value ∈ values, base.Outside index value) :
    ∃ trees, ∀ store, base.Leaves index store →
      Ends (branches clause values (blockOf none named)) store (fun _ => True) (Offers index trees store) := by
  by_cases isNull : named = .null
  case neg =>
    refine ⟨[], fun store _ => ?_⟩
    have fails : blockOf none named = some fun _ => fault .wrongKind := by
      cases named <;> first | rfl | exact absurd rfl isNull
    rw [fails]
    unfold branches
    exact ends_unless trivial trivial
  subst isNull
  cases areQueries : values.all Value.isQuery
  case true =>
    refine ⟨(values.filterMap queryIndex?).map base.part?, fun store leaves => ?_⟩
    show Ends (branches clause values none) _ _ _
    unfold branches
    refine ends_unless trivial ?_
    rw [areQueries]
    exact ends_pure ⟨.refl store, rfl, fun after spares =>
      parts_of_outside closed outside (leaves.spares.trans_same spares)⟩
  cases read : Value.asPatterns (values.filter (!·.isQuery)) with
  | ok patterns =>
      exact ⟨[some (.node { form := .select, patterns } [] [] [] [] [])], fun store leaves =>
        ends_branches_patterns (known.trans_le leaves.spares.grows.queries) areQueries read⟩
  | error failure =>
    refine ⟨[], fun store leaves => ?_⟩
    show Ends (branches clause values none) _ _ _
    unfold branches
    refine ends_unless trivial ?_
    rw [areQueries, if_neg Bool.false_ne_true]
    refine ends_unless trivial (ends_addQuery_bind ?_)
    unfold addPatterns
    rw [read]
    trivial

/-- The queries of a clause become parts, and their trees come to stand in a slot. -/
theorem writes_branches_bind {clause : BranchClause} {named : Value} {reply : Reply}
    {put : List Nat → QueryRecord → QueryRecord} (edit : List (Option QueryTree) → Edit)
    (listed : ∀ trees, (edit trees).slot ∈ slots) (closed : base.Closed) (known : index < base.queries.length)
    (outside : ∀ value ∈ values, base.Outside index value)
    (sameBinding : ∀ added record, (put added record).binding = record.binding)
    (isPut : ∀ added record, record.GoesOn (put added record) ∧ ∀ after : Store,
      after.contents (put added record) = (after.contents record).apply (edit (added.map after.part?))) :
    Writes slots base index (branches clause values (blockOf none named) >>= fun added => do
      changeQuery index (put added)
      return reply) := by
  rcases offers_branches closed known outside with ⟨trees, offered⟩
  refine ⟨[edit trees], by simpa using listed trees, fun store leaves => ?_⟩
  refine ends_bind (offered store leaves) fun added middle offers => ?_
  refine ends_changed offers.spares offers.registers (sameBinding added) fun record after _ spares => ?_
  rw [← offers.trees after spares]
  exact ⟨(isPut added record).1, (isPut added record).2 after⟩

theorem writes_unionCall (closed : base.Closed) (known : index < base.queries.length)
    (outside : ∀ value ∈ arguments.positional, base.Outside index value) :
    Writes [.unions] base index (unionCall index arguments none) := by
  refine writes_ofOutcome_bind fun named _ => ?_
  refine writes_branches_bind (fun trees => ⟨.unions, (· ++ trees)⟩) (fun _ => .head _) closed known outside
    (fun _ _ => rfl) fun added record => ⟨⟨rfl, rfl, ?_⟩, fun after => ?_⟩
  · exact QueryRecord.nested_mono (by simp) (by simp) (by simp) (by simp)
  · funext slot
    cases slot with
    | unions => exact List.map_append
    | _ => rfl

theorem writes_minusCall (closed : base.Closed) (known : index < base.queries.length)
    (outside : ∀ value ∈ arguments.positional, base.Outside index value) :
    Writes [.minuses] base index (minusCall index arguments none) := by
  refine writes_ofOutcome_bind fun named _ => ?_
  refine writes_branches_bind (fun trees => ⟨.minuses, (· ++ trees)⟩) (fun _ => .head _) closed known outside
    (fun _ _ => rfl) fun added record => ⟨⟨rfl, rfl, ?_⟩, fun after => ?_⟩
  · exact QueryRecord.nested_mono (by simp) (by simp) (by simp) (by simp)
  · funext slot
    cases slot with
    | minuses => exact List.map_append
    | _ => rfl

theorem writes_serviceCall (closed : base.Closed) (known : index < base.queries.length)
    (outside : ∀ value ∈ arguments.positional, base.Outside index value) :
    Writes [.services] base index (serviceCall index arguments none) := by
  refine writes_ofOutcome_bind fun ⟨endpoint, values, rest⟩ given => writes_ofOutcome_bind fun named _ => ?_
  split
  case h_2 => exact writes_fault
  case h_1 silent block _ =>
  refine writes_ofOutcome_bind fun resource _ => ?_
  rcases offers_branches closed known fun value mem => outside value (mem_of_endpointOf given value mem)
    with ⟨trees, offered⟩
  let site : ServiceSite := ⟨resource, silent.truth⟩
  refine ⟨[⟨.services, (· ++ trees.map fun tree => (site, tree))⟩], by simp, fun store leaves => ?_⟩
  refine ends_bind (offered store leaves) fun added middle offers => ?_
  split
  case h_2 => trivial
  case h_1 query =>
  refine ends_changed offers.spares offers.registers (fun _ => rfl) fun record after _ spares => ?_
  refine ⟨⟨rfl, rfl, QueryRecord.nested_mono (by simp) (by simp) (by simp) (by simp)⟩, ?_⟩
  funext slot
  cases slot with
  | services =>
      refine List.map_append.trans (congrArg (_ ++ ·) ?_)
      rw [← offers.trees after spares]
      rfl
  | _ => rfl

/-- Without queries among its arguments a call writes patterns alone, and with nothing else among them sub-queries
alone. -/
theorem writes_whereCall (closed : base.Closed)
    (outside : ∀ value ∈ arguments.positional, base.Outside index value) :
    Writes (slotsOf "where" arguments) base index (whereCall index arguments none) := by
  refine writes_ofOutcome_bind fun named _ => ?_
  cases read : Value.asPatterns (arguments.positional.filter (!·.isQuery)) with
  | error failure =>
      refine ⟨[], by simp, fun store _ => ?_⟩
      rw [addPatterns, read]
      trivial
  | ok patterns =>
    let trees := (arguments.positional.filterMap queryIndex?).map base.part?
    let onPatterns : Edit := ⟨.patterns, (· ++ patterns)⟩
    let onSubqueries : Edit := ⟨.subqueries, (· ++ trees)⟩
    have noPatterns : arguments.positional.all Value.isQuery → onPatterns.change = id := by
      intro areQueries
      have none : arguments.positional.filter (!·.isQuery) = [] := by simpa using areQueries
      rw [none] at read
      cases read
      exact funext List.append_nil
    have noSubqueries : arguments.positional.all (!·.isQuery) → onSubqueries.change = id := by
      intro notQueries
      have none : arguments.positional.filterMap queryIndex? = [] := List.filterMap_eq_nil_iff.mpr fun value mem =>
        queryIndex?_of_not_isQuery (by simpa using List.all_eq_true.mp notQueries value mem)
      simp only [onSubqueries, trees, none]
      exact funext List.append_nil
    refine ⟨(if arguments.positional.all Value.isQuery then [] else [onPatterns])
      ++ if arguments.positional.all (!·.isQuery) then [] else [onSubqueries], ?_, fun store leaves => ?_⟩
    · intro edit mem
      show edit.slot ∈ (if _ then _ else _) ++ (if _ then _ else _)
      grind
    rw [addPatterns, read]
    refine ends_bind (ends_modify ?_) fun _ _ isEdited => ends_noBlock (ends_pure isEdited)
    refine edited_changeQuery (.refl store) rfl (fun _ => rfl) fun record after _ spares => ?_
    refine ⟨⟨rfl, rfl, QueryRecord.nested_mono (by simp) (by simp) (by simp) (by simp)⟩, ?_⟩
    rw [Contents.applyAll_append, Contents.applyAll_unless noPatterns, Contents.applyAll_unless noSubqueries]
    funext slot
    cases slot with
    | subqueries =>
        exact List.map_append.trans (congrArg (_ ++ ·)
          (parts_of_outside closed outside (leaves.spares.trans_same spares)))
    | _ => rfl

/-! ### Clauses of a query -/

/-- A store in which the clauses of one query are others. -/
def reworded (store : Store) (index : Nat) (record : QueryRecord) (clauses : Clauses) : Store :=
  { store with queries := store.queries.set index { record with clauses } }

variable {record : QueryRecord} {clauses : Clauses}

theorem reworded_self (found : store.queries[index]? = some record) :
    reworded store index record record.clauses = store := by
  rcases List.getElem?_eq_some_iff.mp found with ⟨inRange, isRecord⟩
  show { store with queries := store.queries.set index record } = store
  rw [← isRecord, List.set_getElem_self]

theorem edited_reworded (found : store.queries[index]? = some record)
    (isEdited : Clauses.IsEdited edits record.clauses clauses) :
    store.Edited index edits (reworded store index record clauses) := by
  have isSet : store.queries.set index { record with clauses } =
      store.queries.modify index fun same => { same with clauses } := by
    rw [List.modify_eq_set_getElem?, found]
    rfl
  rw [reworded, isSet]
  refine edited_changeQuery (.refl store) rfl (fun _ => rfl) fun same after isSame _ => ?_
  cases found.symm.trans isSame
  exact ⟨⟨rfl, isEdited.made, List.Subset.refl _⟩, isEdited.contents after record⟩

theorem perform_changeClauses (known : index < store.queries.length) (change : Clauses → Clauses) :
    perform (changeClauses index change) (reworded store index record clauses) =
      (.ok (), reworded store index record (change clauses)) := by
  rw [changeClauses, perform_changeQuery]
  simp [reworded, List.modify_eq_set_getElem?, known]

/-- Clauses may be changed any number of times. -/
theorem ends_changeClauses_bind {change : Clauses → Clauses} {rest : Unit → Session α} {fails : Store → Prop}
    {gives : Store → α → Prop} (known : index < store.queries.length)
    (ends : Ends (rest ()) (reworded store index record (change clauses)) fails gives) :
    Ends (changeClauses index change >>= rest) (reworded store index record clauses) fails gives := by
  unfold Ends
  rw [perform_bind_ok (perform_changeClauses known change)]
  exact ends

theorem writes_changeCall {change : Clauses → Outcome Clauses} (known : index < base.queries.length)
    (writes : Clauses.Writes slots change) : Writes slots base index (changeCall index change) := by
  rcases writes with ⟨edits, listed, isEdited⟩
  refine ⟨edits, listed, fun store leaves => ends_query_bind trivial fun record found => ?_⟩
  refine ends_ofOutcome_bind trivial fun clauses done => ?_
  have inStore := known.trans_le leaves.spares.grows.queries
  rw [← reworded_self found]
  refine ends_changeClauses_bind inStore (ends_pure ?_)
  rw [reworded_self found]
  exact edited_reworded found (isEdited _ _ done)

theorem writes_sliceCall (known : index < base.queries.length) :
    Writes (slotsOf "slice" arguments) base index (sliceCall index arguments) := by
  refine writes_ofOutcome_bind fun values read => ?_
  split
  case h_2 => exact writes_fault
  case h_1 start length =>
  have offset : Clauses.Writes (Slot.offset.ifGiven start) (Clauses.setOffset · start) := Clauses.writes_setOffset
  have limit : Clauses.Writes (Slot.limit.ifGiven length) (Clauses.setLimit · length) := Clauses.writes_setLimit
  rcases offset with ⟨edits, listed, isShifted⟩
  rcases limit with ⟨more, moreListed, isLimited⟩
  have slots : slotsOf "slice" arguments = Slot.offset.ifGiven start ++ Slot.limit.ifGiven length := by
    show (match arguments.bind [⟨"start", none⟩, ⟨"length", none⟩] with | .ok [_, _] => _ | _ => _) = _
    rw [read]
  refine ⟨edits ++ more, ?_, fun store leaves => ends_query_bind trivial fun record found => ?_⟩
  · rw [slots]
    intro edit mem
    exact List.mem_append.mpr ((List.mem_append.mp mem).imp (listed edit) (moreListed edit))
  have inStore := known.trans_le leaves.spares.grows.queries
  refine ends_ofOutcome_bind trivial fun shifted shiftedDone => ?_
  rw [← reworded_self found]
  refine ends_changeClauses_bind inStore (ends_ofOutcome_bind trivial fun limited limitedDone => ?_)
  refine ends_changeClauses_bind inStore (ends_pure ?_)
  rw [reworded_self found]
  exact edited_reworded found ((isShifted _ _ shiftedDone).trans (isLimited _ _ limitedDone))

/-- Declarations that are added one after the other. -/
theorem ends_declarations {entries : List (Value × Value)} (known : index < store.queries.length) :
    Ends (entries.forM fun entry => do
        let text ← ofOutcome (declaration entry.1 entry.2)
        changeClauses index (·.addDeclaration text)) (reworded store index record clauses) (fun _ => True)
      fun after _ => ∃ texts, entries.mapM (fun entry => declaration entry.1 entry.2) = .ok texts ∧
        after = reworded store index record { clauses with prologue := clauses.prologue ++ texts } := by
  induction entries generalizing clauses with
  | nil => exact ends_pure ⟨[], rfl, by simp⟩
  | cons entry rest ih =>
      show Ends ((ofOutcome (declaration entry.1 entry.2) >>= _) >>= _) _ _ _
      cases read : declaration entry.1 entry.2 with
      | error failure => trivial
      | ok text =>
          show Ends (changeClauses index (·.addDeclaration text) >>= fun _ => rest.forM _) _ _ _
          refine ends_changeClauses_bind known ?_
          refine ih.mono (fun _ _ => trivial) ?_
          rintro after _ ⟨texts, areRead, rfl⟩
          refine ⟨text :: texts, ?_, by simp [Clauses.addDeclaration]⟩
          rw [List.mapM_cons, read, areRead]
          rfl

theorem ends_declareCall {value : Value} {named : List (String × Value)} {written : Option String}
    {entries : List (Value × Value)} (found : store.queries[index]? = some record)
    (given : declaredBy value named = .ok (written, entries)) :
    Ends (declareCall index value named) store (fun _ => True) fun after _ =>
      ∃ texts, entries.mapM (fun entry => declaration entry.1 entry.2) = .ok texts ∧
        after = reworded store index record
          { record.clauses with prologue := record.clauses.prologue ++ (written.toList ++ texts) } := by
  have known := (List.getElem?_eq_some_iff.mp found).1
  refine ends_ofOutcome_bind trivial ?_
  rw [given]
  rintro _ ⟨⟩
  nth_rewrite 1 [← reworded_self found]
  cases written with
  | none =>
      show Ends (entries.forM _ >>= _) _ _ _
      refine ends_bind (ends_declarations known) fun _ after isDeclared => ends_pure ?_
      simpa using isDeclared
  | some text =>
      show Ends (changeClauses index (·.addDeclaration text) >>= _) _ _ _
      refine ends_changeClauses_bind known ?_
      refine ends_bind (ends_declarations known) fun _ after isDeclared => ends_pure ?_
      simpa [Clauses.addDeclaration] using isDeclared

/-- A call that declares something writes the prologue. -/
theorem writes_declareCall {value : Value} {named : List (String × Value)} (known : index < base.queries.length) :
    Writes (match declaredBy value named with | .ok (none, []) => [] | _ => [.prologue]) base index
      (declareCall index value named) := by
  cases given : declaredBy value named with
  | error failure =>
      refine ⟨[], by simp, fun store _ => ?_⟩
      rw [declareCall, given]
      trivial
  | ok declared =>
  obtain ⟨written, entries⟩ := declared
  -- Declarations are read of the arguments alone, and so are the same whenever the call is made.
  have always : ∃ texts, ∀ read,
      entries.mapM (fun entry => declaration entry.1 entry.2) = .ok read → read = texts := by
    cases entries.mapM fun entry => declaration entry.1 entry.2 with
    | error failure => exact ⟨[], by simp⟩
    | ok texts => exact ⟨texts, by simp⟩
  rcases always with ⟨texts, isRead⟩
  let onPrologue : Edit := ⟨.prologue, (· ++ (written.toList ++ texts))⟩
  refine ⟨if written = none ∧ entries = [] then [] else [onPrologue], ?_, fun store leaves => ?_⟩
  · intro edit mem
    split at mem
    · cases mem
    next something =>
    cases List.mem_singleton.mp mem
    split
    next isNothing =>
      cases isNothing
      exact absurd ⟨rfl, rfl⟩ something
    · exact .head _
  have inStore := known.trans_le leaves.spares.grows.queries
  have found := List.getElem?_eq_getElem inStore
  refine (ends_declareCall found given).mono (fun _ _ => trivial) ?_
  rintro after _ ⟨read, areRead, rfl⟩
  cases isRead read areRead
  refine edited_reworded found ⟨rfl, fun other record => ?_⟩
  rw [Contents.applyAll_unless]
  · funext slot
    cases slot <;> rfl
  · rintro ⟨rfl, rfl⟩
    cases areRead
    exact funext List.append_nil

theorem writes_prologueCall (known : index < base.queries.length) :
    Writes (slotsOf "prefix" arguments) base index (prologueCall index arguments) := by
  rcases arguments with ⟨_ | ⟨value, _ | ⟨more, rest⟩⟩, named⟩
  · exact writes_declareCall known
  · exact writes_declareCall known
  · exact writes_fault

/-! ### All calls that build -/

/-- The calls that change clauses alone. -/
def changingCalls : List String :=
  ["filter", "union_with_bind", "values", "order", "order_by", "asc", "desc", "group", "group_by", "distinct",
    "reduced", "graph", "from_", "offset", "limit"]

/-- The calls that build on a query and return it. -/
def buildingCalls : List String :=
  ["where", "whether", "optional", "union", "minus", "service", "slice", "prefix"] ++ changingCalls

theorem queryCall_of_changing {method : String} (changing : method ∈ changingCalls) :
    ∃ change, Clauses.change? method arguments = some change ∧
      queryCall index method arguments none = changeCall index change := by
  fin_cases changing <;> exact ⟨_, rfl, rfl⟩

/-- A call that builds writes its slots and no others. -/
theorem writes_queryCall {method : String} (builds : method ∈ buildingCalls) (closed : base.Closed)
    (known : index < base.queries.length) (outside : ∀ value ∈ arguments.positional, base.Outside index value) :
    Writes (slotsOf method arguments) base index (queryCall index method arguments none) := by
  rcases List.mem_append.mp builds with direct | changing
  · fin_cases direct
    · exact writes_whereCall closed outside
    · exact writes_whereCall closed outside
    · exact writes_optionalCall
    · exact writes_unionCall closed known outside
    · exact writes_minusCall closed known outside
    · exact writes_serviceCall closed known outside
    · exact writes_sliceCall known
    · exact writes_prologueCall known
  · rcases queryCall_of_changing changing with ⟨change, isChange, isCall⟩
    rw [isCall]
    exact writes_changeCall known (Clauses.writes_of_change isChange)

end Session

end Sparql
