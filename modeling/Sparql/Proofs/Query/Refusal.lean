import Sparql.Proofs.Term.Refusal
import Sparql.Query.Change

/-!
# How clauses are refused

Where the arguments of a call become clauses, the failure blames an argument, save for a few shapes of arguments that
are misuse: counts that are no mapping, branches with a part that cannot be iterated, and infinite bounds.

A value may be blamed if it stands somewhere within the arguments, so each lemma is told where the value it reads
stands, and hands that on to the parts of the value. A list of escapes comes with both directions: what fails otherwise
blames, and what is listed does escape.
-/

namespace Sparql

open Outcome Failure

variable {value outer : Value}

/-! ## Conditions -/

theorem blames_filterExpression (isWithin : value.Within outer) :
    FailsOnly (Blames outer) (filterExpression value) := by
  unfold filterExpression
  split
  · exact failsOnly_ok
  · exact failsOnly_ok
  · exact failsOnly_ok
  · exact blames_refuse_showing isWithin rfl

theorem blames_directedCondition {key direction : Value} (keyWithin : key.Within outer)
    (directionWithin : direction.Within outer) : FailsOnly (Blames outer) (directedCondition key direction) := by
  apply (Value.blames_asVariable keyWithin).bind
  intro name
  have isDirection : FailsOnly (Blames outer) (directionOf direction) := by
    unfold directionOf
    split
    · split
      · exact failsOnly_ok
      · exact blames_refuse_showing directionWithin rfl
    · exact blames_refuse_showing directionWithin rfl
  exact isDirection.bind fun _ => failsOnly_ok

theorem blames_mappedCondition {entry : Value × Value} (keyWithin : entry.1.Within outer)
    (directionWithin : entry.2.Within outer) : FailsOnly (Blames outer) (mappedCondition entry) := by
  unfold mappedCondition
  split
  · exact blames_directedCondition keyWithin directionWithin
  · exact blames_refuse_showing keyWithin rfl

theorem blames_conditionsOf (isWithin : value.Within outer) : FailsOnly (Blames outer) (conditionsOf value) := by
  unfold conditionsOf
  split
  · rename_i entries areEntries
    intro failure failed
    rcases mapM_eq_error.mp failed with ⟨before, entry, after, rfl, _, fails⟩
    have within := Value.within_of_entries areEntries entry (by simp)
    exact blames_mappedCondition (within.1.trans isWithin) (within.2.trans isWithin) failure fails
  split
  · rename_i key direction areItems
    have keyWithin := (Value.within_of_items areItems key (by simp)).trans isWithin
    have directionWithin := (Value.within_of_items areItems direction (by simp)).trans isWithin
    split
    · exact (blames_directedCondition keyWithin directionWithin).map
    · exact blames_refuse_showing keyWithin rfl
  · exact blames_refuse_showing isWithin rfl
  split
  · exact (Value.blames_asVariable isWithin).map
  split
  · split
    · exact blames_refuse_showing isWithin rfl
    · exact failsOnly_ok
  · exact blames_refuse_showing isWithin rfl

theorem blames_conditions {entries : List Value} (areWithin : ∀ entry ∈ entries, entry.Within outer) :
    FailsOnly (Blames outer) (conditions entries) :=
  (Value.blames_mapM areWithin fun _ => blames_conditionsOf).map

/-! ## Bounds -/

/-- The bounds that are neither taken nor refused: infinities, and negative numbers that no message can write. -/
inductive BoundEscapes (clause : String) (value : Value) : Fault → Prop
  | infinite (isInfinity : value.IsInfinity) : BoundEscapes clause value .overflow
  | unwritable {number : Int} (isNumber : integerOf clause value = .ok number) (isNegative : number < 0)
      (isLong : 10 ^ Number.maxDigits ≤ number.natAbs) : BoundEscapes clause value .badValue

variable {clause : String}

theorem blames_integer {number : Option Int} (isWithin : value.Within outer) :
    FailsOnly (Blames outer) (match number with
      | some number => .ok number
      | none => refuse (.notInteger clause value) : Outcome Int) := by
  split
  · exact failsOnly_ok
  · exact blames_refuse_showing isWithin rfl

theorem boundOf_blamesOr (isWithin : value.Within outer) :
    FailsOnly (BlamesOr outer (BoundEscapes clause value)) (boundOf clause value) := by
  apply FailsOnly.bind_of_ok
  · unfold integerOf
    split
    · exact failsOnly_ok
    · rename_i number
      split
      · rename_i isInfinite
        refine failsOnly_error (.inr ⟨_, rfl, .infinite ?_⟩)
        cases number with
        | infinite negative => exact ⟨negative, .inl rfl⟩
        | _ => cases isInfinite
      · exact (blames_integer isWithin).orEscape
    · rename_i negative
      exact failsOnly_error (.inr ⟨_, rfl, .infinite ⟨negative, .inr rfl⟩⟩)
    · exact (blames_integer isWithin).orEscape
    · exact (blames_integer isWithin).orEscape
  · intro number isNumber
    split
    swap
    · exact failsOnly_ok
    rename_i isNegative
    by_cases isLong : 10 ^ Number.maxDigits ≤ number.natAbs
    · apply failsOnly_error
      simp only [ofRefusal, ConstructionError.shown?, Option.bind_some, Value.displayFault?,
        if_pos (Number.isLong_iff.mpr isLong)]
      exact .inr ⟨_, rfl, .unwritable isNumber isNegative isLong⟩
    · refine (blames_refuse_showing (.of_contents rfl ?_ (by rintro _ ⟨⟩)) rfl).orEscape
      rintro _ ⟨⟩
      exact Nat.not_le.mp isLong

theorem integerOf_of_infinity (isInfinity : value.IsInfinity) : integerOf clause value = misuse .overflow := by
  rcases isInfinity with ⟨negative, rfl | rfl⟩ <;> rfl

theorem boundOf_of_escapes {fault : Fault} (escapes : BoundEscapes clause value fault) :
    boundOf clause value = misuse fault := by
  unfold boundOf
  cases escapes with
  | infinite isInfinity =>
      rw [integerOf_of_infinity isInfinity]
      rfl
  | @unwritable number isNumber isNegative isLong =>
      have refused : ofRefusal (.negative clause number) = .fault .badValue := by
        simp only [ofRefusal, ConstructionError.shown?, Option.bind_some, Value.displayFault?,
          if_pos (Number.isLong_iff.mpr isLong)]
      rw [isNumber]
      change (if number < 0 then refuse (.negative clause number) else _) = _
      rw [if_pos isNegative, refuse, refused]
      rfl

theorem BoundEscapes.ne_null {fault : Fault} (escapes : BoundEscapes clause value fault) : value ≠ .null := by
  rintro rfl
  cases escapes with
  | infinite isInfinity => rcases isInfinity with ⟨_, isInfinity | isInfinity⟩ <;> cases isInfinity
  | unwritable isNumber => cases isNumber

/-! ## Inline data -/

theorem blames_cellOf (isWithin : value.Within outer) : FailsOnly (Blames outer) (cellOf value) := by
  unfold cellOf
  split
  · exact failsOnly_ok
  · exact blames_refuse_showing isWithin rfl
  · exact failsOnly_ok
  · exact failsOnly_ok
  · exact blames_refuse_showing isWithin rfl

theorem blames_rowOf {width : Nat} (isWithin : value.Within outer) : FailsOnly (Blames outer) (rowOf width value) := by
  unfold rowOf
  split
  · exact blames_refuse_showing isWithin rfl
  · rename_i cells areItems
    have areWithin : ∀ cell ∈ cells, cell.Within outer :=
      fun cell mem => (Value.within_of_items areItems cell mem).trans isWithin
    split
    · exact blames_refuse_showing (.list areWithin) rfl
    · exact Value.blames_mapM areWithin fun _ => blames_cellOf

/-- Scalars become rows of one cell each. -/
theorem within_of_singleColumn {data rows : List Value} (areWithin : ∀ value ∈ data, value.Within outer)
    (made : singleColumn data = .ok rows) : ∀ row ∈ rows, row.Within outer := by
  unfold singleColumn at made
  simp only at made
  split at made
  · cases made
  · cases made
    intro row mem
    rcases List.mem_map.mp mem with ⟨value, isGiven, rfl⟩
    split
    · exact areWithin value isGiven
    · apply Value.Within.list
      intro item mem
      cases List.mem_singleton.mp mem
      exact areWithin value isGiven

theorem blames_valuesBlock {named : Value} {data : List Value} (namedWithin : named.Within outer)
    (dataWithin : ∀ value ∈ data, value.Within outer) : FailsOnly (Blames outer) (valuesBlock named data) := by
  have namesWithin : ∀ name ∈ named.items?.getD [named], name.Within outer := by
    intro name mem
    cases areItems : named.items? with
    | none =>
        rw [areItems] at mem
        cases List.mem_singleton.mp mem
        exact namedWithin
    | some items =>
        rw [areItems] at mem
        exact (Value.within_of_items areItems name mem).trans namedWithin
  have rowsRead {names : List String} {rows : List Value} (areWithin : ∀ row ∈ rows, Value.Within row outer) :
      FailsOnly (Blames outer) (do
        let rows ← rows.mapM (rowOf names.length)
        return (⟨names, rows⟩ : ValuesBlock)) :=
    (Value.blames_mapM areWithin fun _ => blames_rowOf).bind fun _ => failsOnly_ok
  unfold valuesBlock
  simp only
  apply blames_guard rfl
  apply (Value.blames_mapM namesWithin fun _ => Value.blames_asVariable).bind
  intro names
  split
  · apply FailsOnly.bind_of_ok
    · unfold singleColumn
      simp only
      split
      · exact blames_refuse_silently rfl
      · exact failsOnly_ok
    · intro rows made
      exact rowsRead (within_of_singleColumn dataWithin made)
  · exact rowsRead dataWithin

/-! ## Tagged unions -/

theorem blames_mappingOrNothing : FailsOnly (Blames outer) (mappingOrNothing value) := by
  unfold mappingOrNothing
  split
  · split
    · exact failsOnly_ok
    · exact blames_refuse_silently rfl
  · exact failsOnly_ok

theorem within_of_mapping {entries : List (Value × Value)} (isWithin : value.Within outer)
    (isMapping : mappingOrNothing value = .ok entries) :
    ∀ entry ∈ entries, entry.1.Within outer ∧ entry.2.Within outer := by
  intro entry mem
  unfold mappingOrNothing at isMapping
  split at isMapping
  · split at isMapping
    · rename_i areEntries
      cases isMapping
      have within := Value.within_of_entries areEntries entry mem
      exact ⟨within.1.trans isWithin, within.2.trans isWithin⟩
    · cases isMapping
  · cases isMapping
    cases mem

/-- The IRIs of a collection fail otherwise exactly if it is none. -/
theorem iriCollection_blamesOr (isWithin : value.Within outer) :
    FailsOnly (BlamesOr outer fun fault => fault = .wrongKind ∧ value.elements? = none) (iriCollection value) := by
  unfold iriCollection
  split
  · rename_i values areElements
    exact (Value.blames_mapM (fun item mem => (Value.within_of_elements areElements item mem).trans isWithin)
      fun _ => Value.blames_asIri).orEscape
  · rename_i notElements
    exact failsOnly_error (.inr ⟨_, rfl, rfl, notElements⟩)

theorem iriCollection_of_notElements (notElements : value.elements? = none) :
    iriCollection value = misuse .wrongKind := by
  unfold iriCollection
  rw [notElements]

theorem associations_eq_error {γ : Type} {read : Value → Outcome γ} {entries : List (Value × Value)}
    {failure : Failure} : associations read entries = .error failure ↔
      ∃ before key value after, entries = before ++ (key, value) :: after ∧
        (∀ entry ∈ before, ∃ name result, entry.1.asVariable = .ok name ∧ read entry.2 = .ok result) ∧
        (key.asVariable = .error failure ∨ (∃ name, key.asVariable = .ok name) ∧ read value = .error failure) := by
  unfold associations
  simp only [bind_eq_error, pure_ne_error, and_false, exists_false, or_false, mapM_eq_error, FirstFails]
  constructor
  · rintro ⟨before, ⟨key, value⟩, after, rfl, areRead, fails⟩
    refine ⟨before, key, value, after, rfl, ?_, ?_⟩
    · intro entry mem
      rcases areRead entry mem with ⟨result, isRead⟩
      rcases bind_eq_ok.mp isRead with ⟨name, isName, isRead⟩
      rcases bind_eq_ok.mp isRead with ⟨value, isValue, _⟩
      exact ⟨name, value, isName, isValue⟩
    · rcases fails with failed | ⟨name, isName, failed⟩
      · exact .inl failed
      · exact .inr ⟨⟨name, isName⟩, failed⟩
  · rintro ⟨before, key, value, after, rfl, areRead, fails⟩
    refine ⟨before, (key, value), after, rfl, ?_, ?_⟩
    · intro entry mem
      rcases areRead entry mem with ⟨name, result, isName, isResult⟩
      exact ⟨(name, result), bind_eq_ok.mpr ⟨name, isName, bind_eq_ok.mpr ⟨result, isResult, rfl⟩⟩⟩
    · rcases fails with failed | ⟨⟨name, isName⟩, failed⟩
      · exact .inl failed
      · exact .inr ⟨name, isName, failed⟩

theorem blames_associations {entries : List (Value × Value)}
    (areWithin : ∀ entry ∈ entries, entry.1.Within outer ∧ entry.2.Within outer) :
    FailsOnly (Blames outer) (associations Value.spell entries) := by
  intro failure failed
  rcases associations_eq_error.mp failed with ⟨before, key, value, after, rfl, _, failed | ⟨_, failed⟩⟩
  · exact Value.blames_asVariable (areWithin (key, value) (by simp)).1 failure failed
  · exact blames_spell (areWithin (key, value) (by simp)).2 failure failed

/-- Entries of a mapping, the first of which that is not read has a variable and no collection of IRIs. -/
def LacksIris (tests : List (Value × Value)) : Prop :=
  ∃ before key iris after, tests = before ++ (key, iris) :: after ∧
    (∀ entry ∈ before, ∃ name read, entry.1.asVariable = .ok name ∧ iriCollection entry.2 = .ok read) ∧
    (∃ name, key.asVariable = .ok name) ∧ iris.elements? = none

theorem associations_blamesOr {entries : List (Value × Value)}
    (areWithin : ∀ entry ∈ entries, entry.1.Within outer ∧ entry.2.Within outer) :
    FailsOnly (BlamesOr outer fun fault => fault = .wrongKind ∧ LacksIris entries)
      (associations iriCollection entries) := by
  intro failure failed
  rcases associations_eq_error.mp failed with ⟨before, key, value, after, rfl, areRead, failed | ⟨isName, failed⟩⟩
  · exact .inl (Value.blames_asVariable (areWithin (key, value) (by simp)).1 failure failed)
  · rcases iriCollection_blamesOr (areWithin (key, value) (by simp)).2 failure failed with
      blames | ⟨_, rfl, rfl, notElements⟩
    · exact .inl blames
    · exact .inr ⟨_, rfl, rfl, before, key, value, after, rfl, areRead, isName, notElements⟩

theorem associations_of_lacksIris {entries : List (Value × Value)} (lacksIris : LacksIris entries) :
    associations iriCollection entries = misuse .wrongKind := by
  rcases lacksIris with ⟨before, key, iris, after, rfl, areRead, isName, notElements⟩
  exact associations_eq_error.mpr
    ⟨before, key, iris, after, rfl, areRead, .inr ⟨isName, iriCollection_of_notElements notElements⟩⟩

/-- A branch that is neither taken nor refused: its patterns cannot be iterated, or the IRIs of a test cannot. -/
inductive BranchEscapes (branch : Value) : Prop
  | patterns {patterns binds filters : Value} (isBranch : branch.items? = some [patterns, binds, filters])
      (hasBinds : ∃ entries, mappingOrNothing binds = .ok entries)
      (hasFilters : ∃ tests, mappingOrNothing filters = .ok tests) (notIterable : patterns.elements? = none)
  | filters {patterns binds filters : Value} {entries tests : List (Value × Value)}
      (isBranch : branch.items? = some [patterns, binds, filters])
      (hasBinds : mappingOrNothing binds = .ok entries) (hasFilters : mappingOrNothing filters = .ok tests)
      (patternsRead : ∃ read, patterns.elementPatterns = .ok read)
      (bindsRead : ∃ read, associations Value.spell entries = .ok read) (lacksIris : LacksIris tests)

theorem bindBranchOf_blamesOr (isWithin : value.Within outer) :
    FailsOnly (BlamesOr outer fun fault => fault = .wrongKind ∧ BranchEscapes value) (bindBranchOf value) := by
  unfold bindBranchOf
  split
  · exact failsOnly_ok
  split
  swap
  · exact (blames_refuse_showing isWithin rfl).orEscape
  rename_i patterns binds filters isBranch
  have partWithin : ∀ part ∈ [patterns, binds, filters], part.Within outer :=
    fun part mem => (Value.within_of_items isBranch part mem).trans isWithin
  apply blames_mappingOrNothing.orEscape.bind_of_ok
  intro entries hasBinds
  apply blames_mappingOrNothing.orEscape.bind_of_ok
  intro tests hasFilters
  apply FailsOnly.bind_of_ok
  · apply (Value.elementPatterns_blamesOr (partWithin patterns (by simp))).weaken
    rintro fault ⟨rfl, notIterable⟩
    exact ⟨rfl, .patterns isBranch ⟨entries, hasBinds⟩ ⟨tests, hasFilters⟩ notIterable⟩
  intro read patternsRead
  apply (blames_associations (within_of_mapping (partWithin binds (by simp)) hasBinds)).orEscape.bind_of_ok
  intro bound bindsRead
  apply FailsOnly.bind
  · apply (associations_blamesOr (within_of_mapping (partWithin filters (by simp)) hasFilters)).weaken
    rintro fault ⟨rfl, lacksIris⟩
    exact ⟨rfl, .filters isBranch hasBinds hasFilters ⟨read, patternsRead⟩ ⟨bound, bindsRead⟩ lacksIris⟩
  · intro tests
    exact failsOnly_ok

theorem bindBranchOf_of_escapes (escapes : BranchEscapes value) : bindBranchOf value = misuse .wrongKind := by
  have notBranch {items : List Value} (areItems : value.items? = some items) :
      ∀ branch, value ≠ .branch branch := by
    rintro branch rfl
    cases areItems
  unfold bindBranchOf
  cases escapes with
  | patterns isBranch hasBinds hasFilters notIterable =>
      rcases hasBinds with ⟨entries, hasBinds⟩
      rcases hasFilters with ⟨tests, hasFilters⟩
      split
      · exact absurd rfl (notBranch isBranch _)
      · rw [isBranch]
        apply bind_eq_error_of_ok hasBinds
        apply bind_eq_error_of_ok hasFilters
        exact bind_eq_error.mpr (.inl (Value.elementPatterns_of_notElements notIterable))
  | filters isBranch hasBinds hasFilters patternsRead bindsRead lacksIris =>
      rcases patternsRead with ⟨patterns, patternsRead⟩
      rcases bindsRead with ⟨binds, bindsRead⟩
      split
      · exact absurd rfl (notBranch isBranch _)
      · rw [isBranch]
        apply bind_eq_error_of_ok hasBinds
        apply bind_eq_error_of_ok hasFilters
        apply bind_eq_error_of_ok patternsRead
        apply bind_eq_error_of_ok bindsRead
        exact bind_eq_error.mpr (.inl (associations_of_lacksIris lacksIris))

/-- Branches, the first of which that is not read is neither taken nor refused. -/
def UnionEscapes (branches : List Value) : Prop :=
  ∃ before branch after, branches = before ++ branch :: after ∧
    (∀ earlier ∈ before, ∃ read, bindBranchOf earlier = .ok read) ∧ BranchEscapes branch

theorem bindUnionOf_blamesOr {branches : List Value} {optional : Value}
    (areWithin : ∀ branch ∈ branches, branch.Within outer) :
    FailsOnly (BlamesOr outer fun fault => fault = .wrongKind ∧ UnionEscapes branches)
      (bindUnionOf branches optional) := by
  have branchesRead : FailsOnly (BlamesOr outer fun fault => fault = .wrongKind ∧ UnionEscapes branches)
      (branches.mapM bindBranchOf) := by
    intro failure failed
    rcases mapM_eq_error.mp failed with ⟨before, branch, after, rfl, areRead, fails⟩
    rcases bindBranchOf_blamesOr (areWithin branch (by simp)) failure fails with blames | ⟨_, rfl, rfl, escapes⟩
    · exact .inl blames
    · exact .inr ⟨_, rfl, rfl, before, branch, after, rfl, areRead, escapes⟩
  unfold bindUnionOf
  split
  · exact (blames_refuse_silently rfl).orEscape.bind fun _ => branchesRead.bind fun _ => failsOnly_ok
  · exact branchesRead.bind fun _ => failsOnly_ok

theorem bindUnionOf_of_escapes {branches : List Value} {optional : Value} (escapes : UnionEscapes branches) :
    bindUnionOf branches optional = misuse .wrongKind := by
  rcases escapes with ⟨before, branch, after, rfl, areRead, escapes⟩
  have fails : (before ++ branch :: after).mapM bindBranchOf = misuse .wrongKind :=
    mapM_eq_error.mpr ⟨before, branch, after, rfl, areRead, bindBranchOf_of_escapes escapes⟩
  unfold bindUnionOf
  rw [fails]
  cases before <;> rfl

/-! ## Queries as they are made -/

/-- Counts that are something, but no mapping. -/
def IsNoMapping (count : Value) : Prop := count.truth = true ∧ count.entries? = none

theorem countsOf_blamesOr (isWithin : value.Within outer) :
    FailsOnly (BlamesOr outer fun fault => fault = .noSuchOperation ∧ IsNoMapping value) (countsOf value) := by
  unfold countsOf
  split
  swap
  · exact failsOnly_ok
  rename_i isTrue
  split
  · rename_i entries areEntries
    apply FailsOnly.orEscape
    intro failure failed
    rcases mapM_eq_error.mp failed with ⟨before, ⟨key, given⟩, after, rfl, _, fails⟩
    have within := Value.within_of_entries areEntries (key, given) (by simp)
    have target : FailsOnly (Blames outer) (countTargetOf key) := by
      unfold countTargetOf
      split
      · exact failsOnly_ok
      · exact (Value.blames_asVariable (within.1.trans isWithin)).map
    refine (target.bind fun _ => ?_) failure fails
    exact (Value.blames_asVariable (within.2.trans isWithin)).bind fun _ => failsOnly_ok
  · rename_i notMapping
    exact failsOnly_error (.inr ⟨_, rfl, rfl, isTrue, notMapping⟩)

theorem countsOf_of_noMapping (isNoMapping : IsNoMapping value) : countsOf value = misuse .noSuchOperation := by
  unfold countsOf
  rw [if_pos isNoMapping.1, isNoMapping.2]

namespace Clauses

variable {named : List Value}

theorem select_blamesOr (namedWithin : ∀ name ∈ named, name.Within outer) (isWithin : value.Within outer) :
    FailsOnly (BlamesOr outer fun fault => fault = .noSuchOperation ∧ IsNoMapping value ∧
      ∃ names, named.mapM Value.asVariable = .ok names) (select named value) := by
  apply (Value.blames_mapM namedWithin fun _ => Value.blames_asVariable).orEscape.bind_of_ok
  intro names areNames
  apply FailsOnly.bind
  · apply (countsOf_blamesOr isWithin).weaken
    rintro fault ⟨rfl, isNoMapping⟩
    exact ⟨rfl, isNoMapping, names, areNames⟩
  · intro counts
    exact failsOnly_ok

theorem select_of_noMapping {names : List String} (isNoMapping : IsNoMapping value)
    (areNames : named.mapM Value.asVariable = .ok names) : select named value = misuse .noSuchOperation := by
  unfold select
  rw [areNames, countsOf_of_noMapping isNoMapping]
  rfl

theorem blames_describe (namedWithin : ∀ name ∈ named, name.Within outer) :
    FailsOnly (Blames outer) (describe named) := by
  apply FailsOnly.bind
  · apply Value.blames_mapM namedWithin
    intro value isWithin
    unfold describedOf
    split
    · exact failsOnly_ok
    · exact (Value.blames_asVariable isWithin).map
  · intro projection
    exact failsOnly_ok

theorem blames_construct {patterns : List Value} (areWithin : ∀ pattern ∈ patterns, pattern.Within outer) :
    FailsOnly (Blames outer) (construct patterns) := by
  unfold construct
  apply blames_guard rfl
  exact (Value.blames_asPatterns areWithin).bind fun _ => failsOnly_ok

end Clauses

theorem blames_formOf (isWithin : value.Within outer) : FailsOnly (Blames outer) (formOf value) := by
  unfold formOf
  split
  · split
    · exact failsOnly_ok
    · exact blames_refuse_showing isWithin rfl
  · exact blames_refuse_showing isWithin rfl

/-! ## Declarations -/

/-- The keys and values of some entries are within a value. -/
def EntriesWithin (outer : Value) (entries : List (Value × Value)) : Prop :=
  ∀ entry ∈ entries, entry.1.Within outer ∧ entry.2.Within outer

theorem EntriesWithin.insertEntry {key : Value} {entries : List (Value × Value)}
    (areWithin : EntriesWithin outer entries) (keyWithin : key.Within outer) (isWithin : value.Within outer) :
    EntriesWithin outer (Value.insertEntry key value entries) := by
  induction entries with
  | nil =>
      intro entry mem
      cases List.mem_singleton.mp mem
      exact ⟨keyWithin, isWithin⟩
  | cons first rest ih =>
      have restWithin := ih fun entry mem => areWithin entry (.tail _ mem)
      unfold Value.insertEntry
      split
      · rintro entry (_ | ⟨_, mem⟩)
        · exact ⟨(areWithin first (.head _)).1, isWithin⟩
        · exact areWithin entry (.tail _ mem)
      · rintro entry (_ | ⟨_, mem⟩)
        · exact areWithin first (.head _)
        · exact restWithin entry mem

theorem EntriesWithin.foldl_insertEntry {added entries : List (Value × Value)} (areWithin : EntriesWithin outer entries)
    (addedWithin : EntriesWithin outer added) :
    EntriesWithin outer (added.foldl (fun sum (key, value) => Value.insertEntry key value sum) entries) := by
  induction added generalizing entries with
  | nil => exact areWithin
  | cons first rest ih =>
      apply ih
      · exact areWithin.insertEntry (addedWithin first (.head _)).1 (addedWithin first (.head _)).2
      · intro entry mem
        exact addedWithin entry (.tail _ mem)

variable {named : List (String × Value)}

theorem blames_declaredBy (isWithin : value.Within outer) : FailsOnly (Blames outer) (declaredBy value named) := by
  unfold declaredBy
  simp only
  split
  · split
    · exact blames_refuse_silently rfl
    · exact failsOnly_ok
  · exact failsOnly_ok
  · split
    · exact failsOnly_ok
    · exact blames_refuse_showing isWithin rfl

theorem entriesWithin_named (namedWithin : ∀ name value, (name, value) ∈ named → value.Within outer) :
    EntriesWithin outer (named.map fun (name, value) => (Value.text name, value)) := by
  intro entry mem
  rcases List.mem_map.mp mem with ⟨⟨name, value⟩, isNamed, rfl⟩
  exact ⟨.text, namedWithin name value isNamed⟩

theorem within_of_declaredBy {written : Option String} {entries : List (Value × Value)} (isWithin : value.Within outer)
    (namedWithin : ∀ name value, (name, value) ∈ named → value.Within outer)
    (declared : declaredBy value named = .ok (written, entries)) : EntriesWithin outer entries := by
  have textsWithin := entriesWithin_named namedWithin
  unfold declaredBy at declared
  simp only at declared
  split at declared
  · split at declared <;> cases declared
    exact textsWithin
  · rename_i given
    cases declared
    apply EntriesWithin.foldl_insertEntry _ textsWithin
    intro entry mem
    have isMapping : (Value.map given).entries? = some given := rfl
    have within := Value.within_of_entries isMapping entry mem
    exact ⟨within.1.trans isWithin, within.2.trans isWithin⟩
  · split at declared <;> cases declared
    exact textsWithin

theorem blames_declaration {name : Value} (nameWithin : name.Within outer) (isWithin : value.Within outer) :
    FailsOnly (Blames outer) (declaration name value) :=
  (blames_spell nameWithin).bind fun _ => (blames_spell isWithin).bind fun _ => failsOnly_ok

end Sparql
