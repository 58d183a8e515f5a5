import Sparql.Proofs.Number.Limit
import Sparql.Proofs.Outcome
import Sparql.Query.Build
import Sparql.Value.Display

/-!
# Parts of values

What stands inside of a value, however deep. Data are values without objects and without what calls gave back. All
that keeps data from being shown is a number of too many digits somewhere inside. A pattern that is read out of a value
was checked while it was read, or stands ready-made in the value.
-/

namespace Sparql.Value

/-- What a collection holds: its items, or its keys and what stands under them. -/
def contents : Value → List Value
  | .list items | .tuple items | .set items => items
  | .map entries => entries.flatMap fun (key, value) => [key, value]
  | .answer _ _ elements => elements.getD []
  | _ => []

/-- A value is part of itself and of every collection that holds it. -/
inductive Part (part : Value) : Value → Prop
  | here : Part part part
  | inside {item whole : Value} (mem : item ∈ whole.contents) (isPart : Part part item) : Part part whole

/-- Whether the value is an object, or what a call gave back. -/
def isShared : Value → Bool
  | .object .. | .answer .. => true
  | _ => false

/-- A value without objects and without what calls gave back. -/
def IsData (value : Value) : Prop := ∀ part, Part part value → part.isShared = false

/-- A value with an integer of too many digits. -/
def HoldsLong (value : Value) : Prop := ∃ number, Part (.int number) value ∧ 10 ^ Number.maxDigits ≤ number.natAbs

/-- The value is data if the other one is, and has no long numbers if the other one has none. -/
structure Within (value outer : Value) : Prop where
  data : outer.IsData → value.IsData
  long : value.HoldsLong → outer.HoldsLong

variable {value outer : Value}

namespace Within

theorem trans {middle : Value} (inner : value.Within middle) (isWithin : middle.Within outer) : value.Within outer :=
  ⟨fun data => inner.data (isWithin.data data), fun long => isWithin.long (inner.long long)⟩

theorem of_mem (mem : value ∈ outer.contents) : value.Within outer := by
  constructor
  · intro data part isPart
    exact data part (.inside mem isPart)
  · rintro ⟨number, isPart, isLong⟩
    exact ⟨number, .inside mem isPart, isLong⟩

theorem of_mem_list {items : List Value} (mem : value ∈ items) : value.Within (.list items) := of_mem mem

/-- What is neither an object nor a long number is within a value if all that it holds is. -/
theorem of_contents (notShared : value.isShared = false)
    (notLong : ∀ number, value = .int number → number.natAbs < 10 ^ Number.maxDigits)
    (areWithin : ∀ item ∈ value.contents, item.Within outer) : value.Within outer := by
  constructor
  · intro data part isPart
    cases isPart with
    | here => exact notShared
    | inside mem isPart => exact (areWithin _ mem).data data part isPart
  · rintro ⟨number, isPart, isLong⟩
    cases isPart with
    | here => exact absurd isLong (Nat.not_le.mpr (notLong number rfl))
    | inside mem isPart => exact (areWithin _ mem).long ⟨number, isPart, isLong⟩

theorem list {items : List Value} (areWithin : ∀ item ∈ items, item.Within outer) :
    (Value.list items).Within outer :=
  of_contents rfl (by rintro _ ⟨⟩) areWithin

theorem tuple {items : List Value} (areWithin : ∀ item ∈ items, item.Within outer) :
    (Value.tuple items).Within outer :=
  of_contents rfl (by rintro _ ⟨⟩) areWithin

theorem null : Value.null.Within outer := of_contents rfl (by rintro _ ⟨⟩) (by rintro _ ⟨⟩)

theorem bool {content : Bool} : (Value.bool content).Within outer := of_contents rfl (by rintro _ ⟨⟩) (by rintro _ ⟨⟩)

theorem text {content : String} : (Value.text content).Within outer :=
  of_contents rfl (by rintro _ ⟨⟩) (by rintro _ ⟨⟩)

theorem term {content : Term} : (Value.term content).Within outer :=
  of_contents rfl (by rintro _ ⟨⟩) (by rintro _ ⟨⟩)

end Within

/-! ## What is read out of a value -/

variable {items : List Value}

theorem within_of_items (isItems : value.items? = some items) : ∀ item ∈ items, item.Within value := by
  intro item mem
  cases value with
  | list given =>
      cases isItems
      exact .of_mem mem
  | tuple given =>
      cases isItems
      exact .of_mem mem
  | pattern given =>
      cases isItems
      rcases List.mem_map.mp mem with ⟨content, _, rfl⟩
      exact .term
  | _ => cases isItems

theorem within_of_entries {entries : List (Value × Value)} (isEntries : value.entries? = some entries) :
    ∀ entry ∈ entries, entry.1.Within value ∧ entry.2.Within value := by
  intro entry mem
  cases value with
  | map given =>
      cases isEntries
      constructor
      · exact .of_mem (List.mem_flatMap.mpr ⟨entry, mem, by simp⟩)
      · exact .of_mem (List.mem_flatMap.mpr ⟨entry, mem, by simp⟩)
  | _ => cases isEntries

theorem within_of_characters {content : String} : ∀ item ∈ characters content, item.Within value := by
  intro item mem
  rcases List.mem_map.mp mem with ⟨_, _, rfl⟩
  exact .text

theorem within_of_elements (areElements : value.elements? = some items) : ∀ item ∈ items, item.Within value := by
  intro item mem
  cases value with
  | list | tuple | set =>
      cases areElements
      exact .of_mem mem
  | map entries =>
      cases areElements
      rcases List.mem_map.mp mem with ⟨entry, isEntry, rfl⟩
      exact (within_of_entries rfl entry isEntry).1
  | text | term =>
      cases areElements
      exact within_of_characters item mem
  | bytes given =>
      cases areElements
      rcases List.mem_map.mp mem with ⟨byte, _, rfl⟩
      refine .of_contents rfl (fun number isNumber => ?_) (by rintro _ ⟨⟩)
      cases isNumber
      have few : byte.toNat < 10 ^ 3 := (UInt8.toNat_lt byte).trans (by decide)
      exact few.trans_le (Nat.pow_le_pow_right (by decide) (by decide))
  | pattern given =>
      cases areElements
      rcases List.mem_map.mp mem with ⟨content, _, rfl⟩
      exact .term
  | graph statements =>
      cases areElements
      rcases List.mem_map.mp mem with ⟨statement, _, rfl⟩
      apply Within.tuple
      simp only [List.mem_cons, List.not_mem_nil, or_false, forall_eq_or_imp, forall_eq]
      exact ⟨.term, .term, .term⟩
  | answer looks truth elements =>
      refine .of_mem ?_
      cases elements with
      | none => cases areElements
      | some given =>
          cases areElements
          exact mem
  | _ => cases areElements

/-! ## Ready-made patterns -/

/-- A pattern stands in a value as it is, or as part of a branch that stands there. -/
def Gives (pattern : Pattern) (value : Value) : Prop :=
  ∃ part, Part part value ∧ (part = .pattern pattern ∨ ∃ branch, part = .branch branch ∧ pattern ∈ branch.patterns)

variable {pattern : Pattern}

theorem gives_pattern : (Value.pattern pattern).Gives pattern := ⟨_, .here, .inl rfl⟩

theorem gives_branch {branch : BindBranch} (mem : pattern ∈ branch.patterns) : (Value.branch branch).Gives pattern :=
  ⟨_, .here, .inr ⟨branch, rfl, mem⟩⟩

theorem Gives.of_mem {item : Value} (gives : item.Gives pattern) (mem : item ∈ value.contents) : value.Gives pattern := by
  rcases gives with ⟨part, isPart, isGiven⟩
  exact ⟨part, .inside mem isPart, isGiven⟩

/-- A collection gives what its items give, and nothing else. -/
theorem gives_iff_contents (notPattern : ∀ pattern, value ≠ .pattern pattern) (notBranch : ∀ branch, value ≠ .branch branch) :
    value.Gives pattern ↔ ∃ item ∈ value.contents, item.Gives pattern := by
  constructor
  · rintro ⟨part, isPart, isGiven⟩
    cases isPart with
    | here =>
        rcases isGiven with rfl | ⟨branch, rfl, _⟩
        · exact absurd rfl (notPattern pattern)
        · exact absurd rfl (notBranch branch)
    | inside mem isPart => exact ⟨_, mem, part, isPart, isGiven⟩
  · rintro ⟨item, mem, gives⟩
    exact gives.of_mem mem

theorem not_gives_text {content : String} : ¬(Value.text content).Gives pattern := by
  simp [gives_iff_contents, contents]

theorem not_gives_int {number : Int} : ¬(Value.int number).Gives pattern := by
  simp [gives_iff_contents, contents]

theorem not_gives_term {content : Term} : ¬(Value.term content).Gives pattern := by
  simp [gives_iff_contents, contents]

theorem not_gives_null : ¬Value.null.Gives pattern := by
  simp [gives_iff_contents, contents]

theorem gives_of_items (isItems : value.items? = some items) : ∀ item ∈ items, item.Gives pattern → value.Gives pattern := by
  intro item mem gives
  cases value with
  | list given | tuple given =>
      cases isItems
      exact gives.of_mem mem
  | pattern given =>
      cases isItems
      rcases List.mem_map.mp mem with ⟨content, _, rfl⟩
      exact absurd gives not_gives_term
  | _ => cases isItems

theorem gives_of_elements (areElements : value.elements? = some items) :
    ∀ item ∈ items, item.Gives pattern → value.Gives pattern := by
  intro item mem gives
  cases value with
  | list | tuple | set =>
      cases areElements
      exact gives.of_mem mem
  | map entries =>
      cases areElements
      rcases List.mem_map.mp mem with ⟨entry, isEntry, rfl⟩
      exact gives.of_mem (List.mem_flatMap.mpr ⟨entry, isEntry, .head _⟩)
  | text | term =>
      cases areElements
      rcases List.mem_map.mp mem with ⟨_, _, rfl⟩
      exact absurd gives not_gives_text
  | bytes given =>
      cases areElements
      rcases List.mem_map.mp mem with ⟨byte, _, rfl⟩
      exact absurd gives not_gives_int
  | pattern given =>
      cases areElements
      rcases List.mem_map.mp mem with ⟨content, _, rfl⟩
      exact absurd gives not_gives_term
  | graph statements =>
      cases areElements
      rcases List.mem_map.mp mem with ⟨statement, _, rfl⟩
      rcases (gives_iff_contents (by simp) (by simp)).mp gives with ⟨content, isContent, gives⟩
      have isTerm : ∃ term, content = .term term := by
        simp only [contents, List.mem_cons, List.not_mem_nil, or_false] at isContent
        rcases isContent with rfl | rfl | rfl <;> exact ⟨_, rfl⟩
      rcases isTerm with ⟨term, rfl⟩
      exact absurd gives not_gives_term
  | answer looks truth elements =>
      cases elements with
      | none => cases areElements
      | some given =>
          cases areElements
          exact gives.of_mem mem
  | _ => cases areElements

/-- A pattern that is read was checked, unless it is given as it is. -/
theorem checked_or_gives_of_asPattern (read : value.asPattern = .ok pattern) : pattern.IsChecked ∨ value.Gives pattern := by
  unfold asPattern at read
  split at read
  · cases read
    exact .inr gives_pattern
  · rcases Outcome.map_eq_ok.mp read with ⟨checked, _, rfl⟩
    exact .inl checked.property
  · rcases Outcome.map_eq_ok.mp read with ⟨checked, _, rfl⟩
    exact .inl checked.property
  · cases read

variable {values : List Value} {patterns : List Pattern}

theorem checked_or_gives_of_asPatterns (read : asPatterns values = .ok patterns) (mem : pattern ∈ patterns) :
    pattern.IsChecked ∨ ∃ value ∈ values, value.Gives pattern := by
  rcases Outcome.exists_of_mem_mapM read mem with ⟨value, isValue, read⟩
  exact (checked_or_gives_of_asPattern read).imp id fun gives => ⟨value, isValue, gives⟩

theorem checked_or_gives_of_elementPatterns (read : value.elementPatterns = .ok patterns) (mem : pattern ∈ patterns) :
    pattern.IsChecked ∨ value.Gives pattern := by
  unfold elementPatterns at read
  split at read
  · next elements areElements =>
      rcases checked_or_gives_of_asPatterns read mem with checked | ⟨element, isElement, gives⟩
      · exact .inl checked
      · exact .inr (gives_of_elements areElements element isElement gives)
  · cases read

theorem checked_or_gives_of_bindBranchOf {branch : BindBranch} (read : bindBranchOf value = .ok branch)
    (mem : pattern ∈ branch.patterns) : pattern.IsChecked ∨ value.Gives pattern := by
  unfold bindBranchOf at read
  split at read
  · cases read
    exact .inr (gives_branch mem)
  · split at read
    · next given binds filters areItems =>
        simp only [Outcome.bind_eq_ok, Outcome.pure_eq_ok] at read
        rcases read with ⟨_, _, _, _, patterns, isRead, _, _, _, _, rfl⟩
        exact (checked_or_gives_of_elementPatterns isRead mem).imp id (gives_of_items areItems given (.head _))
    · cases read

/-! ## What cannot be shown -/

/-- Inside of a value that cannot be shown stands an object, or a number of too many digits. -/
def HasReason (fault : Fault) (value : Value) : Prop :=
  (∃ part, Part part value ∧ part.isShared = true) ∨ fault = .badValue ∧ value.HoldsLong

variable {fault : Fault}

theorem HasReason.of_mem {item : Value} (mem : item ∈ value.contents) (hasReason : HasReason fault item) :
    HasReason fault value := by
  rcases hasReason with ⟨part, isPart, isShared⟩ | ⟨isBad, isLong⟩
  · exact .inl ⟨part, .inside mem isPart, isShared⟩
  · exact .inr ⟨isBad, (Within.of_mem mem).long isLong⟩

mutual

theorem hasReason_of_displayFault (value : Value) (hidden : value.displayFault? = some fault) :
    HasReason fault value := by
  cases value with
  | int number =>
      simp only [displayFault?, Option.ite_none_right_eq_some, Option.some.injEq] at hidden
      exact .inr ⟨hidden.2.symm, number, .here, Number.isLong_iff.mp hidden.1⟩
  | list items | tuple items | set items =>
      rcases hasReason_of_displayFaults items hidden with ⟨item, mem, hasReason⟩
      exact hasReason.of_mem mem
  | map entries =>
      rcases hasReason_of_entryFaults entries hidden with ⟨entry, mem, hasReason | hasReason⟩
      · exact hasReason.of_mem (List.mem_flatMap.mpr ⟨entry, mem, by simp⟩)
      · exact hasReason.of_mem (List.mem_flatMap.mpr ⟨entry, mem, by simp⟩)
  | object | answer => exact .inl ⟨_, .here, rfl⟩
  | _ => cases hidden

theorem hasReason_of_displayFaults : ∀ items : List Value, displayFaults? items = some fault →
    ∃ item ∈ items, HasReason fault item
  | item :: rest, hidden => by
      unfold displayFaults? at hidden
      split at hidden
      · cases hidden
        exact ⟨item, .head _, hasReason_of_displayFault item ‹_›⟩
      · rcases hasReason_of_displayFaults rest hidden with ⟨other, mem, hasReason⟩
        exact ⟨other, .tail _ mem, hasReason⟩

theorem hasReason_of_entryFaults : ∀ entries : List (Value × Value), entryFaults? entries = some fault →
    ∃ entry ∈ entries, HasReason fault entry.1 ∨ HasReason fault entry.2
  | (key, value) :: rest, hidden => by
      unfold entryFaults? at hidden
      split at hidden
      · cases hidden
        exact ⟨(key, value), .head _, .inl (hasReason_of_displayFault key ‹_›)⟩
      · cases hidden
        exact ⟨(key, value), .head _, .inr (hasReason_of_displayFault value ‹_›)⟩
      · rcases hasReason_of_entryFaults rest hidden with ⟨other, mem, hasReason⟩
        exact ⟨other, .tail _ mem, hasReason⟩

end

theorem IsData.displayFault (data : value.IsData) (hidden : value.displayFault? = some fault) :
    fault = .badValue ∧ value.HoldsLong := by
  rcases hasReason_of_displayFault value hidden with ⟨part, isPart, isShared⟩ | isLong
  · rw [data part isPart] at isShared
    cases isShared
  · exact isLong

theorem IsData.textFault (data : value.IsData) (hidden : value.textFault? = some fault) :
    fault = .badValue ∧ value.HoldsLong := by
  have notShared := data value .here
  apply data.displayFault
  cases value with
  | object | answer => cases notShared
  | _ => exact hidden

end Sparql.Value
