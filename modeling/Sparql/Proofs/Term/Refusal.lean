import Sparql.Proofs.Outcome
import Sparql.Proofs.Value.Part
import Sparql.Term.Coercion

/-!
# How arguments are refused

A failure blames an argument if it refuses something within it, or if something within it has no text where one is
needed. Arguments that are data are blamed by a refusal of the library, unless a number in them has too many digits.
-/

namespace Sparql

open Outcome

namespace Failure

/-- A failure that is about something within a value. -/
inductive Blames (outer : Value) : Failure → Prop
  | refusal {cause : ConstructionError} (shown : ∀ value, cause.shown? = some value → value.Within outer) :
      Blames outer (.ofRefusal cause)
  | unwritable {part : Value} {fault : Fault} (isWithin : part.Within outer) (noText : part.textFault? = some fault) :
      Blames outer (.fault fault)

/-- A refusal of the library, or the fault that a number in a value has too many digits to be written. -/
def IsRefusal (outer : Value) (failure : Failure) : Prop :=
  (∃ cause, failure = .construction cause) ∨ failure = .fault .badValue ∧ outer.HoldsLong

variable {outer : Value} {failure : Failure}

theorem Blames.isUnsent (blames : failure.Blames outer) : failure.IsUnsent := by
  cases blames with
  | refusal shown =>
      unfold ofRefusal
      split <;> rfl
  | unwritable => rfl

theorem Blames.isRefusal (blames : failure.Blames outer) (data : outer.IsData) : failure.IsRefusal outer := by
  cases blames with
  | @refusal cause shown =>
      unfold ofRefusal
      split
      · rename_i limit hidden
        rcases Option.bind_eq_some_iff.mp hidden with ⟨value, isShown, hidden⟩
        rcases ((shown value isShown).data data).displayFault hidden with ⟨rfl, isLong⟩
        exact .inr ⟨rfl, (shown value isShown).long isLong⟩
      · exact .inl ⟨cause, rfl⟩
  | unwritable isWithin noText =>
      rcases (isWithin.data data).textFault noText with ⟨rfl, isLong⟩
      exact .inr ⟨rfl, isWithin.long isLong⟩

end Failure

open Failure

variable {α β : Type} {value outer : Value}

namespace Outcome

theorem blames_refuse {cause : ConstructionError} (shown : ∀ value, cause.shown? = some value → value.Within outer) :
    FailsOnly (Blames outer) (refuse cause : Outcome α) :=
  failsOnly_error (.refusal shown)

/-- A refusal that shows the value it is about. -/
theorem blames_refuse_showing {cause : ConstructionError} {shown : Value} (isWithin : shown.Within outer)
    (shows : cause.shown? = some shown) : FailsOnly (Blames outer) (refuse cause : Outcome α) := by
  apply blames_refuse
  intro value isShown
  cases shows.symm.trans isShown
  exact isWithin

/-- A refusal that shows nothing. -/
theorem blames_refuse_silently {cause : ConstructionError} (silent : cause.shown? = none) :
    FailsOnly (Blames outer) (refuse cause : Outcome α) := by
  apply blames_refuse
  intro value isShown
  cases silent.symm.trans isShown

/-- A check in front of something else. -/
theorem blames_guard {condition : Prop} [Decidable condition] {cause : ConstructionError} {rest : Outcome α}
    (silent : cause.shown? = none) (restBlames : FailsOnly (Blames outer) rest) :
    FailsOnly (Blames outer) (if condition then refuse cause >>= fun _ : Unit => rest else rest) := by
  split
  · exact (blames_refuse_silently silent).bind fun _ => restBlames
  · exact restBlames

/-- A failure that blames a value, or one of some faults. -/
def BlamesOr (outer : Value) (escapes : Fault → Prop) (failure : Failure) : Prop :=
  failure.Blames outer ∨ ∃ fault, failure = .fault fault ∧ escapes fault

theorem FailsOnly.orEscape {outcome : Outcome α} {escapes : Fault → Prop} (blames : FailsOnly (Blames outer) outcome) :
    FailsOnly (BlamesOr outer escapes) outcome :=
  blames.mono fun _ blames => .inl blames

theorem FailsOnly.weaken {outcome : Outcome α} {escapes wider : Fault → Prop}
    (blames : FailsOnly (BlamesOr outer escapes) outcome) (weaken : ∀ fault, escapes fault → wider fault) :
    FailsOnly (BlamesOr outer wider) outcome := by
  intro failure failed
  rcases blames failure failed with blames | ⟨fault, rfl, escapes⟩
  · exact .inl blames
  · exact .inr ⟨fault, rfl, weaken fault escapes⟩

theorem blames_spell (isWithin : value.Within outer) : FailsOnly (Blames outer) value.spell := by
  unfold Value.spell
  split
  · rename_i limit noText
    exact failsOnly_error (.unwritable isWithin noText)
  · exact failsOnly_ok

end Outcome

namespace Value

theorem blames_asVariable (isWithin : value.Within outer) : FailsOnly (Blames outer) value.asVariable := by
  unfold asVariable
  split
  · exact failsOnly_ok
  · split
    · exact failsOnly_ok
    · exact blames_refuse_showing isWithin rfl
  · exact blames_refuse_showing isWithin rfl

theorem blames_asTerm (isWithin : value.Within outer) : FailsOnly (Blames outer) value.asTerm := by
  unfold asTerm
  split
  · exact failsOnly_ok
  · exact (blames_asVariable isWithin).map
  · split
    · exact failsOnly_ok
    · rename_i limit _ noText
      exact failsOnly_error (.unwritable isWithin noText)
    · exact blames_refuse_showing isWithin rfl

theorem blames_asResource (isWithin : value.Within outer) : FailsOnly (Blames outer) value.asResource := by
  unfold asResource
  split
  · split
    · exact blames_refuse_showing isWithin rfl
    · exact failsOnly_ok
  · exact failsOnly_ok
  · split
    · exact failsOnly_ok
    · split
      · exact blames_refuse_showing isWithin rfl
      · exact failsOnly_ok
  · exact blames_refuse_showing isWithin rfl

theorem blames_asIri (isWithin : value.Within outer) : FailsOnly (Blames outer) value.asIri := by
  unfold asIri
  split
  · exact failsOnly_ok
  · split
    · exact blames_refuse_showing isWithin rfl
    · exact failsOnly_ok
  · exact blames_refuse_showing isWithin rfl

theorem blames_patternOf {subject predicate object : Value} (isWithin : value.Within outer)
    (areItems : value.items? = some [subject, predicate, object]) :
    FailsOnly (Blames outer) (value.patternOf subject predicate object) := by
  apply (blames_asTerm ((within_of_items areItems _ (by simp)).trans isWithin)).bind
  intro subject
  apply (blames_asTerm ((within_of_items areItems _ (by simp)).trans isWithin)).bind
  intro predicate
  apply (blames_asTerm ((within_of_items areItems _ (by simp)).trans isWithin)).bind
  intro object
  split
  · exact blames_refuse_showing isWithin rfl
  · split
    · exact blames_refuse_showing isWithin rfl
    · exact failsOnly_ok

theorem blames_asPattern (isWithin : value.Within outer) : FailsOnly (Blames outer) value.asPattern := by
  unfold asPattern
  split
  case h_1 => exact failsOnly_ok
  case h_4 => exact blames_refuse_showing isWithin rfl
  all_goals exact (blames_patternOf isWithin rfl).map

/-- What is read item by item blames what its items do. -/
theorem blames_mapM {read : Value → Outcome β} {values : List Value} (areWithin : ∀ value ∈ values, value.Within outer)
    (blames : ∀ value, value.Within outer → FailsOnly (Blames outer) (read value)) :
    FailsOnly (Blames outer) (values.mapM read) := by
  intro failure failed
  rcases mapM_eq_error.mp failed with ⟨before, value, after, rfl, _, fails⟩
  exact blames value (areWithin value (by simp)) failure fails

theorem blames_asPatterns {values : List Value} (areWithin : ∀ value ∈ values, value.Within outer) :
    FailsOnly (Blames outer) (asPatterns values) :=
  blames_mapM areWithin fun _ => blames_asPattern

/-- The patterns of a collection fail otherwise exactly if it is none. -/
theorem elementPatterns_blamesOr (isWithin : value.Within outer) :
    FailsOnly (BlamesOr outer fun fault => fault = .wrongKind ∧ value.elements? = none) value.elementPatterns := by
  unfold elementPatterns
  split
  · rename_i values areElements
    exact (blames_asPatterns fun item mem => (within_of_elements areElements item mem).trans isWithin).orEscape
  · rename_i notElements
    exact failsOnly_error (.inr ⟨_, rfl, rfl, notElements⟩)

theorem elementPatterns_of_notElements (notElements : value.elements? = none) :
    value.elementPatterns = misuse .wrongKind := by
  unfold elementPatterns
  rw [notElements]

end Value

/-! ## Arguments of a call -/

namespace Arguments

/-- All that a call is given. -/
def given (arguments : Arguments) : Value := .list (arguments.positional ++ arguments.named.map (·.2))

variable {arguments : Arguments} {parameters : List Parameter} {values : List Value}

theorem within_of_positional (mem : value ∈ arguments.positional) : value.Within arguments.given :=
  .of_mem_list (List.mem_append_left _ mem)

theorem within_of_named {name : String} (mem : (name, value) ∈ arguments.named) : value.Within arguments.given :=
  .of_mem_list (List.mem_append_right _ (List.mem_map_of_mem mem))

theorem mem_of_named? {name : String} (isNamed : arguments.named? name = some value) :
    ∃ given, (given, value) ∈ arguments.named := by
  rcases Option.map_eq_some_iff.mp isNamed with ⟨⟨given, _⟩, found, rfl⟩
  exact ⟨given, List.mem_of_find?_eq_some found⟩

theorem length_of_assign {positional : List Value} (bound : arguments.assign parameters positional = .ok values) :
    values.length = parameters.length := by
  induction parameters generalizing positional values with
  | nil =>
      cases positional with
      | nil =>
          cases bound
          rfl
      | cons _ _ => cases bound
  | cons parameter parameters ih =>
      cases positional <;> unfold assign at bound <;> split at bound
      all_goals try cases bound
      all_goals
        rcases map_eq_ok.mp bound with ⟨rest, restBound, rfl⟩
        simp [ih restBound]

/-- What parameters stand for is given or is their value when nothing is. -/
theorem within_of_assign {positional : List Value} (positionalWithin : ∀ value ∈ positional, value.Within outer)
    (namedWithin : ∀ name value, (name, value) ∈ arguments.named → value.Within outer)
    (absentWithin : ∀ parameter ∈ parameters, ∀ value, parameter.absent = some value → value.Within outer)
    (bound : arguments.assign parameters positional = .ok values) : ∀ value ∈ values, value.Within outer := by
  induction parameters generalizing positional values with
  | nil =>
      cases positional with
      | nil =>
          cases bound
          simp
      | cons _ _ => cases bound
  | cons parameter parameters ih =>
      have restWithin := fun other mem => absentWithin other (List.mem_cons_of_mem _ mem)
      cases positional with
      | nil =>
          unfold assign at bound
          split at bound
          · rename_i value isValue
            rcases map_eq_ok.mp bound with ⟨rest, restBound, rfl⟩
            have first : value.Within outer := by
              rw [Option.orElse_eq_orElse, Option.orElse_eq_or, Option.or_eq_some_iff] at isValue
              rcases isValue with isNamed | ⟨_, isAbsent⟩
              · rcases mem_of_named? isNamed with ⟨name, mem⟩
                exact namedWithin name value mem
              · exact absentWithin parameter (.head _) value isAbsent
            rintro other (_ | ⟨_, mem⟩)
            · exact first
            · exact ih (by simp) restWithin restBound other mem
          · cases bound
      | cons value positional =>
          unfold assign at bound
          split at bound
          · cases bound
          · rcases map_eq_ok.mp bound with ⟨rest, restBound, rfl⟩
            rintro other (_ | ⟨_, mem⟩)
            · exact positionalWithin _ (.head _)
            · exact ih (fun other mem => positionalWithin other (.tail _ mem)) restWithin restBound other mem

theorem length_of_bind (bound : arguments.bind parameters = .ok values) : values.length = parameters.length := by
  unfold Arguments.bind at bound
  split at bound
  · exact length_of_assign bound
  · cases bound

theorem within_of_bind
    (absentWithin : ∀ parameter ∈ parameters, ∀ value, parameter.absent = some value → value.Within arguments.given)
    (bound : arguments.bind parameters = .ok values) : ∀ value ∈ values, value.Within arguments.given := by
  unfold Arguments.bind at bound
  split at bound
  · exact within_of_assign (fun _ => within_of_positional) (fun _ _ => within_of_named) absentWithin bound
  · cases bound

theorem within_of_options
    (absentWithin : ∀ parameter ∈ parameters, ∀ value, parameter.absent = some value → value.Within arguments.given)
    (bound : arguments.options parameters = .ok values) : ∀ value ∈ values, value.Within arguments.given := by
  unfold Arguments.options Arguments.bind at bound
  split at bound
  · refine within_of_assign ?_ ?_ absentWithin bound
    · simp
    · intro name value mem
      exact within_of_named mem
  · cases bound

end Arguments

end Sparql
