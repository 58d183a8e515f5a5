import Mathlib.Data.List.TakeWhile
import Sparql.Proofs.Run
import Sparql.Term.Coercion

/-!
# Spellings of variables

A variable is written as its name, as its name behind a question mark, or as the variable itself. Where in an argument
one may stand depends on what the argument is for. Values that differ in spellings at such places alone are read as the
same terms and patterns.
-/

namespace Sparql

open Outcome

/-! ## Names -/

/-- Letters, digits and underscores, not starting with a digit. -/
def IsPlainName (name : String) : Prop :=
  ∃ first rest, name.toList = first :: rest ∧ isVariableStart first = true ∧ ∀ c ∈ rest, isVariableCharacter c = true

/-- The ways to write a variable. -/
def Value.spellings (name : String) : List Value := [.text name, .text ("?" ++ name), .term (.variable name)]

variable {name : String} {value first second : Value}

namespace IsPlainName

theorem noMark (isName : IsPlainName name) : name.toList.dropWhile (· == '?') = name.toList := by
  rcases isName with ⟨first, rest, isText, isStart, _⟩
  rw [isText, List.dropWhile_cons_of_neg]
  intro isMark
  rw [beq_iff_eq.mp isMark] at isStart
  exact absurd isStart (by decide)

theorem stripMarks_eq (isName : IsPlainName name) : stripMarks name = name := by
  rw [stripMarks, isName.noMark, String.ofList_toList]

theorem stripMarks_marked (isName : IsPlainName name) : stripMarks ("?" ++ name) = name := by
  rw [stripMarks, String.toList_append]
  change String.ofList (name.toList.dropWhile (· == '?')) = name
  rw [isName.noMark, String.ofList_toList]

theorem isBareName (isName : IsPlainName name) : isBareName name.toList = true := by
  rcases isName with ⟨first, rest, isText, isStart, areCharacters⟩
  rw [isText, Sparql.isBareName, isStart, List.dropWhile_eq_nil_iff.mpr areCharacters]
  rfl

theorem isVariableName (isName : IsPlainName name) : isVariableName name.toList = true := by
  have isBare := isName.isBareName
  rcases isName with ⟨first, rest, isText, isStart, _⟩
  unfold Sparql.isVariableName
  split
  · rename_i starts
    rw [isText] at starts
    cases starts
    exact absurd isStart (by decide)
  · exact isBare

theorem isVariableName_marked (isName : IsPlainName name) : Sparql.isVariableName ("?" ++ name).toList = true := by
  rw [String.toList_append]
  exact isName.isBareName

end IsPlainName

namespace Value

theorem asVariable_of_spelling (isName : IsPlainName name) (isSpelling : value ∈ spellings name) :
    value.asVariable = .ok name := by
  simp only [spellings, List.mem_cons, List.not_mem_nil, or_false] at isSpelling
  rcases isSpelling with rfl | rfl | rfl
  · simp only [asVariable, isName.isVariableName, isName.stripMarks_eq, if_true]
  · simp only [asVariable, isName.isVariableName_marked, isName.stripMarks_marked, if_true]
  · rfl

theorem isVariable_of_spelling (isName : IsPlainName name) (isSpelling : value ∈ spellings name) :
    value.isVariable = true := by
  simp only [spellings, List.mem_cons, List.not_mem_nil, or_false] at isSpelling
  rcases isSpelling with rfl | rfl | rfl
  · exact isName.isVariableName
  · exact isName.isVariableName_marked
  · rfl

theorem asTerm_of_spelling (isName : IsPlainName name) (isSpelling : value ∈ spellings name) :
    value.asTerm = .ok (.variable name) := by
  have isVariable := asVariable_of_spelling isName isSpelling
  simp only [spellings, List.mem_cons, List.not_mem_nil, or_false] at isSpelling
  rcases isSpelling with rfl | rfl | rfl
  · rw [asTerm, isVariable]
    rfl
  · rw [asTerm, isVariable]
    rfl
  · rfl

theorem asResource_of_spelling (isName : IsPlainName name) (isSpelling : value ∈ spellings name) :
    value.asResource = .ok (.variable name) := by
  simp only [spellings, List.mem_cons, List.not_mem_nil, or_false] at isSpelling
  rcases isSpelling with rfl | rfl | rfl
  · simp only [asResource, isName.isVariableName, isName.stripMarks_eq, if_true]
  · simp only [asResource, isName.isVariableName_marked, isName.stripMarks_marked, if_true]
  · rfl

end Value

/-! ## Places -/

/-- What an argument, or a part of one, is for. -/
inductive Place where
  | fixed
  | variable
  /-- Three terms. -/
  | pattern
  | patterns
  /-- A variable, or a list of them. -/
  | names
  /-- A variable, a variable and its direction, or a mapping from variables to directions. -/
  | entry
  /-- A mapping from variables to anything. -/
  | mapping
  /-- A mapping from variables to variables. -/
  | counts
  /-- Patterns, and two mappings from variables. -/
  | branch
deriving DecidableEq, Repr

namespace Place

/-- Whether a variable may stand there by itself. -/
def takesVariable : Place → Bool
  | .variable | .names | .entry => true
  | .fixed | .pattern | .patterns | .mapping | .counts | .branch => false

/-- What the items of a list or a tuple are for. -/
def items? : Place → Option (Nat → Place)
  | .pattern | .names => some fun _ => .variable
  | .patterns => some fun _ => .pattern
  | .entry => some fun
    | 0 => .variable
    | _ => .fixed
  | .branch => some fun
    | 0 => .patterns
    | _ => .mapping
  | .fixed | .variable | .mapping | .counts => none

/-- What the keys and the values of a mapping are for. -/
def entries? : Place → Option (Place × Place)
  | .entry | .mapping => some (.variable, .fixed)
  | .counts => some (.variable, .variable)
  | .fixed | .variable | .pattern | .patterns | .names | .branch => none

end Place

/-- Items are related at their places. -/
inductive Itemwise {α : Type} (related : Place → α → α → Prop) : (Nat → Place) → List α → List α → Prop
  | nil {item : Nat → Place} : Itemwise related item [] []
  | cons {item : Nat → Place} {first second : α} {rest others : List α} (isRelated : related (item 0) first second)
      (areRelated : Itemwise related (fun index => item (index + 1)) rest others) :
      Itemwise related item (first :: rest) (second :: others)

section Itemwise

variable {α : Type} {related : Place → α → α → Prop} {place : Place} {items others : List α}

theorem Itemwise.forall₂ (areRelated : Itemwise related (fun _ => place) items others) :
    List.Forall₂ (related place) items others := by
  generalize isConstant : (fun _ : Nat => place) = item at areRelated
  induction areRelated with
  | nil => exact .nil
  | cons isRelated _ ih =>
      subst isConstant
      exact .cons isRelated (ih rfl)

theorem Itemwise.of_forall₂ (areRelated : List.Forall₂ (related place) items others) :
    Itemwise related (fun _ => place) items others := by
  induction areRelated with
  | nil => exact .nil
  | cons isRelated _ ih => exact .cons isRelated ih

/-- Items under names that are for what the items are for. -/
theorem Itemwise.zip {item : Nat → Place} {named : String → Place} {names : List String}
    (areRelated : Itemwise related item items others)
    (atNames : ∀ index name, names[index]? = some name → named name = item index) :
    List.Forall₂ (fun given other => given.1 = other.1 ∧ related (named given.1) given.2 other.2)
      (names.zip items) (names.zip others) := by
  induction areRelated generalizing names with
  | nil =>
      rw [List.zip_nil_right]
      exact .nil
  | cons isRelated _ ih =>
      cases names with
      | nil => exact .nil
      | cons name names =>
          refine .cons ⟨rfl, ?_⟩ (ih fun index name found => atNames (index + 1) name found)
          rw [atNames 0 name rfl]
          exact isRelated

/-- The entries of mappings whose keys and whose values are related. -/
theorem forall₂_of_entries {key value : Place} {entries others : List (α × α)}
    (keys : Itemwise related (fun _ => key) (entries.map (·.1)) (others.map (·.1)))
    (values : Itemwise related (fun _ => value) (entries.map (·.2)) (others.map (·.2))) :
    List.Forall₂ (fun entry other => related key entry.1 other.1 ∧ related value entry.2 other.2) entries others := by
  induction entries generalizing others with
  | nil =>
      cases others with
      | nil => exact .nil
      | cons => cases keys
  | cons entry entries ih =>
      cases others with
      | nil => cases keys
      | cons other others =>
          cases keys with
          | cons keyRelated keys =>
              cases values with
              | cons valueRelated values => exact .cons ⟨keyRelated, valueRelated⟩ (ih keys values)

end Itemwise

/-! ## Values -/

namespace Value

/-- Two values differ in the spellings of variables alone. -/
inductive Respelled : Place → Value → Value → Prop
  | same {place : Place} {value : Value} : Respelled place value value
  | name {place : Place} {name : String} {first second : Value} (takesVariable : place.takesVariable = true)
      (isName : IsPlainName name) (isFirst : first ∈ spellings name) (isSecond : second ∈ spellings name) :
      Respelled place first second
  | list {place : Place} {item : Nat → Place} {items others : List Value} (hasItems : place.items? = some item)
      (areRespelled : Itemwise Respelled item items others) : Respelled place (.list items) (.list others)
  | tuple {place : Place} {item : Nat → Place} {items others : List Value} (hasItems : place.items? = some item)
      (areRespelled : Itemwise Respelled item items others) : Respelled place (.tuple items) (.tuple others)
  | map {place key value : Place} {entries others : List (Value × Value)}
      (hasEntries : place.entries? = some (key, value))
      (keys : Itemwise Respelled (fun _ => key) (entries.map (·.1)) (others.map (·.1)))
      (values : Itemwise Respelled (fun _ => value) (entries.map (·.2)) (others.map (·.2))) :
      Respelled place (.map entries) (.map others)

namespace Respelled

theorem eq_of_fixed (respelled : Respelled .fixed first second) : first = second := by
  cases respelled with
  | same => rfl
  | name takesVariable => cases takesVariable
  | list hasItems => cases hasItems
  | tuple hasItems => cases hasItems
  | map hasEntries => cases hasEntries

/-- What stands for a variable is the same value, or a variable of the same name. -/
theorem eq_or_name (respelled : Respelled .variable first second) :
    first = second ∨ ∃ name, IsPlainName name ∧ first ∈ spellings name ∧ second ∈ spellings name := by
  cases respelled with
  | same => exact .inl rfl
  | name _ isName isFirst isSecond => exact .inr ⟨_, isName, isFirst, isSecond⟩
  | list hasItems => cases hasItems
  | tuple hasItems => cases hasItems
  | map hasEntries => cases hasEntries

/-- What is one result for all spellings of a variable agrees. -/
theorem agree_of_spellings {α : Type} {read : Value → Outcome α} (respelled : Respelled .variable first second)
    (made : String → α)
    (isMade : ∀ {name value}, IsPlainName name → value ∈ spellings name → read value = .ok (made name)) :
    Agree (· = ·) (read first) (read second) := by
  rcases respelled.eq_or_name with rfl | ⟨name, isName, isFirst, isSecond⟩
  · exact agree_refl _
  · rw [isMade isName isFirst, isMade isName isSecond]
    exact .done rfl

theorem asVariable (respelled : Respelled .variable first second) :
    Agree (· = ·) first.asVariable second.asVariable :=
  respelled.agree_of_spellings id asVariable_of_spelling

theorem asTerm (respelled : Respelled .variable first second) : Agree (· = ·) first.asTerm second.asTerm :=
  respelled.agree_of_spellings .variable asTerm_of_spelling

theorem asResource (respelled : Respelled .variable first second) :
    Agree (· = ·) first.asResource second.asResource :=
  respelled.agree_of_spellings .variable asResource_of_spelling

theorem isVariable (respelled : Respelled .variable first second) : first.isVariable = second.isVariable := by
  rcases respelled.eq_or_name with rfl | ⟨name, isName, isFirst, isSecond⟩
  · rfl
  · rw [isVariable_of_spelling isName isFirst, isVariable_of_spelling isName isSecond]

/-! ### Patterns -/

theorem patternOf {given other subject subject' predicate predicate' object object' : Value}
    (sameSubject : Respelled .variable subject subject') (samePredicate : Respelled .variable predicate predicate')
    (sameObject : Respelled .variable object object') :
    Agree (· = ·) (given.patternOf subject predicate object) (other.patternOf subject' predicate' object') := by
  apply sameSubject.asTerm.bind_eq
  intro subject
  apply samePredicate.asTerm.bind_eq
  intro predicate
  apply sameObject.asTerm.bind_eq
  intro object
  split
  · exact agree_refuse
  · split
    · exact agree_refuse
    · exact .done rfl

/-- Three terms, given as a list or a tuple. -/
theorem asPattern_of_items {items others : List Value} {given other : Value}
    (areRespelled : Itemwise Respelled (fun _ => .variable) items others)
    (isGiven : given = .list items ∧ other = .list others ∨ given = .tuple items ∧ other = .tuple others) :
    Agree (· = ·) given.asPattern other.asPattern := by
  rcases areRespelled with _ | ⟨subject, _ | ⟨predicate, _ | ⟨object, _ | _⟩⟩⟩
  case cons.cons.cons.nil =>
    rcases isGiven with ⟨rfl, rfl⟩ | ⟨rfl, rfl⟩ <;> exact (patternOf subject predicate object).map_eq
  all_goals
    rcases isGiven with ⟨rfl, rfl⟩ | ⟨rfl, rfl⟩ <;> exact agree_refuse

theorem asPattern (respelled : Respelled .pattern first second) : Agree (· = ·) first.asPattern second.asPattern := by
  cases respelled with
  | same => exact agree_refl _
  | name takesVariable => cases takesVariable
  | list hasItems areRespelled =>
      cases hasItems
      exact asPattern_of_items areRespelled (.inl ⟨rfl, rfl⟩)
  | tuple hasItems areRespelled =>
      cases hasItems
      exact asPattern_of_items areRespelled (.inr ⟨rfl, rfl⟩)
  | map hasEntries => cases hasEntries

theorem asPatterns {values others : List Value} (respelled : List.Forall₂ (Respelled .pattern) values others) :
    Agree (· = ·) (Value.asPatterns values) (Value.asPatterns others) :=
  .mapM_eq respelled fun _ _ => asPattern

theorem elementPatterns (respelled : Respelled .patterns first second) :
    Agree (· = ·) first.elementPatterns second.elementPatterns := by
  cases respelled with
  | same => exact agree_refl _
  | name takesVariable => cases takesVariable
  | list hasItems areRespelled =>
      cases hasItems
      exact asPatterns areRespelled.forall₂
  | tuple hasItems areRespelled =>
      cases hasItems
      exact asPatterns areRespelled.forall₂
  | map hasEntries => cases hasEntries

/-- The same kind of pattern stands there, or the same query. -/
theorem isPatternLike (respelled : Respelled .pattern first second) : first.isPatternLike = second.isPatternLike := by
  cases respelled with
  | same => rfl
  | name takesVariable => cases takesVariable
  | list => rfl
  | tuple => rfl
  | map hasEntries => cases hasEntries

theorem isQuery (respelled : Respelled .pattern first second) : first.isQuery = second.isQuery := by
  cases respelled with
  | same => rfl
  | name takesVariable => cases takesVariable
  | list => rfl
  | tuple => rfl
  | map hasEntries => cases hasEntries

end Respelled

end Value

end Sparql
