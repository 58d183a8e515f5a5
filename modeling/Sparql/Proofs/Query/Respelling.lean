import Sparql.Proofs.Term.Respelling
import Sparql.Query.Change

/-!
# Clauses of respelled arguments

Arguments that differ in the spellings of variables alone make the same clauses, or are refused both.
-/

namespace Sparql

open Outcome Value

variable {name : String} {value other : Value} {values others : List Value}

namespace Value.Respelled

/-! ## Conditions -/

theorem directedCondition {direction : Value} (respelled : Respelled .variable value other) :
    Agree (· = ·) (directedCondition value direction) (directedCondition other direction) :=
  respelled.asVariable.bind_eq fun _ => agree_refl _

theorem mappedCondition {entry entry' : Value × Value} (keys : Respelled .variable entry.1 entry'.1)
    (directions : entry.2 = entry'.2) : Agree (· = ·) (mappedCondition entry) (mappedCondition entry') := by
  unfold Sparql.mappedCondition
  rw [keys.isVariable, directions]
  split
  · exact keys.directedCondition
  · exact agree_refuse

theorem conditionsOf_of_spelling (isName : IsPlainName name) (isSpelling : value ∈ spellings name) :
    conditionsOf value = .ok [.variable name none] := by
  have isVariable := isVariable_of_spelling isName isSpelling
  have hasName := asVariable_of_spelling isName isSpelling
  have notCollection : value.entries? = none ∧ value.items? = none := by
    simp only [spellings, List.mem_cons, List.not_mem_nil, or_false] at isSpelling
    rcases isSpelling with rfl | rfl | rfl <;> exact ⟨rfl, rfl⟩
  unfold conditionsOf
  rw [notCollection.1, notCollection.2, isVariable, hasName]
  rfl

/-- A variable and its direction, given as a list or a tuple. -/
theorem conditionsOf_of_items {item : Nat → Place} {given given' : Value} (hasItems : Place.entry.items? = some item)
    (areRespelled : Itemwise Respelled item values others)
    (isGiven : given = .list values ∧ given' = .list others ∨ given = .tuple values ∧ given' = .tuple others) :
    Agree (· = ·) (conditionsOf given) (conditionsOf given') := by
  cases hasItems
  rcases areRespelled with _ | ⟨key, _ | ⟨direction, _ | _⟩⟩
  case cons.cons.nil =>
    cases direction.eq_of_fixed
    rcases isGiven with ⟨rfl, rfl⟩ | ⟨rfl, rfl⟩
    all_goals
      simp only [conditionsOf, entries?, items?, key.isVariable]
      split
      · exact key.directedCondition.map_eq
      · exact agree_refuse
  all_goals
    rcases isGiven with ⟨rfl, rfl⟩ | ⟨rfl, rfl⟩ <;> exact agree_refuse

theorem conditionsOf (respelled : Respelled .entry value other) :
    Agree (· = ·) (conditionsOf value) (conditionsOf other) := by
  cases respelled with
  | same => exact agree_refl _
  | name _ isName isFirst isSecond =>
      rw [conditionsOf_of_spelling isName isFirst, conditionsOf_of_spelling isName isSecond]
      exact .done rfl
  | list hasItems areRespelled => exact conditionsOf_of_items hasItems areRespelled (.inl ⟨rfl, rfl⟩)
  | tuple hasItems areRespelled => exact conditionsOf_of_items hasItems areRespelled (.inr ⟨rfl, rfl⟩)
  | map hasEntries keys directions =>
      cases hasEntries
      refine .mapM_eq (forall₂_of_entries keys directions) fun entry entry' areRespelled => ?_
      exact mappedCondition areRespelled.1 areRespelled.2.eq_of_fixed

theorem conditions (respelled : List.Forall₂ (Respelled .entry) values others) :
    Agree (· = ·) (conditions values) (conditions others) :=
  (Agree.mapM_eq respelled fun _ _ => conditionsOf).map_eq

/-! ## Inline data -/

theorem areNames (respelled : List.Forall₂ (Respelled .variable) values others) :
    Agree (· = ·) (values.mapM Value.asVariable) (others.mapM Value.asVariable) :=
  .mapM_eq respelled fun _ _ => asVariable

/-- The variables of inline data, if one is given or a list of them. -/
theorem columns (respelled : Respelled .names value other) :
    value = other ∨ List.Forall₂ (Respelled .variable) (value.items?.getD [value]) (other.items?.getD [other]) := by
  cases respelled with
  | same => exact .inl rfl
  | @name _ name _ _ _ isName isFirst isSecond =>
      have notItems {value : Value} (isSpelling : value ∈ spellings name) : value.items? = none := by
        simp only [spellings, List.mem_cons, List.not_mem_nil, or_false] at isSpelling
        rcases isSpelling with rfl | rfl | rfl <;> rfl
      rw [notItems isFirst, notItems isSecond]
      exact .inr (.cons (.name rfl isName isFirst isSecond) .nil)
  | list hasItems areRespelled =>
      cases hasItems
      exact .inr areRespelled.forall₂
  | tuple hasItems areRespelled =>
      cases hasItems
      exact .inr areRespelled.forall₂
  | map hasEntries => cases hasEntries

theorem valuesBlock {data : List Value} (respelled : Respelled .names value other) :
    Agree (· = ·) (valuesBlock value data) (valuesBlock other data) := by
  rcases respelled.columns with rfl | columns
  · exact agree_refl _
  · unfold Sparql.valuesBlock
    generalize value.items?.getD [value] = columns' at columns
    generalize other.items?.getD [other] = others' at columns
    have sameEmpty : columns'.isEmpty = others'.isEmpty := by cases columns <;> rfl
    simp only [sameEmpty]
    split
    · exact .failed
    · apply (areNames columns).bind_eq
      intro names
      exact agree_refl _

/-! ## Tagged unions -/

theorem mapping (respelled : Respelled .mapping value other) :
    Agree (List.Forall₂ fun entry entry' => Respelled .variable entry.1 entry'.1 ∧ entry.2 = entry'.2)
      (mappingOrNothing value) (mappingOrNothing other) := by
  cases respelled with
  | same =>
      have areSame {entries : List (Value × Value)} : List.Forall₂
          (fun entry entry' => Respelled .variable entry.1 entry'.1 ∧ entry.2 = entry'.2) entries entries :=
        List.forall₂_same.mpr fun _ _ => ⟨.same, rfl⟩
      cases mappingOrNothing value with
      | error => exact .failed
      | ok entries => exact .done areSame
  | name takesVariable => cases takesVariable
  | list hasItems => cases hasItems
  | tuple hasItems => cases hasItems
  | @map _ _ _ entries others hasEntries keys values =>
      cases hasEntries
      have areRespelled := forall₂_of_entries keys values
      cases entries with
      | nil =>
          cases others with
          | nil => exact .done .nil
          | cons => cases keys
      | cons =>
          cases others with
          | nil => cases keys
          | cons => exact .done (areRespelled.imp fun _ _ both => ⟨both.1, both.2.eq_of_fixed⟩)

theorem associations {α : Type} {read : Value → Outcome α} {entries entries' : List (Value × Value)}
    (areRespelled : List.Forall₂ (fun entry entry' => Respelled .variable entry.1 entry'.1 ∧ entry.2 = entry'.2)
      entries entries') : Agree (· = ·) (associations read entries) (associations read entries') := by
  refine Agree.bind_eq (.mapM_eq areRespelled ?_) fun _ => agree_refl _
  rintro ⟨key, value⟩ ⟨key', _⟩ ⟨keys, rfl⟩
  exact keys.asVariable.bind_eq fun _ => agree_refl _

/-- Patterns, bindings and tests, given as a list or a tuple. -/
theorem bindBranchOf_of_items {item : Nat → Place} {given given' : Value} (hasItems : Place.branch.items? = some item)
    (areRespelled : Itemwise Respelled item values others)
    (isGiven : given = .list values ∧ given' = .list others ∨ given = .tuple values ∧ given' = .tuple others) :
    Agree (· = ·) (bindBranchOf given) (bindBranchOf given') := by
  cases hasItems
  rcases areRespelled with _ | ⟨patterns, _ | ⟨binds, _ | ⟨filters, _ | _⟩⟩⟩
  case cons.cons.cons.nil =>
    rcases isGiven with ⟨rfl, rfl⟩ | ⟨rfl, rfl⟩
    all_goals
      apply binds.mapping.bind
      intro binds binds' bindsRespelled
      apply filters.mapping.bind
      intro filters filters' filtersRespelled
      apply patterns.elementPatterns.bind_eq
      intro patterns
      apply (associations bindsRespelled).bind_eq
      intro binds
      apply (associations filtersRespelled).bind_eq
      intro filters
      exact .done rfl
  all_goals
    rcases isGiven with ⟨rfl, rfl⟩ | ⟨rfl, rfl⟩ <;> exact agree_refuse

theorem bindBranchOf (respelled : Respelled .branch value other) :
    Agree (· = ·) (bindBranchOf value) (bindBranchOf other) := by
  cases respelled with
  | same => exact agree_refl _
  | name takesVariable => cases takesVariable
  | list hasItems areRespelled => exact bindBranchOf_of_items hasItems areRespelled (.inl ⟨rfl, rfl⟩)
  | tuple hasItems areRespelled => exact bindBranchOf_of_items hasItems areRespelled (.inr ⟨rfl, rfl⟩)
  | map hasEntries => cases hasEntries

theorem bindUnionOf {optional : Value} (respelled : List.Forall₂ (Respelled .branch) values others) :
    Agree (· = ·) (bindUnionOf values optional) (bindUnionOf others optional) := by
  have sameEmpty : values.isEmpty = others.isEmpty := by cases respelled <;> rfl
  unfold Sparql.bindUnionOf
  simp only [sameEmpty]
  split
  · exact .failed
  · exact (Agree.mapM_eq respelled fun _ _ => bindBranchOf).bind_eq fun _ => agree_refl _

/-! ## Queries as they are made -/

theorem countTargetOf (respelled : Respelled .variable value other) :
    Agree (· = ·) (countTargetOf value) (countTargetOf other) := by
  refine respelled.agree_of_spellings .variable fun {name value} isName isSpelling => ?_
  have hasName := asVariable_of_spelling isName isSpelling
  unfold Sparql.countTargetOf
  split
  · cases hasName
  · rw [hasName]
    rfl

theorem countsOf (respelled : Respelled .counts value other) :
    Agree (· = ·) (countsOf value) (countsOf other) := by
  cases respelled with
  | same => exact agree_refl _
  | name takesVariable => cases takesVariable
  | list hasItems => cases hasItems
  | tuple hasItems => cases hasItems
  | @map _ _ _ entries others hasEntries keys values =>
      cases hasEntries
      have areRespelled := forall₂_of_entries keys values
      have sameTruth : (Value.map entries).truth = (Value.map others).truth := by
        cases areRespelled <;> rfl
      unfold Sparql.countsOf
      rw [sameTruth]
      split
      · refine .mapM_eq areRespelled ?_
        rintro ⟨key, given⟩ ⟨key', given'⟩ ⟨keys, aliases⟩
        apply keys.countTargetOf.bind_eq
        intro target
        exact aliases.asVariable.bind_eq fun _ => agree_refl _
      · exact .done rfl

theorem describedOf (respelled : Respelled .variable value other) :
    Agree (· = ·) (describedOf value) (describedOf other) := by
  refine respelled.agree_of_spellings .variable fun {name value} isName isSpelling => ?_
  have hasName := asVariable_of_spelling isName isSpelling
  unfold Sparql.describedOf
  split
  · cases hasName
  · rw [hasName]
    rfl

theorem select {count count' : Value} (respelled : List.Forall₂ (Respelled .variable) values others)
    (counts : Respelled .counts count count') :
    Agree (· = ·) (Clauses.select values count) (Clauses.select others count') := by
  apply (areNames respelled).bind_eq
  intro names
  exact counts.countsOf.bind_eq fun _ => agree_refl _

theorem describe (respelled : List.Forall₂ (Respelled .variable) values others) :
    Agree (· = ·) (Clauses.describe values) (Clauses.describe others) :=
  (Agree.mapM_eq respelled fun _ _ => describedOf).bind_eq fun _ => agree_refl _

theorem construct (respelled : List.Forall₂ (Respelled .pattern) values others) :
    Agree (· = ·) (Clauses.construct values) (Clauses.construct others) := by
  have sameEmpty : values.isEmpty = others.isEmpty := by cases respelled <;> rfl
  unfold Clauses.construct
  simp only [sameEmpty]
  split
  · exact .failed
  · exact (asPatterns respelled).bind_eq fun _ => agree_refl _

end Value.Respelled

end Sparql
