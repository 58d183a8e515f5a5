import Sparql.Proofs.Term.Respelling
import Sparql.Value.Equality

/-!
# Mappings with respelled keys

A mapping is built entry by entry, and an entry whose key is there already replaces what is under it. When no two keys
name one variable, keys may be spelled otherwise: they are the same keys as before.
-/

namespace Sparql.Value

variable {key key' value value' : Value} {entries others rest otherRest : List (Value × Value)} {name : String}

/-- The values name one variable. -/
def NameOne (first second : Value) : Prop := ∃ name, first.asVariable = .ok name ∧ second.asVariable = .ok name

/-- No two of the keys name one variable. -/
def NamesDistinct (keys : List Value) : Prop := keys.Pairwise fun first second => ¬ NameOne first second

theorem eq_of_asVariable (hasName : value.asVariable = .ok name) :
    (∃ text, value = .text text) ∨ value = .term (.variable name) := by
  unfold asVariable at hasName
  split at hasName
  · cases hasName
    exact .inr rfl
  · exact .inl ⟨_, rfl⟩
  · cases hasName

/-- A key that names a variable is the same key as itself alone. -/
theorem eq_of_sameKey (same : sameKey key key' = true)
    (hasName : key.asVariable = .ok name ∨ key'.asVariable = .ok name) : key = key' := by
  rcases hasName with hasName | hasName
  · rcases eq_of_asVariable hasName with ⟨text, rfl⟩ | rfl
    · cases key' with
      | text other => exact congrArg Value.text (beq_iff_eq.mp same)
      | _ => cases same
    · cases key' with
      | term other => exact congrArg Value.term (beq_iff_eq.mp same)
      | _ => cases same
  · rcases eq_of_asVariable hasName with ⟨text, rfl⟩ | rfl
    · cases key with
      | text other => exact congrArg Value.text (beq_iff_eq.mp same)
      | _ => simp [sameKey, magnitude?] at same
    · cases key with
      | term other => cases other <;> exact congrArg Value.term (beq_iff_eq.mp same)
      | _ => simp [sameKey, magnitude?] at same

/-- Whether two keys are the same does not depend on how they are spelled, unless they name one variable. -/
theorem sameKey_eq {other other' : Value} (keys : Respelled .variable key key')
    (othersRespelled : Respelled .variable other other') (notOne : ¬ NameOne key other)
    (notOther : ¬ NameOne key' other') : sameKey key other = sameKey key' other' := by
  have differ {first second : Value} {name : String} (notOne : ¬ NameOne first second)
      (hasName : first.asVariable = .ok name ∨ second.asVariable = .ok name) : sameKey first second = false := by
    rw [← Bool.not_eq_true]
    intro same
    obtain rfl := eq_of_sameKey same hasName
    exact notOne ⟨name, or_self_iff.mp hasName, or_self_iff.mp hasName⟩
  rcases keys.eq_or_name with rfl | ⟨name, isName, isFirst, isSecond⟩
  · rcases othersRespelled.eq_or_name with rfl | ⟨name, isName, isFirst, isSecond⟩
    · rfl
    · rw [differ notOne (.inr (asVariable_of_spelling isName isFirst)),
        differ notOther (.inr (asVariable_of_spelling isName isSecond))]
  · rw [differ notOne (.inl (asVariable_of_spelling isName isFirst)),
      differ notOther (.inl (asVariable_of_spelling isName isSecond))]

theorem isKey_eq (keys : Respelled .variable key key') : isKey key = isKey key' := by
  rcases keys.eq_or_name with rfl | ⟨name, isName, isFirst, isSecond⟩
  · rfl
  · have isKey_of_spelling {value : Value} (isSpelling : value ∈ spellings name) : isKey value = true := by
      simp only [spellings, List.mem_cons, List.not_mem_nil, or_false] at isSpelling
      rcases isSpelling with rfl | rfl | rfl <;> rfl
    rw [isKey_of_spelling isFirst, isKey_of_spelling isSecond]

/-- Entries whose keys are spelled otherwise. -/
abbrev EntryRespelled (place : Place) (entry other : Value × Value) : Prop :=
  Respelled .variable entry.1 other.1 ∧ Respelled place entry.2 other.2

variable {place : Place}

theorem keys_insertEntry_sublist :
    ((insertEntry key value entries).map (·.1)).Sublist (entries.map (·.1) ++ [key]) := by
  induction entries with
  | nil => exact .refl _
  | cons first rest ih =>
      unfold insertEntry
      split
      · exact List.sublist_append_left _ _
      · exact ih.cons_cons _

theorem respelled_insertEntry (areRespelled : List.Forall₂ (EntryRespelled place) entries others)
    (keys : Respelled .variable key key') (values : Respelled place value value')
    (distinct : ∀ entry ∈ entries, ¬ NameOne entry.1 key) (othersDistinct : ∀ entry ∈ others, ¬ NameOne entry.1 key') :
    List.Forall₂ (EntryRespelled place) (insertEntry key value entries) (insertEntry key' value' others) := by
  induction areRespelled with
  | nil => exact .cons ⟨keys, values⟩ .nil
  | cons first restRespelled ih =>
      unfold insertEntry
      simp only [sameKey_eq first.1 keys (distinct _ (.head _)) (othersDistinct _ (.head _))]
      split
      · exact .cons ⟨first.1, values⟩ restRespelled
      · refine .cons first (ih ?_ ?_)
        · exact fun entry mem => distinct entry (.tail _ mem)
        · exact fun entry mem => othersDistinct entry (.tail _ mem)

theorem NamesDistinct.insertEntry (distinct : NamesDistinct (entries.map (·.1) ++ key :: rest.map (·.1))) :
    NamesDistinct ((insertEntry key value entries).map (·.1) ++ rest.map (·.1)) := by
  refine List.Pairwise.sublist ?_ distinct
  have same : entries.map (·.1) ++ key :: rest.map (·.1) = entries.map (·.1) ++ [key] ++ rest.map (·.1) := by simp
  rw [same]
  exact keys_insertEntry_sublist.append_right _

/-- Entries with respelled keys, put into a mapping one after the other. -/
theorem respelled_foldl (areRespelled : List.Forall₂ (EntryRespelled place) entries others)
    (restRespelled : List.Forall₂ (EntryRespelled place) rest otherRest)
    (distinct : NamesDistinct (entries.map (·.1) ++ rest.map (·.1)))
    (othersDistinct : NamesDistinct (others.map (·.1) ++ otherRest.map (·.1))) :
    Option.Rel (List.Forall₂ (EntryRespelled place))
      (rest.foldl (fun sum (key, value) => if isKey key then sum.map (insertEntry key value) else none) (some entries))
      (otherRest.foldl (fun sum (key, value) => if isKey key then sum.map (insertEntry key value) else none)
        (some others)) := by
  -- Keys differ from those already put in as well as from those still to come, so both lists stand in the hypotheses.
  induction restRespelled generalizing entries others with
  | nil => exact .some areRespelled
  | @cons first second rest otherRest isRespelled _ ih =>
      rcases first with ⟨key, value⟩
      rcases second with ⟨key', value'⟩
      simp only [List.foldl_cons, isKey_eq isRespelled.1]
      have apart {entries rest : List (Value × Value)} {first : Value × Value}
          (distinct : NamesDistinct (entries.map (·.1) ++ (first :: rest).map (·.1))) :
          ∀ entry ∈ entries, ¬ NameOne entry.1 first.1 := by
        intro entry mem
        exact (List.pairwise_append.mp distinct).2.2 _ (List.mem_map_of_mem mem) _ (.head _)
      split
      · apply ih
        · exact respelled_insertEntry areRespelled isRespelled.1 isRespelled.2 (apart distinct) (apart othersDistinct)
        · exact distinct.insertEntry
        · exact othersDistinct.insertEntry
      · have stays (entries : List (Value × Value)) :
            entries.foldl (fun sum (key, value) => if isKey key then sum.map (insertEntry key value) else none) none =
              none := by
          induction entries with
          | nil => rfl
          | cons first rest ih =>
              simp only [List.foldl_cons, Option.map_none, ite_self]
              exact ih
        rw [stays, stays]
        exact .none

/-- Entries whose keys name distinct variables make mappings that differ in the spellings of the keys. -/
theorem respelled_ofEntries? (areRespelled : List.Forall₂ (EntryRespelled place) entries others)
    (distinct : NamesDistinct (entries.map (·.1))) (othersDistinct : NamesDistinct (others.map (·.1))) :
    Option.Rel (List.Forall₂ (EntryRespelled place)) (ofEntries? entries) (ofEntries? others) :=
  respelled_foldl .nil areRespelled distinct othersDistinct

end Sparql.Value
