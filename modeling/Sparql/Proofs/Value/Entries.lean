import Sparql.Value.Equality

/-!
# Entries of mappings

Keys that are the same have the same text or none, and a text is the same key as itself alone. An entry whose key is
new stands behind the others; otherwise it takes the place of the entry that has the key already.
-/

namespace Sparql.Value

variable {key other value : Value} {name : String} {entries added : List (Value × Value)}

/-! ## Keys -/

/-- A number is no text. -/
theorem text?_of_magnitude? {magnitude : Magnitude} (isNumber : value.magnitude? = some magnitude) :
    value.text? = none := by
  cases value with
  | text _ | term _ => simp [magnitude?] at isNumber
  | _ => rfl

theorem plainText_of_same {term other : Term} (same : term.same other = true) : term.plainText = other.plainText := by
  unfold Term.same at same
  split at same
  · simp only [Literal.same, Bool.and_eq_true, beq_iff_eq] at same
    exact same.1.1
  · rw [beq_iff_eq.mp same]

theorem text?_of_sameKey (same : sameKey key other = true) : key.text? = other.text? := by
  unfold sameKey at same
  split at same
  case h_2 => exact congrArg some (beq_iff_eq.mp same)
  case h_7 => exact congrArg some (plainText_of_same same)
  case h_12 =>
    split at same
    · next isNumber isOther => rw [text?_of_magnitude? isNumber, text?_of_magnitude? isOther]
    · cases same
  all_goals rfl

theorem sameKey_text : sameKey key (.text name) = true ↔ key = .text name := by
  constructor
  · intro same
    cases key with
    | text other => exact congrArg Value.text (beq_iff_eq.mp same)
    | _ => simp [sameKey, magnitude?] at same
  · rintro rfl
    exact beq_self_eq_true name

/-! ## Entries -/

theorem insertEntry_append_of_apart (apart : ∀ entry ∈ entries, sameKey entry.1 key = false) :
    insertEntry key value (entries ++ added) = entries ++ insertEntry key value added := by
  induction entries with
  | nil => rfl
  | cons first rest ih =>
      rw [List.cons_append, insertEntry, apart first (.head _), List.cons_append]
      simp only [Bool.false_eq_true, if_false]
      rw [ih fun entry mem => apart entry (.tail _ mem)]

theorem insertEntry_apart (apart : ∀ entry ∈ entries, sameKey entry.1 key = false) :
    insertEntry key value entries = entries ++ [(key, value)] := by
  have placed : insertEntry key value (entries ++ []) = entries ++ insertEntry key value [] :=
    insertEntry_append_of_apart apart
  simpa [insertEntry] using placed

theorem keys_insertEntry : (insertEntry key value entries).map Prod.fst =
    if entries.any fun entry => sameKey entry.1 key then entries.map Prod.fst else entries.map Prod.fst ++ [key] := by
  induction entries with
  | nil => rfl
  | cons first rest ih =>
      rw [insertEntry, List.any_cons]
      split
      · next same => simp [same]
      · next differs =>
          rw [List.map_cons, ih, Bool.eq_false_iff.mpr differs, Bool.false_or]
          split <;> rfl

theorem mem_insertEntry {entry : Value × Value} (mem : entry ∈ insertEntry key value entries) :
    entry ∈ entries ∨ entry.2 = value := by
  induction entries with
  | nil => simp_all [insertEntry]
  | cons first rest ih =>
      rw [insertEntry] at mem
      split at mem <;> grind

/-- What is true of the keys and values that are put into a mapping is true of its keys and values. -/
theorem forall_insertEntry {holds : Value → Prop} (isKey : holds key) (isValue : holds value)
    (areEntries : ∀ entry ∈ entries, holds entry.1 ∧ holds entry.2) :
    ∀ entry ∈ insertEntry key value entries, holds entry.1 ∧ holds entry.2 := by
  induction entries with
  | nil => simpa [insertEntry] using ⟨isKey, isValue⟩
  | cons first rest ih =>
      rcases List.forall_mem_cons.mp areEntries with ⟨isFirst, areOthers⟩
      rw [insertEntry]
      split
      · exact List.forall_mem_cons.mpr ⟨⟨isFirst.1, isValue⟩, areOthers⟩
      · exact List.forall_mem_cons.mpr ⟨isFirst, ih areOthers⟩

theorem forall_ofEntries? {holds : Value → Prop} {mapping : List (Value × Value)}
    (isMapping : ofEntries? entries = some mapping) (areEntries : ∀ entry ∈ entries, holds entry.1 ∧ holds entry.2) :
    ∀ entry ∈ mapping, holds entry.1 ∧ holds entry.2 := by
  let put (sum : Option (List (Value × Value))) (entry : Value × Value) : Option (List (Value × Value)) :=
    if isKey entry.1 then sum.map (insertEntry entry.1 entry.2) else none
  have fromThere {sum : Option (List (Value × Value))}
      (areKept : ∀ kept ∈ sum, ∀ entry ∈ kept, holds entry.1 ∧ holds entry.2)
      (done : entries.foldl put sum = some mapping) : ∀ entry ∈ mapping, holds entry.1 ∧ holds entry.2 := by
    clear isMapping
    induction entries generalizing sum with
    | nil => exact areKept mapping done
    | cons first rest ih =>
        rcases List.forall_mem_cons.mp areEntries with ⟨isFirst, areOthers⟩
        refine ih areOthers (fun kept isKept => ?_) done
        simp only [put] at isKept
        split at isKept
        · rcases Option.map_eq_some_iff.mp isKept with ⟨before, isBefore, rfl⟩
          exact forall_insertEntry isFirst.1 isFirst.2 (areKept before isBefore)
        · cases isKept
  exact fromThere (by simp) isMapping

/-- Keys of some kind, each once. -/
structure AreKeys (allowed : Value → Prop) (keys : List Value) : Prop where
  distinct : keys.Pairwise fun first second => sameKey first second = false
  areAllowed : ∀ key ∈ keys, allowed key

theorem AreKeys.nil {allowed : Value → Prop} : AreKeys allowed [] := ⟨.nil, by simp⟩

theorem AreKeys.insertEntry {allowed : Value → Prop} (areKeys : AreKeys allowed (entries.map Prod.fst))
    (isAllowed : allowed key) : AreKeys allowed ((insertEntry key value entries).map Prod.fst) := by
  rw [keys_insertEntry]
  split
  · exact areKeys
  · next isNew =>
      refine ⟨List.pairwise_append.mpr ⟨areKeys.distinct, List.pairwise_singleton _ _, ?_⟩, ?_⟩
      · simpa using isNew
      · rw [List.forall_mem_append]
        exact ⟨areKeys.areAllowed, by simpa using isAllowed⟩

theorem foldl_insertEntry
    (apart : (entries ++ added).Pairwise fun first second => sameKey first.1 second.1 = false) :
    added.foldl (fun sum entry => insertEntry entry.1 entry.2 sum) entries = entries ++ added := by
  induction added generalizing entries with
  | nil => simp
  | cons first rest ih =>
      -- The first one is added behind the entries, and the others behind these.
      rw [List.append_cons] at apart ⊢
      have isNew : ∀ entry ∈ entries, sameKey entry.1 first.1 = false := fun entry mem =>
        (List.pairwise_append.mp (List.pairwise_append.mp apart).1).2.2 entry mem first (.head _)
      rw [List.foldl_cons, insertEntry_apart isNew]
      exact ih apart

theorem insertEntry_append_of_mem (isIn : ∃ entry ∈ entries, sameKey entry.1 key = true) :
    insertEntry key value (entries ++ added) = insertEntry key value entries ++ added := by
  induction entries with
  | nil => simp at isIn
  | cons first rest ih =>
      rw [List.cons_append, insertEntry, insertEntry]
      split
      · rfl
      · rename_i different
        rcases isIn with ⟨entry, mem, same⟩
        rcases List.mem_cons.mp mem with rfl | mem
        · exact absurd same different
        · rw [ih ⟨entry, mem, same⟩, List.cons_append]

end Sparql.Value
