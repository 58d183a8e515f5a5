import Sparql.Proofs.Number.Numeral
import Sparql.Proofs.Session.Edits
import Sparql.Proofs.Session.Refusal

/-!
# Slices

What a slice does with each of its two arguments. Nothing leaves the slot as it is, and a number above minus one
stores its whole part: a fraction is not refused but cut. Every other argument fails the call, and a second argument
that fails finds the first one stored.
-/

namespace Sparql

/-! ## Numbers that values denote -/

namespace Value

/-- The number that a value denotes: that of a finite number, or of a numeral in a text or in bytes. -/
inductive Denotes : Value → ℚ → Prop
  | int (number : Int) : Denotes (.int number) number
  | float (negative : Bool) (mantissa : Nat) (exponent : Int) :
      Denotes (.float (.finite negative mantissa exponent)) (signedFraction negative (mantissa * 2 ^ exponent))
  | decimal (negative : Bool) (coefficient : Nat) (exponent : Int) :
      Denotes (.decimal (.finite negative coefficient exponent)) (signedFraction negative (coefficient * 10 ^ exponent))
  | numeral {value : Value} {text : List Char} {number : Int} (isText : value.numeral? = some text)
      (isNumeral : Number.IsNumeral text number) : Denotes value number

variable {value : Value} {q : ℚ} {clause : String}

theorem Denotes.unique {first second : ℚ} (isFirst : value.Denotes first) (isSecond : value.Denotes second) :
    first = second := by
  cases isFirst with
  | numeral isText isNumeral =>
      cases isSecond with
      | numeral isSame isOther =>
          cases isText.symm.trans isSame
          rw [isNumeral.unique isOther]
      | _ => cases isText
  | _ =>
      cases isSecond with
      | numeral isText => cases isText
      | _ => rfl

theorem Denotes.ne_null (denotes : value.Denotes q) : value ≠ .null := by
  rintro rfl
  cases denotes with
  | numeral isText => cases isText

theorem IsInfinity.ne_null (isInfinity : value.IsInfinity) : value ≠ .null := by
  rintro rfl
  rcases isInfinity with ⟨_, isNull | isNull⟩ <;> cases isNull

theorem integerOf_of_numeral {text : List Char} (isText : value.numeral? = some text) :
    integerOf clause value = match Number.integer? text with
      | some number => .ok number
      | none => refuse (.notInteger clause value) := by
  have isRead : value.numeral?.bind Number.integer? = Number.integer? text := by rw [isText, Option.bind_some]
  cases value with
  | text _ | bytes _ | term _ =>
      cases isNumber : Number.integer? text <;> simp [integerOf, isRead, isNumber]
  | _ => cases isText

/-- What denotes a number is taken for the whole part of it. -/
theorem integerOf_of_denotes (denotes : value.Denotes q) : integerOf clause value = .ok (wholePart q) := by
  cases denotes with
  | int number =>
      rw [wholePart_intCast]
      rfl
  | float negative mantissa exponent =>
      rw [integerOf, Double.truncate?_finite]
      rfl
  | decimal negative coefficient exponent =>
      simp only [integerOf, Decimal.truncate?_finite]
  | numeral isText isNumeral =>
      rw [integerOf_of_numeral isText, Number.integer?_eq_some.mpr isNumeral, wholePart_intCast]

/-- What denotes no number is refused. -/
theorem integerOf_of_not_denotes (isFinite : ¬ value.IsInfinity) (noNumber : ∀ q, ¬ value.Denotes q) :
    integerOf clause value = refuse (.notInteger clause value) := by
  cases isText : value.numeral? with
  | some text =>
      rw [integerOf_of_numeral isText]
      cases isRead : Number.integer? text with
      | some number => exact absurd (.numeral isText (Number.integer?_eq_some.mp isRead)) (noNumber number)
      | none => rfl
  | none =>
      cases value with
      | int number => exact absurd (.int number) (noNumber number)
      | float number =>
          cases number with
          | finite negative mantissa exponent => exact absurd (.float negative mantissa exponent) (noNumber _)
          | infinite negative => exact absurd ⟨negative, .inl rfl⟩ isFinite
          | nan => rfl
      | decimal number =>
          cases number with
          | finite negative coefficient exponent => exact absurd (.decimal negative coefficient exponent) (noNumber _)
          | infinite negative => exact absurd ⟨negative, .inr rfl⟩ isFinite
          | nan => rfl
      | text _ | term _ => cases isText
      | bytes _ => simp only [integerOf, isText, Option.bind_none]
      | _ => rfl

end Value

/-! ## One slot -/

/-- What is left in a slot for which a value is given, or how the value fails. -/
inductive Settles (clause : String) (value : Value) (slot : Option Int) : Outcome (Option Int) → Prop
  | kept (isNull : value = .null) : Settles clause value slot (.ok slot)
  | stored {q : ℚ} (denotes : value.Denotes q) (isAbove : -1 < q) : Settles clause value slot (.ok (some ⌊q⌋₊))
  | negative {q : ℚ} (denotes : value.Denotes q) (isBelow : q ≤ -1) :
      Settles clause value slot (refuse (.negative clause ⌈q⌉))
  | infinite (isInfinity : value.IsInfinity) : Settles clause value slot (misuse .overflow)
  | noNumber (notNull : value ≠ .null) (isFinite : ¬ value.IsInfinity) (noNumber : ∀ q, ¬ value.Denotes q) :
      Settles clause value slot (refuse (.notInteger clause value))

/-- The slot after a call. -/
def settled (clause : String) (value : Value) (slot : Option Int) : Outcome (Option Int) :=
  match value with
  | .null => .ok slot
  | _ => (boundOf clause value).map some

variable {clause : String} {value : Value} {slot : Option Int} {outcome : Outcome (Option Int)}

theorem settled_of_ne_null (notNull : value ≠ .null) :
    settled clause value slot = (boundOf clause value).map some := by
  unfold settled
  split
  · exact absurd rfl notNull
  · rfl

theorem boundOf_of_denotes {q : ℚ} (denotes : value.Denotes q) :
    boundOf clause value =
      if wholePart q < 0 then refuse (.negative clause (wholePart q)) else .ok (wholePart q) := by
  rw [boundOf, Value.integerOf_of_denotes denotes]
  rfl

theorem settled_of_settles (settles : Settles clause value slot outcome) : settled clause value slot = outcome := by
  cases settles with
  | kept isNull => rw [isNull, settled]
  | @stored q denotes isAbove =>
      have notNegative : ¬ wholePart q < 0 := by rwa [wholePart_neg, not_le]
      rw [settled_of_ne_null denotes.ne_null, boundOf_of_denotes denotes, if_neg notNegative, ← toNat_wholePart,
        Int.toNat_of_nonneg (not_lt.mp notNegative)]
      rfl
  | @negative q denotes isBelow =>
      have isCeiling : wholePart q = ⌈q⌉ := if_neg (by linarith)
      rw [settled_of_ne_null denotes.ne_null, boundOf_of_denotes denotes, if_pos (wholePart_neg.mpr isBelow), isCeiling]
      rfl
  | infinite isInfinity =>
      rw [settled_of_ne_null isInfinity.ne_null, boundOf, integerOf_of_infinity isInfinity]
      rfl
  | noNumber notNull isFinite noNumber =>
      rw [settled_of_ne_null notNull, boundOf, Value.integerOf_of_not_denotes isFinite noNumber]
      rfl

theorem exists_settles (clause : String) (value : Value) (slot : Option Int) :
    ∃ outcome, Settles clause value slot outcome := by
  by_cases isNull : value = .null
  · exact ⟨_, .kept isNull⟩
  by_cases isInfinity : value.IsInfinity
  · exact ⟨_, .infinite isInfinity⟩
  by_cases isNumber : ∃ q, value.Denotes q
  · rcases isNumber with ⟨q, denotes⟩
    rcases lt_or_ge (-1) q with isAbove | isBelow
    · exact ⟨_, .stored denotes isAbove⟩
    · exact ⟨_, .negative denotes isBelow⟩
  · exact ⟨_, .noNumber isNull isInfinity (not_exists.mp isNumber)⟩

/-- Every value settles a slot in one way. -/
theorem settles_iff : Settles clause value slot outcome ↔ settled clause value slot = outcome := by
  constructor
  · exact settled_of_settles
  · rintro rfl
    rcases exists_settles clause value slot with ⟨outcome, settles⟩
    rwa [settled_of_settles settles]

theorem existsUnique_settles (clause : String) (value : Value) (slot : Option Int) :
    ∃! outcome, Settles clause value slot outcome :=
  ⟨_, settles_iff.mpr rfl, fun _ settles => (settles_iff.mp settles).symm⟩

theorem setOffset_eq (clauses : Clauses) (value : Value) : clauses.setOffset value =
    (settled "OFFSET" value clauses.offset).map fun offset => { clauses with offset } := by
  unfold Clauses.setOffset
  split
  · rfl
  · rename_i notNull
    rw [settled_of_ne_null notNull]
    cases boundOf "OFFSET" value <;> rfl

theorem setLimit_eq (clauses : Clauses) (value : Value) : clauses.setLimit value =
    (settled "LIMIT" value clauses.limit).map fun limit => { clauses with limit } := by
  unfold Clauses.setLimit
  split
  · rfl
  · rename_i notNull
    rw [settled_of_ne_null notNull]
    cases boundOf "LIMIT" value <;> rfl

/-! ## Both slots -/

namespace Session

variable {store : Store} {index : Nat} {record : QueryRecord} {arguments : Arguments} {start length : Value}

theorem perform_slice (found : store.queries[index]? = some record)
    (bound : arguments.bind [⟨"start", none⟩, ⟨"length", none⟩] = .ok [start, length]) :
    perform (queryCall index "slice" arguments none) store =
      match settled "OFFSET" start record.clauses.offset with
      | .error failure => (.error failure, store)
      | .ok offset =>
        match settled "LIMIT" length record.clauses.limit with
        | .error failure => (.error failure, reworded store index record { record.clauses with offset })
        | .ok limit => (.ok (.query index), reworded store index record { record.clauses with offset, limit }) := by
  have known : index < store.queries.length := (List.getElem?_eq_some_iff.mp found).1
  change perform (sliceCall index arguments) store = _
  unfold sliceCall
  rw [perform_ofOutcome_bind_ok bound, perform_bind_ok (perform_query_of_some found)]
  have shifts := setOffset_eq record.clauses start
  cases settledOffset : settled "OFFSET" start record.clauses.offset with
  | error failure =>
      rw [settledOffset] at shifts
      rw [shifts]
      rfl
  | ok offset =>
      rw [settledOffset] at shifts
      have limits := setLimit_eq { record.clauses with offset } length
      rw [perform_ofOutcome_bind_ok shifts]
      conv_lhs => rw [← reworded_self found]
      rw [perform_bind_ok (perform_changeClauses known _)]
      cases settledLimit : settled "LIMIT" length record.clauses.limit with
      | error failure =>
          rw [settledLimit] at limits
          rw [limits]
          rfl
      | ok limit =>
          rw [settledLimit] at limits
          rw [perform_ofOutcome_bind_ok limits, perform_bind_ok (perform_changeClauses known _)]
          rfl

/-- A slice settles the offset and then the limit, each in the one way that its argument decides. If the limit fails,
the offset is stored all the same; otherwise a call that fails leaves everything as it was. -/
theorem slice_settles (found : store.queries[index]? = some record)
    (bound : arguments.bind [⟨"start", none⟩, ⟨"length", none⟩] = .ok [start, length]) :
    (∃! outcome, Settles "OFFSET" start record.clauses.offset outcome) ∧
    (∃! outcome, Settles "LIMIT" length record.clauses.limit outcome) ∧
    (∀ offset limit, Settles "OFFSET" start record.clauses.offset (.ok offset) →
      Settles "LIMIT" length record.clauses.limit (.ok limit) →
      perform (queryCall index "slice" arguments none) store =
        (.ok (.query index), reworded store index record { record.clauses with offset, limit })) ∧
    (∀ offset failure, Settles "OFFSET" start record.clauses.offset (.ok offset) →
      Settles "LIMIT" length record.clauses.limit (.error failure) →
      perform (queryCall index "slice" arguments none) store =
        (.error failure, reworded store index record { record.clauses with offset })) ∧
    ∀ failure, Settles "OFFSET" start record.clauses.offset (.error failure) →
      perform (queryCall index "slice" arguments none) store = (.error failure, store) := by
  refine ⟨existsUnique_settles _ _ _, existsUnique_settles _ _ _, ?_, ?_, ?_⟩
  · intro offset limit startSettles lengthSettles
    rw [perform_slice found bound, settles_iff.mp startSettles, settles_iff.mp lengthSettles]
  · intro offset failure startSettles lengthSettles
    rw [perform_slice found bound, settles_iff.mp startSettles, settles_iff.mp lengthSettles]
  · intro failure startSettles
    rw [perform_slice found bound, settles_iff.mp startSettles]

theorem slice_settles_negativeLength :
    ([selectAll][0]? = some selectAll) ∧
    Arguments.bind ⟨[.int 5, .int (-1)], []⟩ [⟨"start", none⟩, ⟨"length", none⟩] = .ok [.int 5, .int (-1)] ∧
    perform (queryCall 0 "slice" ⟨[.int 5, .int (-1)], []⟩ none) { queries := [selectAll] } =
      (.error (.ofRefusal (.negative "LIMIT" (-1))),
        { queries := [{ clauses := { form := .select, offset := some 5 } }] }) := by
  have isOffset : Settles "OFFSET" (.int 5) none (.ok (some 5)) := settles_iff.mpr rfl
  have isLimit : Settles "LIMIT" (.int (-1)) none (.error (.ofRefusal (.negative "LIMIT" (-1)))) :=
    settles_iff.mpr rfl
  refine ⟨rfl, rfl, ?_⟩
  rcases @slice_settles { queries := [selectAll] } 0 selectAll ⟨[.int 5, .int (-1)], []⟩ _ _ rfl rfl with
    ⟨_, _, _, halfway, _⟩
  exact halfway _ _ isOffset isLimit

/-- A length that is refused leaves the offset moved, and one and a half solutions are passed over as one. -/
theorem slice_of_negativeLength :
    (perform (queryCall 0 "slice" ⟨[.int 5, .int (-1)], []⟩ none) { queries := [selectAll] }).1.isOk = false ∧
    (perform (queryCall 0 "slice" ⟨[.int 5, .int (-1)], []⟩ none) { queries := [selectAll] }).2.queries.map
      (·.clauses.offset) = [some 5] ∧
    Value.Denotes (.float (.finite false 6755399441055744 (-52))) (3 / 2) ∧
    (perform (queryCall 0 "slice" ⟨[.float (.finite false 6755399441055744 (-52)), .null], []⟩ none)
      { queries := [selectAll] }).2.queries.map (·.clauses.offset) = [some 1] := by
  refine ⟨rfl, rfl, ?_, rfl⟩
  have isHalf : signedFraction false (6755399441055744 * 2 ^ (-52 : Int)) = 3 / 2 := by
    norm_num [signedFraction, zpow_neg]
  exact isHalf ▸ .float false 6755399441055744 (-52)

end Session

end Sparql
