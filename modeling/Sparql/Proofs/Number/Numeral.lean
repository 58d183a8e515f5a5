import Mathlib.Algebra.Order.Field.Power
import Mathlib.Data.List.TakeWhile
import Mathlib.Data.Nat.Digits.Defs
import Mathlib.Data.Rat.Floor
import Mathlib.Tactic.Ring
import Sparql.Number.Reading

/-!
# Numerals

Which texts write an integer, and which one: digits of any script after at most one sign, with margins around them
and single underscores between them. A fraction is cut at its point, toward zero.
-/

namespace Sparql.Number

open Sparql.Text

/-! ## Digits -/

/-- A digit of some script, with its value. -/
def IsDigit (c : Char) (value : Nat) : Prop := value < 10 ∧ ∃ start ∈ digitZeros, c.toNat = start + value

variable {c : Char} {value : Nat} {text : List Char} {values : List Nat}

theorem digitZeros_ascii : ∀ start ∈ digitZeros, start < 128 → start = 48 := by decide

/-- No two scripts share a digit. -/
theorem digitZeros_unique : ∀ first ∈ digitZeros, ∀ second ∈ digitZeros,
    first < second + 10 → second < first + 10 → first = second := by decide +kernel

theorem digitValue?_eq_some : digitValue? c = some value ↔ IsDigit c value := by
  unfold digitValue?
  constructor
  · intro isValue
    split at isValue
    · split at isValue <;> cases isValue
      exact ⟨by omega, 48, by decide, by omega⟩
    · rcases Option.map_eq_some_iff.mp isValue with ⟨start, isFound, rfl⟩
      have isRun := List.find?_some isFound
      simp only [Bool.and_eq_true, decide_eq_true_eq] at isRun
      exact ⟨by omega, start, List.mem_of_find?_eq_some isFound, by omega⟩
  · rintro ⟨isSmall, start, mem, isAt⟩
    split
    · have isAscii := digitZeros_ascii start mem (by omega)
      rw [if_pos (by omega)]
      exact congrArg some (by omega)
    · have isRun : ∃ found, digitZeros.find? (fun start => start ≤ c.toNat && c.toNat < start + 10) = some found :=
        Option.isSome_iff_exists.mp (List.find?_isSome.mpr ⟨start, mem, by simp [isAt, isSmall]⟩)
      rcases isRun with ⟨found, isFound⟩
      have isRun := List.find?_some isFound
      simp only [Bool.and_eq_true, decide_eq_true_eq] at isRun
      rw [isFound, digitZeros_unique found (List.mem_of_find?_eq_some isFound) start mem (by omega) (by omega),
        Option.map_some, isAt, Nat.add_sub_cancel_left]

theorem isDigit_digitChar (isSmall : value < 10) : IsDigit (digitChar value) value :=
  ⟨isSmall, 48, by decide, by revert value; decide⟩

theorem isAsciiDigit_digitChar (isSmall : value < 10) : isAsciiDigit (digitChar value) = true := by
  revert value
  decide

theorem toNat_digitChar (isSmall : value < 10) : (digitChar value).toNat - 48 = value := by
  revert value
  decide

theorem exists_digitChar (isDigit : isAsciiDigit c = true) : ∃ value < 10, c = digitChar value := by
  simp only [isAsciiDigit, Bool.and_eq_true, decide_eq_true_eq] at isDigit
  refine ⟨c.toNat - 48, by omega, ?_⟩
  rw [digitChar, Nat.add_sub_cancel' isDigit.1, Char.ofNat_toNat]

/-- A digit in ASCII, or the character itself if it is no digit. -/
def asciiDigit (c : Char) : Char :=
  match digitValue? c with
  | some value => digitChar value
  | none => c

theorem asciiDigits_eq (text : List Char) : asciiDigits text = text.map asciiDigit := rfl

theorem asciiDigit_of_isDigit (isDigit : IsDigit c value) : asciiDigit c = digitChar value := by
  rw [asciiDigit, digitValue?_eq_some.mpr isDigit]

/-- Only a digit becomes an ASCII digit, and everything else stays. -/
theorem asciiDigit_cases (c : Char) :
    (∃ value, IsDigit c value ∧ asciiDigit c = digitChar value) ∨ (∀ value, ¬ IsDigit c value) ∧ asciiDigit c = c := by
  cases isValue : digitValue? c with
  | some value =>
      have isDigit := digitValue?_eq_some.mp isValue
      exact .inl ⟨value, isDigit, asciiDigit_of_isDigit isDigit⟩
  | none =>
      refine .inr ⟨fun value isDigit => ?_, by rw [asciiDigit, isValue]⟩
      rw [digitValue?_eq_some.mpr isDigit] at isValue
      cases isValue

theorem isDigit_of_asciiDigit (isSmall : value < 10) (isChar : asciiDigit c = digitChar value) : IsDigit c value := by
  rcases asciiDigit_cases c with ⟨other, isDigit, isOther⟩ | ⟨noDigit, isSelf⟩
  · have same : other = value := by
      rw [← toNat_digitChar isDigit.1, ← isOther, isChar, toNat_digitChar isSmall]
    exact same ▸ isDigit
  · rw [isSelf] at isChar
    exact absurd (isChar ▸ isDigit_digitChar isSmall) (noDigit value)

/-- What is no ASCII digit is written as it stands in the text. -/
theorem asciiDigit_eq_iff {mark : Char} (noDigit : isAsciiDigit mark = false) (notDigit : asciiDigit mark = mark) :
    asciiDigit c = mark ↔ c = mark := by
  constructor
  · rintro rfl
    rcases asciiDigit_cases c with ⟨value, isDigit, isChar⟩ | ⟨_, isSelf⟩
    · rw [isChar, isAsciiDigit_digitChar isDigit.1] at noDigit
      cases noDigit
    · exact isSelf.symm
  · rintro rfl
    exact notDigit

/-! ## Digits in groups -/

/-- Digits and their values. A single underscore may stand between two digits. -/
inductive IsDigits : List Char → List Nat → Prop
  | last {c : Char} {value : Nat} (isDigit : IsDigit c value) : IsDigits [c] [value]
  | next {c : Char} {value : Nat} {text : List Char} {values : List Nat} (isDigit : IsDigit c value)
      (areDigits : IsDigits text values) : IsDigits (c :: text) (value :: values)
  | grouped {c : Char} {value : Nat} {text : List Char} {values : List Nat} (isDigit : IsDigit c value)
      (areDigits : IsDigits text values) : IsDigits (c :: '_' :: text) (value :: values)

theorem IsDigits.exists_head (areDigits : IsDigits text values) :
    ∃ value rest, value < 10 ∧ asciiDigits text = digitChar value :: rest := by
  cases areDigits with
  | last isDigit | next isDigit _ | grouped isDigit _ =>
      exact ⟨_, _, isDigit.1, by rw [asciiDigits_eq, List.map_cons, asciiDigit_of_isDigit isDigit]⟩

theorem IsDigits.small (areDigits : IsDigits text values) : ∀ value ∈ values, value < 10 := by
  induction areDigits with
  | last isDigit => simpa using isDigit.1
  | next isDigit _ ih | grouped isDigit _ ih => exact List.forall_mem_cons.mpr ⟨isDigit.1, ih⟩

theorem digitChar_ne_underscore (isSmall : value < 10) : digitChar value ≠ '_' := by
  revert value
  decide

theorem joinDigitGroups_of_isDigits (areDigits : IsDigits text values) :
    joinDigitGroups (asciiDigits text) = some (values.map digitChar) := by
  induction areDigits with
  | last isDigit =>
      rw [asciiDigits_eq, List.map_singleton, asciiDigit_of_isDigit isDigit, joinDigitGroups]
      · rfl
      · exact digitChar_ne_underscore isDigit.1
      · rintro _ _ ⟨⟩
  | next isDigit areDigits ih =>
      rcases areDigits.exists_head with ⟨value, rest, isSmall, isHead⟩
      rw [asciiDigits_eq, List.map_cons, asciiDigit_of_isDigit isDigit, ← asciiDigits_eq, joinDigitGroups, ih]
      · rfl
      · exact digitChar_ne_underscore isDigit.1
      · rw [isHead]
        rintro d others isUnderscore
        exact digitChar_ne_underscore isSmall (List.cons.inj isUnderscore).1
  | grouped isDigit areDigits ih =>
      rcases areDigits.exists_head with ⟨value, rest, isSmall, isHead⟩
      have isMark : asciiDigit '_' = '_' := by decide
      rw [asciiDigits_eq, List.map_cons, List.map_cons, asciiDigit_of_isDigit isDigit, isMark, ← asciiDigits_eq, isHead,
        joinDigitGroups, ← isHead, ih, isAsciiDigit_digitChar isDigit.1, isAsciiDigit_digitChar isSmall]
      · rfl
      · exact digitChar_ne_underscore isDigit.1

theorem head_of_joinDigitGroups {rest digits : List Char} (isJoined : joinDigitGroups (c :: rest) = some digits) :
    ∃ others, digits = c :: others := by
  unfold joinDigitGroups at isJoined
  split at isJoined
  case h_1 isEmpty => cases isEmpty
  case h_2 => cases isJoined
  case h_3 isText =>
      cases isText
      split at isJoined
      · rcases Option.map_eq_some_iff.mp isJoined with ⟨others, _, rfl⟩
        exact ⟨others, rfl⟩
      · cases isJoined
  case h_4 isText =>
      cases isText
      rcases Option.map_eq_some_iff.mp isJoined with ⟨others, _, rfl⟩
      exact ⟨others, rfl⟩

/-- The characters that are left when the underscores are taken out tell the digits. -/
theorem isDigits_of_joinDigitGroups {body digits : List Char} (isBody : asciiDigits text = body)
    (isJoined : joinDigitGroups body = some digits) (notEmpty : digits ≠ [])
    (areDigits : ∀ c ∈ digits, isAsciiDigit c = true) :
    ∃ values, IsDigits text values ∧ digits = values.map digitChar := by
  induction body using joinDigitGroups.induct generalizing text digits with
  | case1 =>
      cases isJoined
      exact absurd rfl notEmpty
  -- In this case and in the fourth an underscore does not stand between two digits.
  | case2 => cases isJoined
  | case3 first second rest notMark both ih =>
      rcases List.map_eq_cons_iff.mp isBody with ⟨c, others, rfl, isFirst, isOthers⟩
      rcases List.map_eq_cons_iff.mp isOthers with ⟨mark, tail, rfl, isMark, isTail⟩
      cases (asciiDigit_eq_iff (by decide) (by decide)).mp isMark
      rw [joinDigitGroups, if_pos both] at isJoined
      · rcases Option.map_eq_some_iff.mp isJoined with ⟨joined, isRest, rfl⟩
        rcases head_of_joinDigitGroups isRest with ⟨others, isHead⟩
        rw [List.forall_mem_cons] at areDigits
        rcases ih isTail isRest (by simp [isHead]) areDigits.2 with ⟨values, areOthers, rfl⟩
        rcases exists_digitChar areDigits.1 with ⟨value, isSmall, rfl⟩
        exact ⟨value :: values, .grouped (isDigit_of_asciiDigit isSmall isFirst) areOthers, rfl⟩
      · exact notMark
  | case4 first second rest notMark notBoth =>
      rw [joinDigitGroups, if_neg notBoth] at isJoined
      · cases isJoined
      · exact notMark
  | case5 first rest notMark notGroup ih =>
      rcases List.map_eq_cons_iff.mp isBody with ⟨c, tail, rfl, isFirst, isTail⟩
      rw [joinDigitGroups] at isJoined
      · rcases Option.map_eq_some_iff.mp isJoined with ⟨joined, isRest, rfl⟩
        rw [List.forall_mem_cons] at areDigits
        rcases exists_digitChar areDigits.1 with ⟨value, isSmall, rfl⟩
        have isDigit := isDigit_of_asciiDigit isSmall isFirst
        rcases tail with _ | ⟨d, tail⟩
        · cases isTail
          cases isRest
          exact ⟨[value], .last isDigit, rfl⟩
        · rcases head_of_joinDigitGroups (isTail ▸ isRest) with ⟨others, isHead⟩
          rcases ih isTail isRest (by simp [isHead]) areDigits.2 with ⟨values, areOthers, rfl⟩
          exact ⟨value :: values, .next isDigit areOthers, rfl⟩
      · exact notMark
      · exact notGroup

/-! ## Numerals -/

/-- A sign that a numeral may begin with, and whether it is the minus. -/
inductive IsSign : List Char → Bool → Prop
  | none : IsSign [] false
  | plus : IsSign ['+'] false
  | minus : IsSign ['-'] true

/-- An integer with a sign and digits. -/
def signed (negative : Bool) (magnitude : Nat) : Int := if negative then -magnitude else magnitude

/-- A text that writes an integer, the first digit for the highest power of ten. -/
inductive IsNumeral : List Char → Int → Prop
  | mk {front sign body back : List Char} {negative : Bool} {values : List Nat}
      (areMargins : ∀ c ∈ front ++ back, isMargin c = true) (isSign : IsSign sign negative)
      (areDigits : IsDigits body values) (notLong : values.length ≤ maxDigits) :
      IsNumeral (front ++ (sign ++ body ++ back)) (signed negative (Nat.ofDigits 10 values.reverse))

/-! ## Reading -/

theorem joinDigitGroups_eq_self {body : List Char} (noMark : '_' ∉ body) : joinDigitGroups body = some body := by
  induction body with
  | nil => rfl
  | cons c rest ih =>
      rw [List.mem_cons, not_or] at noMark
      rw [joinDigitGroups, ih noMark.2]
      · rfl
      · exact fun isMark => noMark.1 isMark.symm
      · rintro d others rfl
        exact noMark.2 (.head _)

/-- The test for underscores only saves work. -/
theorem integer?_eq (text : List Char) : integer? text =
    (joinDigitGroups (splitSign (asciiDigits (trimMargin text))).2).bind fun digits =>
      if digits.isEmpty || !digits.all isAsciiDigit || maxDigits < digits.length then none
      else some (signed (splitSign (asciiDigits (trimMargin text))).1 (asciiNumber digits)) := by
  unfold integer?
  generalize splitSign (asciiDigits (trimMargin text)) = parts
  rcases parts with ⟨negative, body⟩
  by_cases isMarked : body.contains '_'
  · simp only [isMarked, if_true]
    rfl
  · have noMark : '_' ∉ body := by simpa using isMarked
    simp only [isMarked, joinDigitGroups_eq_self noMark]
    rfl

theorem asciiNumber_map (areSmall : ∀ value ∈ values, value < 10) :
    asciiNumber (values.map digitChar) = Nat.ofDigits 10 values.reverse := by
  rw [Nat.ofDigits_eq_foldr, List.foldr_reverse, asciiNumber, List.foldl_map]
  have step (sum : Nat) : ∀ value ∈ values, sum * 10 + ((digitChar value).toNat - 48) = value + 10 * sum := by
    intro value mem
    rw [toNat_digitChar (areSmall value mem)]
    omega
  exact List.foldl_ext _ _ _ fun sum value mem => step sum value mem

theorem isBlank_digit : ∀ start ∈ digitZeros, ∀ value < 10, isBlank (Char.ofNat (start + value)) = false := by
  decide +kernel

theorem IsDigit.notMargin (isDigit : IsDigit c value) : isMargin c = false := by
  rcases isDigit with ⟨isSmall, start, mem, isAt⟩
  have notBlank := isBlank_digit start mem value isSmall
  rw [← isAt, Char.ofNat_toNat] at notBlank
  rw [isMargin, notBlank, Bool.false_and]

theorem IsDigits.notMargin (areDigits : IsDigits text values) : ∀ c ∈ text, isMargin c = false := by
  induction areDigits with
  | last isDigit => simpa using isDigit.notMargin
  | next isDigit _ ih => exact List.forall_mem_cons.mpr ⟨isDigit.notMargin, ih⟩
  | grouped isDigit _ ih =>
      exact List.forall_mem_cons.mpr ⟨isDigit.notMargin, List.forall_mem_cons.mpr ⟨by decide, ih⟩⟩

theorem IsSign.notMargin {sign : List Char} {negative : Bool} (isSign : IsSign sign negative) :
    ∀ c ∈ sign, isMargin c = false := by
  cases isSign with
  | none => exact List.forall_mem_nil _
  | minus | plus => exact List.forall_mem_singleton.mpr (by decide)

theorem digitChar_ne_sign (isSmall : value < 10) : digitChar value ≠ '-' ∧ digitChar value ≠ '+' := by
  revert value
  decide

theorem splitSign_of_isSign {sign body : List Char} {negative : Bool} (isSign : IsSign sign negative)
    (areDigits : IsDigits body values) :
    splitSign (asciiDigits (sign ++ body)) = (negative, asciiDigits body) := by
  cases isSign with
  | none =>
      rcases areDigits.exists_head with ⟨value, rest, isSmall, isHead⟩
      have noSign := digitChar_ne_sign isSmall
      rw [List.nil_append, isHead, splitSign]
      · rintro _ isMinus
        exact noSign.1 (List.cons.inj isMinus).1
      · rintro _ isPlus
        exact noSign.2 (List.cons.inj isPlus).1
  | plus | minus => rfl

theorem exists_sign (text : List Char) : ∃ sign body, text = sign ++ body ∧
    IsSign sign (splitSign (asciiDigits text)).1 ∧ (splitSign (asciiDigits text)).2 = asciiDigits body := by
  unfold splitSign
  split
  · rename_i rest isMinus
    rcases List.map_eq_cons_iff.mp isMinus with ⟨c, body, rfl, isMark, rfl⟩
    cases (asciiDigit_eq_iff (by decide) (by decide)).mp isMark
    exact ⟨['-'], body, rfl, .minus, rfl⟩
  · rename_i rest isPlus
    rcases List.map_eq_cons_iff.mp isPlus with ⟨c, body, rfl, isMark, rfl⟩
    cases (asciiDigit_eq_iff (by decide) (by decide)).mp isMark
    exact ⟨['+'], body, rfl, .plus, rfl⟩
  · exact ⟨[], text, rfl, .none, rfl⟩

theorem exists_margins (text : List Char) : ∃ front back, text = front ++ (trimMargin text ++ back) ∧
    ∀ c ∈ front ++ back, isMargin c = true := by
  let inner := text.dropWhile isMargin
  refine ⟨text.takeWhile isMargin, (inner.reverse.takeWhile isMargin).reverse, ?_, ?_⟩
  · have isInner : inner.reverse.takeWhile isMargin ++ inner.reverse.dropWhile isMargin = inner.reverse :=
      List.takeWhile_append_dropWhile
    have isText : text.takeWhile isMargin ++ inner = text := List.takeWhile_append_dropWhile
    rw [trimMargin, ← List.reverse_append, isInner, List.reverse_reverse, isText]
  · intro c mem
    rw [List.mem_append, List.mem_reverse] at mem
    rcases mem with mem | mem <;> exact List.mem_takeWhile_imp mem

theorem trimMargin_eq {front core back : List Char} (areMargins : ∀ c ∈ front ++ back, isMargin c = true)
    (isCore : ∀ c ∈ core, isMargin c = false) (notEmpty : core ≠ []) : trimMargin (front ++ (core ++ back)) = core := by
  have stops (core text : List Char) (isCore : ∀ c ∈ core, isMargin c = false) (notEmpty : core ≠ []) :
      (core ++ text).dropWhile isMargin = core ++ text := by
    rcases List.exists_cons_of_ne_nil notEmpty with ⟨c, rest, rfl⟩
    exact List.dropWhile_cons_of_neg (by simp [isCore c (.head _)])
  rw [List.forall_mem_append] at areMargins
  rw [trimMargin, List.dropWhile_append_of_pos areMargins.1, stops core back isCore notEmpty, List.reverse_append,
    List.dropWhile_append_of_pos fun c mem => areMargins.2 c (List.mem_reverse.mp mem)]
  have isReversed := stops core.reverse [] (by simpa using isCore) (by simpa using notEmpty)
  rw [List.append_nil] at isReversed
  rw [isReversed, List.reverse_reverse]

/-- Exactly the numerals are read, each as the integer that it writes. -/
theorem integer?_eq_some {number : Int} : integer? text = some number ↔ IsNumeral text number := by
  rw [integer?_eq]
  constructor
  · intro isRead
    rcases Option.bind_eq_some_iff.mp isRead with ⟨digits, isJoined, isNumber⟩
    split at isNumber
    · cases isNumber
    rename_i isProper
    cases isNumber
    simp only [Bool.or_eq_true, List.isEmpty_iff, Bool.not_eq_true', decide_eq_true_eq, not_or, Nat.not_lt,
      Bool.not_eq_false, List.all_eq_true] at isProper
    rcases isProper with ⟨⟨notEmpty, areDigits⟩, notLong⟩
    rcases exists_margins text with ⟨front, back, isText, areMargins⟩
    rcases exists_sign (trimMargin text) with ⟨sign, body, isCore, isSign, isBody⟩
    rcases isDigits_of_joinDigitGroups isBody.symm isJoined notEmpty areDigits with ⟨values, areValues, rfl⟩
    rw [asciiNumber_map areValues.small]
    generalize (splitSign (asciiDigits (trimMargin text))).1 = negative at isSign ⊢
    rw [isText, isCore]
    exact .mk areMargins isSign areValues (by simpa using notLong)
  · rintro @⟨front, sign, body, back, negative, values, areMargins, isSign, areDigits, notLong⟩
    have notEmpty : sign ++ body ≠ [] := by
      cases areDigits <;> simp
    have isCore : ∀ c ∈ sign ++ body, isMargin c = false :=
      List.forall_mem_append.mpr ⟨isSign.notMargin, areDigits.notMargin⟩
    rw [trimMargin_eq areMargins isCore notEmpty, splitSign_of_isSign isSign areDigits,
      joinDigitGroups_of_isDigits areDigits, Option.bind_some, asciiNumber_map areDigits.small, if_neg]
    have someDigit : values ≠ [] := by
      cases areDigits <;> simp
    have areAscii : ∀ value ∈ values, isAsciiDigit (digitChar value) = true := fun value mem =>
      isAsciiDigit_digitChar (areDigits.small value mem)
    simpa [someDigit, notLong] using areAscii

/-- A numeral writes one integer. -/
theorem IsNumeral.unique {first second : Int} (isFirst : IsNumeral text first) (isSecond : IsNumeral text second) :
    first = second :=
  Option.some.inj ((integer?_eq_some.mpr isFirst).symm.trans (integer?_eq_some.mpr isSecond))

end Sparql.Number

namespace Sparql

/-! ## Whole parts -/

/-- The integer next to a fraction on the side of zero. -/
def wholePart (q : ℚ) : Int := if 0 ≤ q then ⌊q⌋ else ⌈q⌉

/-- A fraction with a sign. -/
def signedFraction (negative : Bool) (q : ℚ) : ℚ := if negative then -q else q

section WholePart

variable {q : ℚ}

theorem wholePart_intCast (number : Int) : wholePart number = number := by
  unfold wholePart
  split <;> simp

theorem wholePart_signed (negative : Bool) (notNegative : 0 ≤ q) :
    (if negative then -⌊q⌋ else ⌊q⌋) = wholePart (signedFraction negative q) := by
  unfold signedFraction wholePart
  cases negative with
  | false => simp [notNegative]
  | true =>
      by_cases isZero : q = 0
      · simp [isZero]
      · have isPositive : 0 < q := lt_of_le_of_ne notNegative (Ne.symm isZero)
        simp [isPositive, Int.ceil_neg]

/-- A fraction is cut to a negative integer from one below zero on. -/
theorem wholePart_neg : wholePart q < 0 ↔ q ≤ -1 := by
  unfold wholePart
  split
  · rename_i notNegative
    have floor : 0 ≤ ⌊q⌋ := Int.floor_nonneg.mpr notNegative
    constructor
    · intro isNegative
      omega
    · intro isBelow
      linarith
  · rw [show ⌈q⌉ < 0 ↔ ⌈q⌉ ≤ -1 by omega, Int.ceil_le]
    simp

theorem toNat_wholePart (q : ℚ) : (wholePart q).toNat = ⌊q⌋₊ := by
  unfold wholePart
  split
  · exact Int.floor_toNat q
  · rename_i isNegative
    have ceiling : ⌈q⌉ ≤ 0 := Int.ceil_le.mpr (by simpa using (not_le.mp isNegative).le)
    rw [Nat.floor_of_nonpos (not_le.mp isNegative).le]
    omega

/-- A coefficient with a power of a base is cut by a division of natural numbers. -/
theorem floor_scaled {base : Nat} (isPositive : 0 < base) (coefficient : Nat) (exponent : Int) :
    ⌊(coefficient : ℚ) * (base : ℚ) ^ exponent⌋ =
      (coefficient : Int) * Nat.pow base exponent.toNat / Nat.pow base (-exponent).toNat := by
  have notZero : (base : ℚ) ≠ 0 := by exact_mod_cast isPositive.ne'
  have isQuotient : (coefficient : ℚ) * (base : ℚ) ^ exponent =
      ((coefficient * base ^ exponent.toNat : Int) : ℚ) / ((base ^ (-exponent).toNat : Nat) : ℚ) := by
    have power : exponent = (exponent.toNat : Int) - ((-exponent).toNat : Int) := by omega
    conv_lhs => rw [power, zpow_sub₀ notZero, zpow_natCast, zpow_natCast]
    push_cast
    ring
  rw [isQuotient, Rat.floor_intCast_div_natCast]
  rfl

end WholePart

/-- The number that a finite double is. -/
theorem Double.truncate?_finite (negative : Bool) (mantissa : Nat) (exponent : Int) :
    (Double.finite negative mantissa exponent).truncate? =
      some (wholePart (signedFraction negative (mantissa * 2 ^ exponent))) := by
  have notNegative : (0 : ℚ) ≤ mantissa * 2 ^ exponent := by positivity
  rw [← wholePart_signed negative notNegative, ← Nat.cast_two, floor_scaled (by decide)]
  rfl

/-- The number that a finite decimal is. -/
theorem Decimal.truncate?_finite (negative : Bool) (coefficient : Nat) (exponent : Int) :
    (Decimal.finite negative coefficient exponent).truncate? =
      some (wholePart (signedFraction negative (coefficient * 10 ^ exponent))) := by
  have notNegative : (0 : ℚ) ≤ coefficient * 10 ^ exponent := by positivity
  rw [← wholePart_signed negative notNegative, ← Nat.cast_ofNat, floor_scaled (by decide)]
  rfl

end Sparql
