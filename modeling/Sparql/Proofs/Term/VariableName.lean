import Mathlib.Data.List.TakeWhile
import Mathlib.Tactic.Tauto
import Sparql.Proofs.Outcome
import Sparql.Term.Coercion
import Sparql.Term.Text

/-!
# Names of variables

A text names a variable if it is a name, with one question mark before it or without. A line end behind the name is
let through, though, and becomes a part of the variable, which is no name then.
-/

namespace Sparql

/-- The characters that a name may begin with. -/
def IsLetter (c : Char) : Prop := 'A' ≤ c ∧ c ≤ 'Z' ∨ 'a' ≤ c ∧ c ≤ 'z' ∨ c = '_'

instance : DecidablePred IsLetter := fun c =>
  inferInstanceAs (Decidable ('A' ≤ c ∧ c ≤ 'Z' ∨ 'a' ≤ c ∧ c ≤ 'z' ∨ c = '_'))

/-- The characters that may follow. -/
def IsLetterOrDigit (c : Char) : Prop := IsLetter c ∨ '0' ≤ c ∧ c ≤ '9'

instance : DecidablePred IsLetterOrDigit := fun c => inferInstanceAs (Decidable (IsLetter c ∨ '0' ≤ c ∧ c ≤ '9'))

/-- A letter followed by letters and digits. -/
def IsName (chars : List Char) : Prop :=
  ∃ first rest, chars = first :: rest ∧ IsLetter first ∧ ∀ c ∈ rest, IsLetterOrDigit c

/-- A text without the one question mark that may stand before it. -/
def unmarked (chars : List Char) : List Char := if chars.head? = some '?' then chars.tail else chars

variable {c : Char} {chars name ending : List Char} {text other : String}

/-! ## Characters -/

theorem isUpper_iff : c.isUpper = true ↔ 'A' ≤ c ∧ c ≤ 'Z' := decide_eq_true_iff

theorem isLower_iff : c.isLower = true ↔ 'a' ≤ c ∧ c ≤ 'z' :=
  Bool.and_eq_true_iff.trans (and_congr decide_eq_true_iff decide_eq_true_iff)

theorem isDigit_iff : c.isDigit = true ↔ '0' ≤ c ∧ c ≤ '9' :=
  Bool.and_eq_true_iff.trans (and_congr decide_eq_true_iff decide_eq_true_iff)

theorem isAlpha_iff : c.isAlpha = true ↔ 'A' ≤ c ∧ c ≤ 'Z' ∨ 'a' ≤ c ∧ c ≤ 'z' :=
  Bool.or_eq_true_iff.trans (or_congr isUpper_iff isLower_iff)

theorem isVariableStart_iff : isVariableStart c = true ↔ IsLetter c := by
  unfold isVariableStart IsLetter
  rw [Bool.or_eq_true, isAlpha_iff, decide_eq_true_iff, or_assoc]

theorem isVariableCharacter_iff : isVariableCharacter c = true ↔ IsLetterOrDigit c := by
  unfold isVariableCharacter Char.isAlphanum IsLetterOrDigit IsLetter
  rw [Bool.or_eq_true, Bool.or_eq_true, isAlpha_iff, isDigit_iff, decide_eq_true_iff]
  tauto

theorem isVariableEnd_iff : isVariableEnd chars = true ↔ chars = [] ∨ chars = ['\n'] := by
  unfold isVariableEnd
  split <;> simp_all

theorem IsLetter.ne_mark (isLetter : IsLetter c) : c ≠ '?' := by
  rintro rfl
  exact absurd isLetter (by decide)

theorem not_isLetterOrDigit_lineEnd : ¬IsLetterOrDigit '\n' := by
  decide

/-! ## Names -/

theorem IsName.forall_mem (isName : IsName name) : ∀ c ∈ name, IsLetterOrDigit c := by
  rcases isName with ⟨first, rest, rfl, isLetter, others⟩
  simpa using ⟨.inl isLetter, others⟩

/-- A bare name is a name that may be followed by a line end. -/
theorem isBareName_iff : isBareName chars = true ↔
    ∃ name ending, chars = name ++ ending ∧ IsName name ∧ (ending = [] ∨ ending = ['\n']) := by
  constructor
  · intro isBare
    cases chars with
    | nil => cases isBare
    | cons first rest =>
        rw [isBareName, Bool.and_eq_true, isVariableStart_iff, isVariableEnd_iff] at isBare
        refine ⟨first :: rest.takeWhile isVariableCharacter, rest.dropWhile isVariableCharacter, by simp,
          ⟨first, _, rfl, isBare.1, fun c mem => ?_⟩, isBare.2⟩
        exact isVariableCharacter_iff.mp (List.mem_takeWhile_imp mem)
  · rintro ⟨_, ending, rfl, ⟨first, rest, rfl, isLetter, others⟩, isEnding⟩
    have nothingLeft : (rest ++ ending).dropWhile isVariableCharacter = ending := by
      rw [List.dropWhile_append_of_pos fun c mem => isVariableCharacter_iff.mpr (others c mem)]
      rcases isEnding with rfl | rfl <;> rfl
    rw [List.cons_append, isBareName, Bool.and_eq_true, nothingLeft]
    exact ⟨isVariableStart_iff.mpr isLetter, isVariableEnd_iff.mpr isEnding⟩

theorem isVariableName_eq : isVariableName chars = isBareName (unmarked chars) := by
  rcases chars with _ | ⟨first, rest⟩
  · rfl
  · by_cases isMark : first = '?' <;> simp [isVariableName, unmarked, isMark]

/-! ## Marks -/

theorem stripMarks_unmarked (text : String) : stripMarks (String.ofList (unmarked text.toList)) = stripMarks text := by
  rw [stripMarks, stripMarks, String.toList_ofList]
  unfold unmarked
  rcases text.toList with _ | ⟨first, rest⟩
  · rfl
  · by_cases isMark : first = '?' <;> simp [isMark]

theorem stripMarks_marked (name : String) : stripMarks ("?" ++ name) = stripMarks name := by
  rw [stripMarks, String.toList_append]
  rfl

theorem stripMarks_eq_self (noMark : text.toList.head? ≠ some '?') : stripMarks text = text := by
  have nothingLeft : text.toList.dropWhile (· == '?') = text.toList := by
    rcases isText : text.toList with _ | ⟨first, rest⟩
    · rfl
    · rw [isText] at noMark
      exact List.dropWhile_cons_of_neg (by simpa using noMark)
  rw [stripMarks, nothingLeft, String.ofList_toList]

/-! ## Texts that name variables -/

/-- A text spells a name, with a mark before it or without, and with a line end behind it or without. -/
structure Spelled (text : String) (name ending : List Char) : Prop where
  isText : unmarked text.toList = name ++ ending
  isName : IsName name
  isEnding : ending = [] ∨ ending = ['\n']

theorem isVariableName_iff_spelled :
    (Value.text text).isVariableName = true ↔ ∃ name ending, Spelled text name ending := by
  rw [Value.isVariableName, isVariableName_eq, isBareName_iff]
  constructor
  · rintro ⟨name, ending, isText, isName, isEnding⟩
    exact ⟨name, ending, isText, isName, isEnding⟩
  · rintro ⟨name, ending, isText, isName, isEnding⟩
    exact ⟨name, ending, isText, isName, isEnding⟩

namespace Spelled

/-- What follows the mark is kept as it is. -/
theorem stripMarks_eq (spelled : Spelled text name ending) : stripMarks text = String.ofList (unmarked text.toList) := by
  rw [← stripMarks_unmarked, stripMarks_eq_self]
  rcases spelled.isName with ⟨first, rest, isFirst, isLetter, _⟩
  rw [String.toList_ofList, spelled.isText, isFirst]
  simpa using isLetter.ne_mark

theorem asVariable_eq (spelled : Spelled text name ending) :
    (Value.text text).asVariable = .ok (String.ofList (unmarked text.toList)) := by
  have accepted := isVariableName_iff_spelled.mpr ⟨name, ending, spelled⟩
  rw [Value.isVariableName] at accepted
  rw [Value.asVariable, if_pos accepted, spelled.stripMarks_eq]

theorem isName_iff (spelled : Spelled text name ending) : IsName (unmarked text.toList) ↔ ending = [] := by
  rw [spelled.isText]
  rcases spelled.isEnding with rfl | rfl
  · simpa using spelled.isName
  · constructor
    · intro isName
      exact absurd (isName.forall_mem '\n' (by simp)) not_isLetterOrDigit_lineEnd
    · rintro ⟨⟩

end Spelled

/-- Which texts name a variable, which variable that is and how it is written, and which texts name the same one. It
is a name exactly if no line end follows the name in the text. -/
theorem asVariable_of_text (text : String) :
    ((Value.text text).isVariableName = true ↔ ∃ name ending, Spelled text name ending) ∧
    (∀ name ending, Spelled text name ending → ∃ spelling,
      (Value.text text).asVariable = .ok spelling ∧ (Term.variable spelling).render = .ok ("?" ++ spelling) ∧
        spelling.toList = name ++ ending ∧ (IsName spelling.toList ↔ ending = [])) ∧
    ∀ other, (Value.text text).isVariableName = true → (Value.text other).isVariableName = true →
      ((Value.text text).asVariable = (Value.text other).asVariable ↔
        unmarked text.toList = unmarked other.toList) := by
  refine ⟨isVariableName_iff_spelled, fun name ending spelled => ?_, fun other accepted otherAccepted => ?_⟩
  · refine ⟨_, spelled.asVariable_eq, rfl, ?_, ?_⟩
    · rw [String.toList_ofList, spelled.isText]
    · rw [String.toList_ofList, spelled.isName_iff]
  · rcases isVariableName_iff_spelled.mp accepted with ⟨name, ending, spelled⟩
    rcases isVariableName_iff_spelled.mp otherAccepted with ⟨otherName, otherEnding, otherSpelled⟩
    rw [spelled.asVariable_eq, otherSpelled.asVariable_eq, Except.ok.injEq, String.ofList_inj]

/-- A line of a file names a variable with its mark and without, and the same one, but its end is a part of that. -/
theorem asVariable_of_line :
    (Value.text "?x_1\n").isVariableName = true ∧ (Value.text "x_1\n").isVariableName = true ∧
    Spelled "?x_1\n" ['x', '_', '1'] ['\n'] ∧
    (∃ spelling, (Value.text "?x_1\n").asVariable = .ok spelling ∧
      (Term.variable spelling).render = .ok ("?" ++ spelling) ∧ spelling.toList = ['x', '_', '1', '\n'] ∧
      (IsName spelling.toList ↔ ['\n'] = [])) ∧
    ((Value.text "?x_1\n").asVariable = (Value.text "x_1\n").asVariable ↔
      unmarked "?x_1\n".toList = unmarked "x_1\n".toList) := by
  have marked : (Value.text "?x_1\n").isVariableName = true := by decide +kernel
  have bare : (Value.text "x_1\n").isVariableName = true := by decide +kernel
  have spelled : Spelled "?x_1\n" ['x', '_', '1'] ['\n'] := by
    refine ⟨by decide +kernel, ⟨'x', ['_', '1'], rfl, by decide, ?_⟩, .inr rfl⟩
    exact List.forall_mem_cons.mpr ⟨by decide, List.forall_mem_singleton.mpr (by decide)⟩
  have ofLine := asVariable_of_text "?x_1\n"
  exact ⟨marked, bare, spelled, ofLine.2.1 _ _ spelled, ofLine.2.2 _ marked bare⟩

/-- A text is taken for a variable that is no name. -/
theorem asVariable_lineEnd :
    (Value.text "x\n").isVariableName = true ∧ (Value.text "x\n").asVariable = .ok "x\n" ∧
      (Term.variable "x\n").render = .ok "?x\n" ∧ ¬IsName "x\n".toList := by
  refine ⟨by decide +kernel, rfl, rfl, fun isName => ?_⟩
  exact not_isLetterOrDigit_lineEnd (isName.forall_mem '\n' (by decide +kernel))

end Sparql
