import Sparql.Proofs.Outcome
import Sparql.Term.Coercion

/-!
# Building literals

A literal cannot be built for two reasons: its language is no tag, or its datatype is one of spans of time and
its text writes a span that no text of the normal form writes.
-/

namespace Sparql

namespace Literal

variable {text : String}

@[simp]
theorem ofText_plain : ofText text none none = .ok (.plain text) := rfl

@[simp]
theorem ofText_empty {datatype : Option String} : ofText text (some "") datatype = ofText text none datatype :=
  rfl

theorem ofText_tagged {tag : String} (isSome : tag ≠ "") :
    ofText text (some tag) none =
      if isLanguageTag tag then .ok ⟨text, some tag, none⟩ else .error (.badLanguage tag) := by
  simp [ofText, Option.filter, isSome]

theorem ofText_typed {datatype : String} :
    ofText text none (some datatype) =
      if (LexicalSpace.ofDatatype (some datatype)).hasNoForm text.toList then .error .unwritableSpan
      else .ok (.typed text datatype) := rfl

/-- A language that is given and is no tag. -/
def IsBadLanguage (language : Option String) : Prop :=
  ∃ tag, language = some tag ∧ tag ≠ "" ∧ isLanguageTag tag = false

theorem ofText_language_eq_error {language : Option String} {cause : LiteralError} :
    ofText text language none = .error cause ↔
      ∃ tag, language = some tag ∧ tag ≠ "" ∧ isLanguageTag tag = false ∧ cause = .badLanguage tag := by
  rcases language with _ | tag
  · simp
  · by_cases isEmpty : tag = ""
    · subst isEmpty
      simp
    · rw [ofText_tagged isEmpty]
      constructor
      · intro failed
        split at failed <;> cases failed
        exact ⟨tag, rfl, isEmpty, by simpa using ‹¬ isLanguageTag tag = true›, rfl⟩
      · rintro ⟨_, ⟨⟩, _, notTag, rfl⟩
        simp [notTag]

end Literal

theorem Outcome.ofLiteral_eq_error {built : Except LiteralError Literal} {failure : Failure} :
    ofLiteral built = .error failure ↔ ∃ cause, built = .error cause ∧ failure = .fault cause.fault := by
  cases built <;> simp [ofLiteral, misuse, eq_comm]

namespace Value

variable {value : Value} {failure : Failure}

theorem toLiteral_language_eq_error {language : Option String} :
    value.toLiteral language none = .error failure ↔
      failure = .fault .badValue ∧ Literal.IsBadLanguage language := by
  have checked : ∀ text, Outcome.ofLiteral (Literal.ofText text language none) = .error failure ↔
      failure = .fault .badValue ∧ Literal.IsBadLanguage language := by
    intro text
    simp only [Outcome.ofLiteral_eq_error, Literal.ofText_language_eq_error, Literal.IsBadLanguage]
    constructor
    · rintro ⟨_, ⟨tag, isGiven, isSome, notTag, rfl⟩, rfl⟩
      exact ⟨rfl, tag, isGiven, isSome, notTag⟩
    · rintro ⟨rfl, tag, isGiven, isSome, notTag⟩
      exact ⟨_, ⟨tag, isGiven, isSome, notTag, rfl⟩, rfl⟩
  unfold toLiteral
  split
  · exact checked _
  · rw [Outcome.bind_eq_error, checked]
    refine or_iff_left ?_
    rintro ⟨literal, _, failed⟩
    split at failed <;> cases failed

theorem toLiteral_datatype_eq_error {datatype : String} :
    value.toLiteral none (some datatype) = .error failure ↔
      failure = .fault .badValue ∧ ∃ text, value = .text text ∧
        (LexicalSpace.ofDatatype (some datatype)).hasNoForm text.toList = true := by
  unfold toLiteral
  split
  · rename_i text
    rw [Literal.ofText_typed]
    constructor
    · intro failed
      split at failed <;> cases failed
      exact ⟨rfl, text, rfl, ‹_›⟩
    · rintro ⟨rfl, _, ⟨⟩, noForm⟩
      rw [if_pos noForm]
      rfl
  · rename_i notText
    constructor
    · intro failed
      rcases Outcome.bind_eq_error.mp failed with ⟨⟨⟩⟩ | ⟨literal, _, failed⟩
      split at failed <;> cases failed
    · rintro ⟨_, text, rfl, _⟩
      exact absurd rfl (notText text)

end Value

end Sparql
