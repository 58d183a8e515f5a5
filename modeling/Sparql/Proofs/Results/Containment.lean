import Sparql.Proofs.Results.JsonTable
import Sparql.Results.Decode

/-!
# What decoders fail with

An answer that is no result is rejected with a message. A decoder fails with something else exactly when a
document holds a literal that cannot be built, or a binding in XML that holds something else before an element,
or when a document in JSON is too deep or has a number of too many digits.
-/

namespace Sparql.Results

variable {α β : Type} {failure : Failure} {fault : Fault}

/-! ## Rejections -/

/-- The failure of an answer that is no result. -/
def IsRejection (failure : Failure) : Prop := ∃ cause : ResultError, failure = .unusable cause.message

/-- A call that fails with a rejection only. -/
def Rejects (outcome : Outcome α) : Prop :=
  ∀ failure, outcome = .error failure → IsRejection failure

/-- A call that fails with a rejection or a fault only. -/
def IsContained (outcome : Outcome α) : Prop :=
  ∀ failure, outcome = .error failure → IsRejection failure ∨ ∃ fault, failure = .fault fault

theorem reject_eq_error {cause : ResultError} :
    (reject cause : Outcome α) = .error failure ↔ failure = .unusable cause.message := by
  simp [reject, eq_comm]

theorem reject_ne_fault {cause : ResultError} : (reject cause : Outcome α) ≠ .error (.fault fault) := by
  rintro ⟨⟩

theorem rejects_ok {value : α} : Rejects (.ok value) := by
  rintro _ ⟨⟩

theorem rejects_reject {cause : ResultError} : Rejects (reject cause : Outcome α) :=
  fun _ failed => ⟨cause, reject_eq_error.mp failed⟩

theorem Rejects.bind {first : Outcome α} {rest : α → Outcome β} (rejects : Rejects first)
    (restRejects : ∀ value, Rejects (rest value)) : Rejects (first >>= rest) := by
  intro failure failed
  rcases Outcome.bind_eq_error.mp failed with first | ⟨value, _, later⟩
  · exact rejects failure first
  · exact restRejects value failure later

theorem Rejects.isContained {outcome : Outcome α} (rejects : Rejects outcome) : IsContained outcome :=
  fun failure failed => .inl (rejects failure failed)

theorem Rejects.ne_fault {outcome : Outcome α} (rejects : Rejects outcome) :
    outcome ≠ .error (.fault fault) := by
  intro failed
  rcases rejects _ failed with ⟨_, ⟨⟩⟩

theorem isContained_ok {value : α} : IsContained (.ok value) := by
  rintro _ ⟨⟩

theorem isContained_reject {cause : ResultError} : IsContained (reject cause : Outcome α) :=
  fun _ failed => .inl ⟨cause, reject_eq_error.mp failed⟩

theorem isContained_misuse : IsContained (misuse fault : Outcome α) :=
  fun _ failed => .inr ⟨fault, Outcome.misuse_eq_error.mp failed⟩

theorem IsContained.bind {first : Outcome α} {rest : α → Outcome β} (contained : IsContained first)
    (restContained : ∀ value, IsContained (rest value)) : IsContained (first >>= rest) := by
  intro failure failed
  rcases Outcome.bind_eq_error.mp failed with first | ⟨value, _, later⟩
  · exact contained failure first
  · exact restContained value failure later

theorem IsContained.map {first : Outcome α} {f : α → β} (contained : IsContained first) :
    IsContained (first.map f) :=
  fun failure failed => contained failure (Outcome.map_eq_error.mp failed)

theorem isContained_mapM {read : α → Outcome β} {items : List α}
    (contained : ∀ item, IsContained (read item)) : IsContained (items.mapM read) := by
  intro failure failed
  rcases Outcome.mapM_eq_error.mp failed with ⟨_, item, _, _, _, fails⟩
  exact contained item failure fails

theorem isContained_toLiteral {value : Value} {language datatype : Option String}
    (oneAtMost : language = none ∨ datatype = none) : IsContained (value.toLiteral language datatype) := by
  intro failure failed
  rcases oneAtMost with rfl | rfl
  · cases datatype with
    | none => exact .inr ⟨_, (Value.toLiteral_language_eq_error.mp failed).1⟩
    | some datatype => exact .inr ⟨_, (Value.toLiteral_datatype_eq_error.mp failed).1⟩
  · exact .inr ⟨_, (Value.toLiteral_language_eq_error.mp failed).1⟩

/-! ## Documents in JSON -/

namespace Json

/-- A description of a literal that cannot be built. -/
inductive IsUnbuildable (members : List (Value × Value)) : Prop
  /-- Its language is no tag. -/
  | language {tag : String} (given : Value.field? "xml:lang" members = some (.text tag))
      (isSome : tag ≠ "") (notTag : Literal.isLanguageTag tag = false)
  /-- It has a datatype of spans of time, and its text writes one that has no normal form. -/
  | span {text datatype : String} {named : Value} (noLanguage : Value.field? "xml:lang" members = none)
      (given : Value.field? "datatype" members = some named) (isName : looseText? named = some datatype)
      (isText : (Value.field? "value" members).getD (.text "") = .text text)
      (noForm : (LexicalSpace.ofDatatype (some datatype)).hasNoForm text.toList = true)

variable {members : List (Value × Value)} {value : Value}

theorem isContained_languageOf : IsContained (languageOf value) := by
  unfold languageOf
  split
  · exact isContained_ok
  · exact isContained_ok
  · exact isContained_reject

theorem isContained_literalTerm : IsContained (literalTerm members value) := by
  unfold literalTerm
  split
  · refine isContained_languageOf.bind fun language => ?_
    exact (isContained_toLiteral (.inr rfl)).bind fun _ => isContained_ok
  · split
    · exact (isContained_toLiteral (.inl rfl)).bind fun _ => isContained_ok
    · exact isContained_reject
  · exact (isContained_toLiteral (.inl rfl)).bind fun _ => isContained_ok

theorem isContained_term : IsContained (term members) := by
  unfold term
  simp only
  split
  · split
    · exact isContained_ok
    · exact isContained_reject
  · exact isContained_ok
  · exact isContained_literalTerm
  · exact isContained_literalTerm
  · exact isContained_reject

/-- A language fails with a fault exactly if it is given and no tag. -/
theorem taggedTerm_eq_fault {language : Value} :
    (do
      let language ← languageOf language
      return Term.literal (← value.toLiteral language none) : Outcome Term) = .error (.fault fault) ↔
      fault = .badValue ∧ ∃ tag, language = .text tag ∧ tag ≠ "" ∧ Literal.isLanguageTag tag = false := by
  simp only [Outcome.bind_eq_error, Outcome.pure_ne_error, and_false, exists_false, or_false,
    Value.toLiteral_language_eq_error, Failure.fault.injEq, Literal.IsBadLanguage]
  constructor
  · rintro (failed | ⟨given, isGiven, isBad, tag, rfl, isSome, notTag⟩)
    · unfold languageOf at failed
      split at failed <;> cases failed
    · unfold languageOf at isGiven
      split at isGiven <;> cases isGiven
      exact ⟨isBad, tag, rfl, isSome, notTag⟩
  · rintro ⟨isBad, tag, rfl, isSome, notTag⟩
    exact .inr ⟨some tag, rfl, isBad, tag, rfl, isSome, notTag⟩

theorem literalTerm_eq_fault :
    literalTerm members ((Value.field? "value" members).getD (.text "")) = .error (.fault fault) ↔
      fault = .badValue ∧ IsUnbuildable members := by
  unfold literalTerm
  split
  · rename_i language _ given
    rw [taggedTerm_eq_fault]
    refine and_congr_right fun _ => ⟨?_, ?_⟩
    · rintro ⟨tag, rfl, isSome, notTag⟩
      exact .language given isSome notTag
    · rintro (⟨same, isSome, notTag⟩ | ⟨noLanguage, _, _, _, _⟩)
      · cases given.symm.trans same
        exact ⟨_, rfl, isSome, notTag⟩
      · cases given.symm.trans noLanguage
  · rename_i named noLanguage given
    split
    · rename_i datatype isName
      simp only [Outcome.bind_eq_error, Outcome.pure_ne_error, and_false, exists_false, or_false,
        Value.toLiteral_datatype_eq_error, Failure.fault.injEq]
      refine and_congr_right fun _ => ⟨?_, ?_⟩
      · rintro ⟨text, isText, noForm⟩
        exact .span noLanguage given isName isText noForm
      · rintro (⟨isGiven, _, _⟩ | ⟨_, isGiven, isSame, isText, noForm⟩)
        · cases noLanguage.symm.trans isGiven
        · cases given.symm.trans isGiven
          cases isName.symm.trans isSame
          exact ⟨_, isText, noForm⟩
    · rename_i noName
      refine iff_of_false reject_ne_fault ?_
      rintro ⟨_, ⟨isGiven, _, _⟩ | ⟨_, isGiven, isSame, _, _⟩⟩
      · cases noLanguage.symm.trans isGiven
      · cases given.symm.trans isGiven
        cases noName.symm.trans isSame
  · rename_i noLanguage noDatatype
    simp only [Outcome.bind_eq_error, Outcome.pure_ne_error, and_false, exists_false, or_false,
      Value.toLiteral_language_eq_error, Failure.fault.injEq]
    refine and_congr_right fun _ => iff_of_false ?_ ?_
    · rintro ⟨_, ⟨⟩, _⟩
    · rintro (⟨isGiven, _, _⟩ | ⟨_, isGiven, _, _, _⟩)
      · cases noLanguage.symm.trans isGiven
      · cases noDatatype.symm.trans isGiven

/-- A description of a literal, under either of its names. -/
def IsLiteral (members : List (Value × Value)) : Prop :=
  Value.field? "type" members = some (.text "literal") ∨ Value.field? "type" members = some (.text "typed-literal")

theorem term_eq_fault :
    term members = .error (.fault fault) ↔
      fault = .badValue ∧ IsLiteral members ∧ IsUnbuildable members := by
  have notOther : ∀ kind, (Value.field? "type" members).getD .null = kind → kind ≠ .text "literal" →
      kind ≠ .text "typed-literal" → ¬ IsLiteral members := by
    rintro _ rfl notLiteral notTyped (isLiteral | isTyped)
    · exact notLiteral (by rw [isLiteral]; rfl)
    · exact notTyped (by rw [isTyped]; rfl)
  have isKind : ∀ kind, (Value.field? "type" members).getD .null = .text kind →
      Value.field? "type" members = some (.text kind) := by
    intro kind isKind
    cases given : Value.field? "type" members <;> rw [given] at isKind <;> cases isKind
    rfl
  unfold term
  simp only
  split
  · rename_i isOther
    have notLiteral := notOther _ isOther (by simp) (by simp)
    split
    · exact iff_of_false (by rintro ⟨⟩) fun unbuildable => notLiteral unbuildable.2.1
    · exact iff_of_false reject_ne_fault fun unbuildable => notLiteral unbuildable.2.1
  · rename_i isOther
    have notLiteral := notOther _ isOther (by simp) (by simp)
    exact iff_of_false (by rintro ⟨⟩) fun unbuildable => notLiteral unbuildable.2.1
  · rename_i given
    rw [literalTerm_eq_fault]
    exact and_congr_right fun _ => (and_iff_right (.inl (isKind _ given))).symm
  · rename_i given
    rw [literalTerm_eq_fault]
    exact and_congr_right fun _ => (and_iff_right (.inr (isKind _ given))).symm
  · rename_i notLiteral notTyped
    have isOther := notOther _ rfl notLiteral notTyped
    exact iff_of_false reject_ne_fault fun unbuildable => isOther unbuildable.2.1

/-- A row whose first entry that is not read describes a literal that cannot be built. -/
def HasUnbuildable (row : Value) : Prop :=
  ∃ before name members after, row = .map (before ++ (name, .map members) :: after) ∧
    (∀ earlier ∈ before, ∃ described read, earlier.2 = .map described ∧ term described = .ok read) ∧
    IsLiteral members ∧ IsUnbuildable members

theorem isContained_solution {row : Value} : IsContained (solution row) := by
  unfold solution
  split
  · refine (isContained_mapM fun ⟨name, description⟩ => ?_).bind fun _ => isContained_ok
    simp only
    split
    · exact isContained_term.map
    · exact isContained_reject
  · exact isContained_reject

theorem solution_eq_fault {row : Value} :
    solution row = .error (.fault fault) ↔ fault = .badValue ∧ HasUnbuildable row := by
  unfold solution HasUnbuildable
  split
  · rename_i entries
    simp only [Outcome.bind_eq_error, Outcome.pure_ne_error, and_false, exists_false, or_false,
      Outcome.mapM_eq_error, Value.map.injEq]
    constructor
    · rintro ⟨before, ⟨name, description⟩, after, rfl, areRead, failed⟩
      cases description <;> try cases failed
      rename_i members
      rcases term_eq_fault.mp (Outcome.map_eq_error.mp failed) with ⟨isBad, isLiteral, unbuildable⟩
      refine ⟨isBad, before, name, members, after, rfl, ?_, isLiteral, unbuildable⟩
      rintro ⟨other, description⟩ mem
      rcases areRead _ mem with ⟨read, isRead⟩
      cases description <;> try cases isRead
      rcases Outcome.map_eq_ok.mp isRead with ⟨described, isTerm, _⟩
      exact ⟨_, described, rfl, isTerm⟩
    · rintro ⟨isBad, before, name, members, after, rfl, areRead, isLiteral, unbuildable⟩
      refine ⟨before, (name, .map members), after, rfl, ?_,
        Outcome.map_eq_error.mpr (term_eq_fault.mpr ⟨isBad, isLiteral, unbuildable⟩)⟩
      rintro ⟨other, description⟩ mem
      rcases areRead _ mem with ⟨described, read, rfl, isTerm⟩
      exact ⟨(other, read), Outcome.map_eq_ok.mpr ⟨read, isTerm, rfl⟩⟩
  · rename_i notMap
    refine iff_of_false reject_ne_fault ?_
    rintro ⟨_, _, _, _, _, rfl, _⟩
    exact notMap _ rfl

/-- A document of a table whose first row that is not read has a literal that cannot be built. -/
def IsUnbuildableTable (document : Value) : Prop :=
  ∃ members, document = .map members ∧ Value.field? "boolean" members = none ∧
    (∃ names, declaredVariables members = .ok names) ∧
    ∃ before row after, rows members = .ok (before ++ row :: after) ∧
      (∀ earlier ∈ before, ∃ read, solution earlier = .ok read) ∧ HasUnbuildable row

theorem rejects_declaredVariables : Rejects (declaredVariables members) := by
  unfold declaredVariables
  split
  · split
    · exact rejects_ok
    · exact rejects_reject
  · exact rejects_reject

theorem rejects_rows : Rejects (rows members) := by
  unfold rows
  split
  · split
    · exact rejects_ok
    · exact rejects_reject
  · exact rejects_reject

theorem isContained_ofDocument {document : Value} : IsContained (ofDocument document) := by
  unfold ofDocument
  split
  · split
    · exact isContained_ok
    · exact isContained_reject
    · refine rejects_declaredVariables.isContained.bind fun _ => rejects_rows.isContained.bind fun _ => ?_
      exact (isContained_mapM fun _ => isContained_solution).bind fun _ => isContained_ok
  · exact isContained_reject

theorem ofDocument_eq_fault {document : Value} :
    ofDocument document = .error (.fault fault) ↔ fault = .badValue ∧ IsUnbuildableTable document := by
  unfold ofDocument IsUnbuildableTable
  split
  · rename_i members
    split
    · rename_i isBoolean
      refine iff_of_false (by rintro ⟨⟩) ?_
      rintro ⟨_, _, ⟨⟩, noBoolean, _⟩
      cases isBoolean.symm.trans noBoolean
    · rename_i isGiven
      refine iff_of_false reject_ne_fault ?_
      rintro ⟨_, _, ⟨⟩, noBoolean, _⟩
      cases isGiven.symm.trans noBoolean
    · rename_i noBoolean
      simp only [Outcome.bind_eq_error, Outcome.pure_ne_error, and_false, exists_false, or_false,
        Outcome.mapM_eq_error, rejects_declaredVariables.ne_fault, rejects_rows.ne_fault, false_or, Outcome.FirstFails,
        solution_eq_fault]
      constructor
      · rintro ⟨names, areNames, _, areRows, before, row, after, rfl, areRead, isBad, unbuildable⟩
        exact ⟨isBad, members, rfl, noBoolean, ⟨names, areNames⟩, before, row, after, areRows, areRead,
          unbuildable⟩
      · rintro ⟨isBad, _, ⟨⟩, _, ⟨names, areNames⟩, before, row, after, areRows, areRead, unbuildable⟩
        exact ⟨names, areNames, _, areRows, before, row, after, rfl, areRead, isBad, unbuildable⟩
  · rename_i notMap
    refine iff_of_false reject_ne_fault ?_
    rintro ⟨_, _, rfl, _⟩
    exact notMap _ rfl

end Json

/-! ## Documents in XML -/

namespace Xml

open Sparql.Xml

variable {node : Node}

/-- A description of a literal that cannot be built. -/
inductive IsUnbuildable (node : Node) : Prop
  /-- Its language is no tag. -/
  | language {tag : String} (given : node.attribute? languageName = some tag) (isSome : tag ≠ "")
      (notTag : Literal.isLanguageTag tag = false)
  /-- It has a datatype of spans of time, and its text writes one that has no normal form. -/
  | span {datatype : String} (noLanguage : (node.attribute? languageName).filter (· ≠ "") = none)
      (given : node.attribute? ⟨none, "datatype"⟩ = some datatype) (isSome : datatype ≠ "")
      (noForm : (LexicalSpace.ofDatatype (some datatype)).hasNoForm
        (String.ofList node.leadingText).toList = true)

theorem isContained_ofLiteral {built : Except LiteralError Literal} :
    IsContained (Outcome.ofLiteral built) := by
  intro failure failed
  rcases Outcome.ofLiteral_eq_error.mp failed with ⟨cause, _, isFault⟩
  exact .inr ⟨cause.fault, isFault⟩

theorem ofLiteral_tagged_eq_fault {text : String} {language : Option String} :
    Outcome.ofLiteral (Literal.ofText text language none) = .error (.fault fault) ↔
      fault = .badValue ∧ Literal.IsBadLanguage language :=
  (@Value.toLiteral_language_eq_error (.text text) _ language).trans (and_congr_left' (by simp))

theorem ofLiteral_typed_eq_fault {text datatype : String} :
    Outcome.ofLiteral (Literal.ofText text none (some datatype)) = .error (.fault fault) ↔
      fault = .badValue ∧ (LexicalSpace.ofDatatype (some datatype)).hasNoForm text.toList = true := by
  refine (@Value.toLiteral_datatype_eq_error (.text text) _ datatype).trans ?_
  simp

theorem literalOf_eq_fault :
    literalOf node (String.ofList node.leadingText) = .error (.fault fault) ↔
      fault = .badValue ∧ IsUnbuildable node := by
  unfold literalOf
  split
  · rename_i language _ isGiven
    rw [ofLiteral_tagged_eq_fault]
    rcases Option.filter_eq_some_iff.mp isGiven with ⟨given, isSome⟩
    refine and_congr_right fun _ => ⟨?_, ?_⟩
    · rintro ⟨_, ⟨⟩, _, notTag⟩
      exact .language given (by simpa using isSome) notTag
    · rintro (⟨same, isSome, notTag⟩ | ⟨noLanguage, _, _⟩)
      · cases given.symm.trans same
        exact ⟨_, rfl, isSome, notTag⟩
      · cases isGiven.symm.trans noLanguage
  · rename_i noLanguage
    have notTagged : ∀ tag, node.attribute? languageName = some tag → tag = "" := by
      intro tag given
      simpa [given] using noLanguage
    rcases isGiven : (node.attribute? ⟨none, "datatype"⟩).filter (· ≠ "") with _ | datatype
    · refine iff_of_false (by rintro ⟨⟩) ?_
      rintro ⟨_, ⟨given, isSome, _⟩ | ⟨_, given, isSome, _⟩⟩
      · exact isSome (notTagged _ given)
      · simp [given, isSome] at isGiven
    · rcases Option.filter_eq_some_iff.mp isGiven with ⟨given, isSome⟩
      rw [ofLiteral_typed_eq_fault]
      refine and_congr_right fun _ => ⟨?_, ?_⟩
      · exact .span noLanguage given (by simpa using isSome)
      · rintro (⟨tagged, isTagged, _⟩ | ⟨_, same, _, noForm⟩)
        · exact absurd (notTagged _ tagged) isTagged
        · cases given.symm.trans same
          exact noForm

/-- A node that describes no term because it is no element, or that describes a literal that cannot be
built. -/
def IsUnusable (node : Node) : Prop :=
  (∀ tag children, node ≠ .element tag children) ∨
    ∃ tag children, node = .element tag children ∧ tag.name.own = "literal" ∧ IsUnbuildable node

theorem isContained_term : IsContained (term node) := by
  unfold term
  split
  · simp only
    split
    · exact isContained_ok
    · exact isContained_ok
    · unfold literalOf
      split <;> exact isContained_ofLiteral.map
    · exact isContained_reject
  · exact isContained_misuse

theorem isUnusable_element {tag : Tag} {children : List Node} :
    IsUnusable (.element tag children) ↔ tag.name.own = "literal" ∧ IsUnbuildable (.element tag children) := by
  constructor
  · rintro (notElement | ⟨_, _, ⟨⟩, unbuildable⟩)
    · exact absurd rfl (notElement tag children)
    · exact unbuildable
  · intro unbuildable
    exact .inr ⟨tag, children, rfl, unbuildable⟩

theorem isUnusable_of_not_element (notElement : ∀ tag children, node ≠ .element tag children) :
    IsUnusable node := .inl notElement

theorem term_eq_fault :
    term node = .error (.fault fault) ↔ fault = .badValue ∧ IsUnusable node := by
  cases node with
  | element tag children =>
      rw [isUnusable_element]
      unfold term
      simp only
      split
      · rename_i isUri
        exact iff_of_false (by rintro ⟨⟩) fun unusable => by simp [isUri] at unusable
      · rename_i isBlank
        exact iff_of_false (by rintro ⟨⟩) fun unusable => by simp [isBlank] at unusable
      · rename_i isLiteral
        rw [Outcome.map_eq_error, literalOf_eq_fault]
        exact and_congr_right fun _ => (and_iff_right isLiteral).symm
      · rename_i notLiteral
        exact iff_of_false reject_ne_fault fun unusable => notLiteral unusable.2.1
  | text _ | verbatim _ | entity _ | comment _ | instruction _ _ =>
      simp only [term, Outcome.misuse_eq_error, Failure.fault.injEq]
      exact (and_iff_left (isUnusable_of_not_element (by simp))).symm

/-- A binding whose first child that is no text is not usable. -/
def HoldsUnusable (node : Node) : Prop :=
  ∃ description, node.children.find? (!·.isText) = some description ∧ IsUnusable description

theorem isContained_binding : IsContained (binding node) := by
  unfold binding
  simp only
  split
  · exact isContained_reject
  · exact isContained_term.map

theorem binding_eq_fault : binding node = .error (.fault fault) ↔ fault = .badValue ∧ HoldsUnusable node := by
  unfold binding HoldsUnusable
  simp only
  split
  · rename_i none
    refine iff_of_false reject_ne_fault ?_
    rintro ⟨_, description, found, _⟩
    cases none.symm.trans found
  · rename_i description found
    rw [Outcome.map_eq_error, term_eq_fault]
    refine and_congr_right fun _ => ⟨fun unusable => ⟨description, found, unusable⟩, ?_⟩
    rintro ⟨_, same, unusable⟩
    cases found.symm.trans same
    exact unusable

/-- A row whose first binding that is not read is not usable. -/
def HasUnusable (row : Node) : Prop :=
  ∃ before node after, row.childrenNamed (name "binding") = before ++ node :: after ∧
    (∀ earlier ∈ before, ∃ read, binding earlier = .ok read) ∧ HoldsUnusable node

theorem isContained_solution {row : Node} : IsContained (solution row) :=
  (isContained_mapM fun _ => isContained_binding).bind fun _ => isContained_ok

theorem solution_eq_fault {row : Node} :
    solution row = .error (.fault fault) ↔ fault = .badValue ∧ HasUnusable row := by
  unfold solution HasUnusable
  simp only [Outcome.bind_eq_error, Outcome.pure_ne_error, and_false, exists_false, or_false,
    Outcome.mapM_eq_error, Outcome.FirstFails, binding_eq_fault]
  constructor
  · rintro ⟨before, node, after, isList, areRead, isBad, unusable⟩
    exact ⟨isBad, before, node, after, isList, areRead, unusable⟩
  · rintro ⟨isBad, before, node, after, isList, areRead, unusable⟩
    exact ⟨before, node, after, isList, areRead, isBad, unusable⟩

/-- A root of a table whose first row that is not read has a binding that is not usable. -/
def IsUnusableTable (root : Node) : Prop :=
  root.child? (name "boolean") = none ∧ ∃ results before row after,
    root.child? (name "results") = some results ∧
    results.childrenNamed (name "result") = before ++ row :: after ∧
    (∀ earlier ∈ before, ∃ read, solution earlier = .ok read) ∧ HasUnusable row

theorem isContained_ofRoot {root : Node} : IsContained (ofRoot root) := by
  unfold ofRoot
  split
  · unfold booleanOf
    split
    · exact isContained_ok
    · exact isContained_ok
    · exact isContained_reject
  · exact isContained_reject
  · exact (isContained_mapM fun _ => isContained_solution).bind fun _ => isContained_ok

theorem ofRoot_eq_fault {root : Node} :
    ofRoot root = .error (.fault fault) ↔ fault = .badValue ∧ IsUnusableTable root := by
  unfold ofRoot IsUnusableTable
  split
  · rename_i isBoolean
    refine iff_of_false ?_ ?_
    · unfold booleanOf
      split <;> rintro ⟨⟩
    · rintro ⟨_, noBoolean, _⟩
      cases isBoolean.symm.trans noBoolean
  · rename_i noResults
    refine iff_of_false reject_ne_fault ?_
    rintro ⟨_, _, _, _, _, _, isResults, _⟩
    cases noResults.symm.trans isResults
  · rename_i results noBoolean isResults
    simp only [Outcome.bind_eq_error, Outcome.pure_ne_error, and_false, exists_false, or_false,
      Outcome.mapM_eq_error, Outcome.FirstFails, solution_eq_fault]
    constructor
    · rintro ⟨before, row, after, isList, areRead, isBad, unusable⟩
      exact ⟨isBad, noBoolean, results, before, row, after, isResults, isList, areRead, unusable⟩
    · rintro ⟨isBad, _, _, before, row, after, same, isList, areRead, unusable⟩
      cases isResults.symm.trans same
      exact ⟨before, row, after, isList, areRead, isBad, unusable⟩

end Xml

/-! ## Other formats -/

theorem rejects_solutions {names : List String} {number : Nat} {rows : List (List (List Char))} :
    Rejects (Tabular.solutions names number rows) := by
  induction rows generalizing number with
  | nil => exact rejects_ok
  | cons cells rest ih =>
      unfold Tabular.solutions
      split
      · exact ih.bind fun _ => rejects_ok
      · exact rejects_reject

theorem rejects_tabular {dialect : Tabular.Dialect} {body : List UInt8} :
    Rejects (Tabular.decode dialect body) := by
  unfold Tabular.decode
  split
  · exact rejects_reject
  · split
    · exact rejects_reject
    · unfold Tabular.ofRows
      split
      · exact rejects_ok
      · exact rejects_solutions.bind fun _ => rejects_ok

theorem rejects_boolean {body : List UInt8} : Rejects (Boolean.decode body) := by
  unfold Boolean.decode
  simp only
  split
  · exact rejects_ok
  · exact rejects_reject

theorem rejects_graph {format : GraphFormat} {body : List UInt8} : Rejects (Graph.decode format body) := by
  unfold Graph.decode
  split
  · exact rejects_ok
  · exact rejects_reject

/-! ## Answers -/

/-- The bodies on which the decoder of a format fails with a fault. -/
inductive Escapes (body : List UInt8) : ResultFormat → Fault → Prop
  /-- A document in JSON with an integer of more digits than are read. -/
  | oversized {text : List Char} (isText : Text.Utf8.decode? body = some text)
      (parsed : Sparql.Json.parse text = .error .oversizedNumber) : Escapes body .json .badValue
  /-- A document in JSON whose lists and mappings stand too deep inside each other. -/
  | tooDeep {text : List Char} (isText : Text.Utf8.decode? body = some text)
      (parsed : Sparql.Json.parse text = .error .tooDeep) : Escapes body .json (.render .endlessNesting)
  /-- A table in JSON with a literal that cannot be built. -/
  | json {text : List Char} {document : Value} (isText : Text.Utf8.decode? body = some text)
      (parsed : Sparql.Json.parse text = .ok document) (unbuildable : Json.IsUnbuildableTable document) :
      Escapes body .json .badValue
  /-- A table in XML with a literal that cannot be built, or with something else before the element of a
  binding. -/
  | xml {root : Sparql.Xml.Node} (isRoot : Sparql.Xml.rootOfBytes? .referring body = some root)
      (unusable : Xml.IsUnusableTable root) : Escapes body .xml .badValue

theorem isContained_json {body : List UInt8} : IsContained (Json.decode body) := by
  unfold Json.decode
  split
  · exact isContained_reject
  · split
    · exact Json.isContained_ofDocument
    · exact isContained_reject
    · exact isContained_misuse
    · exact isContained_misuse

theorem isContained_xml {body : List UInt8} : IsContained (Xml.decode body) := by
  unfold Xml.decode
  split
  · exact isContained_reject
  · exact Xml.isContained_ofRoot

theorem json_eq_fault {body : List UInt8} :
    Json.decode body = .error (.fault fault) ↔ Escapes body .json fault := by
  unfold Json.decode
  split
  · rename_i noText
    refine iff_of_false reject_ne_fault ?_
    rintro (⟨isText, _⟩ | ⟨isText, _⟩ | ⟨isText, _, _⟩) <;> cases noText.symm.trans isText
  · rename_i text isText
    split
    · rename_i document parsed
      rw [Json.ofDocument_eq_fault]
      constructor
      · rintro ⟨rfl, unbuildable⟩
        exact .json isText parsed unbuildable
      · rintro (⟨same, failed⟩ | ⟨same, failed⟩ | ⟨same, parsedSame, unbuildable⟩) <;>
          cases isText.symm.trans same
        · cases parsed.symm.trans failed
        · cases parsed.symm.trans failed
        · cases parsed.symm.trans parsedSame
          exact ⟨rfl, unbuildable⟩
    · rename_i failed
      refine iff_of_false reject_ne_fault ?_
      rintro (⟨same, other⟩ | ⟨same, other⟩ | ⟨same, other, _⟩) <;> cases isText.symm.trans same <;>
        cases failed.symm.trans other
    · rename_i failed
      simp only [Outcome.misuse_eq_error, Failure.fault.injEq]
      constructor
      · rintro rfl
        exact .oversized isText failed
      · rintro (⟨same, other⟩ | ⟨same, other⟩ | ⟨same, other, _⟩) <;> cases isText.symm.trans same <;>
          cases failed.symm.trans other
        rfl
    · rename_i failed
      simp only [Outcome.misuse_eq_error, Failure.fault.injEq]
      constructor
      · rintro rfl
        exact .tooDeep isText failed
      · rintro (⟨same, other⟩ | ⟨same, other⟩ | ⟨same, other, _⟩) <;> cases isText.symm.trans same <;>
          cases failed.symm.trans other
        rfl

theorem xml_eq_fault {body : List UInt8} :
    Xml.decode body = .error (.fault fault) ↔ Escapes body .xml fault := by
  unfold Xml.decode
  split
  · rename_i noRoot
    refine iff_of_false reject_ne_fault fun escapes => ?_
    cases escapes with
    | xml isRoot _ => cases noRoot.symm.trans isRoot
  · rename_i root isRoot
    rw [Xml.ofRoot_eq_fault]
    constructor
    · rintro ⟨rfl, unusable⟩
      exact .xml isRoot unusable
    · intro escapes
      cases escapes with
      | xml same unusable =>
          cases isRoot.symm.trans same
          exact ⟨rfl, unusable⟩

theorem isContained_format {format : ResultFormat} {body : List UInt8} :
    IsContained (format.decode body) := by
  cases format with
  | json => exact isContained_json
  | xml => exact isContained_xml
  | tabular _ => exact rejects_tabular.isContained
  | boolean => exact rejects_boolean.isContained
  | graph _ => exact rejects_graph.isContained

theorem format_eq_fault {format : ResultFormat} {body : List UInt8} :
    format.decode body = .error (.fault fault) ↔ Escapes body format fault := by
  cases format with
  | json => exact json_eq_fault
  | xml => exact xml_eq_fault
  | tabular _ => exact iff_of_false rejects_tabular.ne_fault (by rintro ⟨⟩)
  | boolean => exact iff_of_false rejects_boolean.ne_fault (by rintro ⟨⟩)
  | graph _ => exact iff_of_false rejects_graph.ne_fault (by rintro ⟨⟩)

theorem decode_of_format {body : List UInt8} {contentType : Option String} {format : ResultFormat}
    (isFormat : ResultFormat.ofMediaType? (mediaType contentType) = some format) :
    decode body contentType = format.decode body := by
  unfold decode
  split
  · rename_i isEmpty
    rw [isEmpty] at isFormat
    cases isFormat
  · rw [isFormat]

theorem isContained_decode {body : List UInt8} {contentType : Option String} :
    IsContained (decode body contentType) := by
  unfold decode
  split
  · exact isContained_reject
  · split
    · exact isContained_format
    · exact isContained_reject

/-- A body of any bytes under any content type comes to a result, to a rejection or to a fault; and a fault comes
of the listed bodies in JSON and XML and of no others. -/
theorem decode_contained (body : List UInt8) (contentType : Option String) :
    ((∃ result, decode body contentType = .ok result) ∨
      (∃ cause, decode body contentType = reject cause) ∨
      ∃ fault, decode body contentType = misuse fault) ∧
    ∀ fault, decode body contentType = misuse fault ↔
      ∃ format, ResultFormat.ofMediaType? (mediaType contentType) = some format ∧ Escapes body format fault := by
  have split_contained : ∀ {outcome : Outcome QueryResult}, IsContained outcome →
      (∃ result, outcome = .ok result) ∨ (∃ cause, outcome = reject cause) ∨
        ∃ fault, outcome = misuse fault := by
    intro outcome contained
    cases outcome with
    | ok result => exact .inl ⟨result, rfl⟩
    | error failure =>
        rcases contained failure rfl with ⟨cause, rfl⟩ | ⟨fault, rfl⟩
        · exact .inr (.inl ⟨cause, rfl⟩)
        · exact .inr (.inr ⟨fault, rfl⟩)
  unfold decode
  split
  · rename_i isEmpty
    refine ⟨split_contained isContained_reject, fun fault => iff_of_false reject_ne_fault ?_⟩
    rintro ⟨format, isFormat, _⟩
    rw [isEmpty] at isFormat
    cases isFormat
  · split
    · rename_i format isFormat
      refine ⟨split_contained isContained_format, fun fault => format_eq_fault.trans ?_⟩
      constructor
      · exact fun escapes => ⟨format, isFormat, escapes⟩
      · rintro ⟨_, same, escapes⟩
        cases isFormat.symm.trans same
        exact escapes
    · rename_i noFormat
      refine ⟨split_contained isContained_reject, fun fault => iff_of_false reject_ne_fault ?_⟩
      rintro ⟨format, isFormat, _⟩
      cases noFormat.symm.trans isFormat

/-- A row whose literal has the language `en_US`, which is no tag. -/
def badlyTaggedRow : List (String × Term) := [("x", .literal ⟨"colour", some "en_US", none⟩)]

theorem decode_of_badlyTaggedRow :
    let body := Text.Utf8.encodeChars (Sparql.Json.write (Json.tableValue ["x"] [badlyTaggedRow]))
    let outcome := decode body (some "application/sparql-results+json")
    outcome = misuse .badValue ∧ ¬ ((∃ result, outcome = .ok result) ∨ ∃ cause, outcome = reject cause) := by
  intro body outcome
  have isJson : ResultFormat.ofMediaType? (mediaType (some "application/sparql-results+json")) = some .json := by
    decide +kernel
  have parsed : Sparql.Json.parse (Sparql.Json.write (Json.tableValue ["x"] [badlyTaggedRow])) =
      .ok (Json.tableValue ["x"] [badlyTaggedRow]) :=
    Json.parse_tableValue (List.forall_mem_singleton.mpr ⟨by decide, by decide⟩)
  have unbuildable : Json.IsUnbuildableTable (Json.tableValue ["x"] [badlyTaggedRow]) := by
    refine ⟨_, rfl, rfl, ⟨_, rfl⟩, [], _, [], rfl, by simp, [], _, _, [], rfl, by simp, ?_, ?_⟩
    · exact .inl rfl
    · exact .language rfl (by decide) (by decide +kernel)
  have escapes : outcome = misuse .badValue :=
    (decode_of_format isJson).trans
      (format_eq_fault.mpr (.json (Text.Utf8.decode?_encodeChars _) parsed unbuildable))
  refine ⟨escapes, ?_⟩
  rw [escapes]
  rintro (⟨_, ⟨⟩⟩ | ⟨_, ⟨⟩⟩)

end Sparql.Results
