import Sparql.Proofs.Query.Spelling
import Sparql.Proofs.Term.Quoting

/-!
# Where a term ends

The first character of a term says of which kind it is, and with it what ends the term: a bracket, a space, or the
quotes of a string and the sign behind them. So terms with a space behind them can be cut off a text in one way only,
although a string holds spaces, quotes and brackets of its own.
-/

namespace Sparql

section Marks

variable {mark : Char} {text other rest otherRest : List Char}

/-- Two texts are the same if neither holds the mark behind it. -/
theorem append_mark_injective (unmarked : mark ∉ text) (otherUnmarked : mark ∉ other)
    (same : text ++ mark :: rest = other ++ mark :: otherRest) : text = other ∧ rest = otherRest := by
  induction text generalizing other with
  | nil =>
      cases other with
      | nil =>
          simp only [List.nil_append, List.cons.injEq, true_and] at same
          exact ⟨rfl, same⟩
      | cons d other =>
          simp only [List.nil_append, List.cons_append, List.cons.injEq] at same
          simp [same.1] at otherUnmarked
  | cons c text ih =>
      cases other with
      | nil =>
          simp only [List.nil_append, List.cons_append, List.cons.injEq] at same
          simp [same.1] at unmarked
      | cons d other =>
          simp only [List.mem_cons, not_or] at unmarked otherUnmarked
          simp only [List.cons_append, List.cons.injEq] at same
          rcases ih unmarked.2 otherUnmarked.2 same.2 with ⟨sameText, sameRest⟩
          exact ⟨by rw [same.1, sameText], sameRest⟩

theorem not_mem_of_isWritableIri {iri : String} (writable : isWritableIri iri) : '>' ∉ iri.toList := by
  intro mem
  simp only [isWritableIri, Bool.not_eq_true', List.any_eq_false] at writable
  exact writable '>' mem rfl

/-! ## Literals -/

namespace Literal

/-- Where no quote stands behind them, the quotes of a text end it. -/
theorem quote_append_injective (behind : rest.head? ≠ some '"') (otherBehind : otherRest.head? ≠ some '"')
    (same : quote text ++ rest = quote other ++ otherRest) : text = other ∧ rest = otherRest := by
  -- A text that ends open leaves its last quote over, and nothing else that is written does so.
  by_cases isOpen : EndsOpen text <;> by_cases otherIsOpen : EndsOpen other
  · rcases exists_beginsWithString_open rest isOpen with ⟨token, begins⟩
    rcases exists_beginsWithString_open otherRest otherIsOpen with ⟨otherToken, otherBegins⟩
    rw [same] at begins
    rcases begins.unique otherBegins with ⟨_, sameFront, sameRest⟩
    refine ⟨?_, (List.cons.inj sameRest).2⟩
    rcases isOpen.2 with ⟨front, rfl⟩
    rcases otherIsOpen.2 with ⟨otherFront, rfl⟩
    simpa using sameFront
  · rcases exists_beginsWithString_open rest isOpen with ⟨token, begins⟩
    rw [same] at begins
    rcases begins.unique (beginsWithString_quote otherIsOpen otherBehind) with ⟨_, _, sameRest⟩
    exact absurd (congrArg List.head? sameRest.symm) otherBehind
  · rcases exists_beginsWithString_open otherRest otherIsOpen with ⟨token, begins⟩
    rw [← same] at begins
    rcases begins.unique (beginsWithString_quote isOpen behind) with ⟨_, _, sameRest⟩
    exact absurd (congrArg List.head? sameRest.symm) behind
  · have begins := beginsWithString_quote isOpen behind
    rw [same] at begins
    rcases begins.unique (beginsWithString_quote otherIsOpen otherBehind) with ⟨_, sameText, sameRest⟩
    exact ⟨sameText, sameRest⟩

/-- Any text, with no language and no datatype, or a language without spaces, or a datatype that can stand between
angle brackets and whose texts are written as they are. -/
structure IsLegible (literal : Literal) : Prop where
  language : ∀ tag ∈ literal.language, ' ' ∉ tag.toList ∧ literal.datatype = none
  datatype : ∀ iri ∈ literal.datatype, iri ≠ "" ∧ isWritableIri iri ∧
    iri ∉ ["double", "float", "decimal"].map Vocabulary.xsd

theorem eq_append_drop_of_startsWith {text head : String} (starts : text.startsWith head) :
    head ++ (text.drop head.length).toString = text := by
  rw [String.startsWith_string_iff] at starts
  rcases starts with ⟨rest, isText⟩
  apply String.toList_injective
  have dropped : (text.drop head.length).toString.toList = text.toList.drop head.length :=
    String.toList_copy_drop
  rw [String.toList_append, dropped, ← isText, ← String.length_toList, List.drop_left]

theorem eq_of_ofName_eq_decimal {name : String} (isDecimal : LexicalSpace.ofName name = .decimal) :
    name = "decimal" := by
  unfold LexicalSpace.ofName at isDecimal
  split at isDecimal
  · cases isDecimal
  · split at isDecimal
    all_goals first | rfl | cases isDecimal

theorem eq_of_ofName_eq_double {name : String} (isDouble : LexicalSpace.ofName name = .double) :
    name = "double" ∨ name = "float" := by
  unfold LexicalSpace.ofName at isDouble
  split at isDouble
  · cases isDouble
  · split at isDouble
    all_goals first | exact .inl rfl | exact .inr rfl | cases isDouble

/-- Three datatypes have texts with another spelling. -/
theorem mem_of_ofDatatype {iri : String} {space : LexicalSpace}
    (isSpace : LexicalSpace.ofDatatype (some iri) = space) (isNumber : space = .decimal ∨ space = .double) :
    iri ∈ ["double", "float", "decimal"].map Vocabulary.xsd := by
  simp only [LexicalSpace.ofDatatype] at isSpace
  split at isSpace
  · next inSpace =>
      have isIri := eq_append_drop_of_startsWith inSpace
      generalize (iri.drop (Vocabulary.xsd "").length).toString = name at isIri isSpace
      have named : Vocabulary.xsd name = iri := by
        unfold Vocabulary.xsd at isIri ⊢
        rwa [String.append_empty] at isIri
      rw [← named]
      apply List.mem_map_of_mem
      rcases isNumber with rfl | rfl
      · simp [eq_of_ofName_eq_decimal isSpace]
      · rcases eq_of_ofName_eq_double isSpace with rfl | rfl <;> simp
  · split at isSpace
    all_goals
      subst isSpace
      simp at isNumber

/-- What stands behind the quotes of a literal. -/
def suffix (literal : Literal) : List Char :=
  match literal.language, literal.datatype with
  | some tag, _ => '@' :: tag.toList
  | none, some iri => '^' :: '^' :: '<' :: (iri.toList ++ ['>'])
  | none, none => []

variable {literal otherLiteral : Literal}

theorem IsLegible.spelled_eq (legible : literal.IsLegible) : literal.spelled = literal.text := by
  rcases hasDatatype : literal.datatype with _ | iri
  · simp [spelled, hasDatatype, LexicalSpace.ofDatatype]
  · have notNumber := (legible.datatype iri hasDatatype).2.2
    unfold spelled
    rw [hasDatatype]
    split
    · next isDecimal => exact absurd (mem_of_ofDatatype isDecimal (.inl rfl)) notNumber
    · next isDouble => exact absurd (mem_of_ofDatatype isDouble (.inr rfl)) notNumber
    · rfl

theorem IsLegible.chars_eq (legible : literal.IsLegible) :
    literal.chars = quote literal.text.toList ++ literal.suffix := by
  unfold chars suffix
  rw [legible.spelled_eq]
  rcases literal.language with _ | tag
  · rcases hasDatatype : literal.datatype with _ | iri
    · simp
    · have notEmpty := (legible.datatype iri hasDatatype).1
      simp
  · simp

/-- The three kinds of literals and what stands behind their quotes. -/
theorem IsLegible.kinds (legible : literal.IsLegible) :
    (literal.language = none ∧ literal.datatype = none ∧ literal.suffix = []) ∨
    (∃ tag, literal.language = some tag ∧ literal.datatype = none ∧ ' ' ∉ tag.toList ∧
      literal.suffix = '@' :: tag.toList) ∨
    ∃ iri, literal.language = none ∧ literal.datatype = some iri ∧ isWritableIri iri ∧
      literal.suffix = '^' :: '^' :: '<' :: (iri.toList ++ ['>']) := by
  unfold suffix
  rcases hasLanguage : literal.language with _ | tag
  · rcases hasDatatype : literal.datatype with _ | iri
    · simp
    · have writable := (legible.datatype iri hasDatatype).2.1
      simp [writable]
  · rcases legible.language tag hasLanguage with ⟨noSpace, noDatatype⟩
    simp [noSpace, noDatatype]

theorem head?_suffix_append (literal : Literal) : (literal.suffix ++ ' ' :: rest).head? ≠ some '"' := by
  unfold suffix
  split <;> simp

/-- A sign says what stands behind the quotes, and a space or a bracket ends it. -/
theorem suffix_append_injective (legible : literal.IsLegible) (otherLegible : otherLiteral.IsLegible)
    (same : literal.suffix ++ ' ' :: rest = otherLiteral.suffix ++ ' ' :: otherRest) :
    literal.language = otherLiteral.language ∧ literal.datatype = otherLiteral.datatype ∧ rest = otherRest := by
  rcases legible.kinds with
    ⟨language, datatype, isSuffix⟩ | ⟨tag, language, datatype, noSpace, isSuffix⟩ |
      ⟨iri, language, datatype, writable, isSuffix⟩ <;>
  rcases otherLegible.kinds with
    ⟨otherLanguage, otherDatatype, isOtherSuffix⟩ | ⟨otherTag, otherLanguage, otherDatatype, otherNoSpace, isOtherSuffix⟩ |
      ⟨otherIri, otherLanguage, otherDatatype, otherWritable, isOtherSuffix⟩ <;>
  simp [isSuffix, isOtherSuffix] at same
  -- The signs of two different kinds differ, so both literals are of one kind.
  · exact ⟨by rw [language, otherLanguage], by rw [datatype, otherDatatype], same⟩
  · rcases append_mark_injective noSpace otherNoSpace same with ⟨sameTag, sameRest⟩
    rw [language, otherLanguage, datatype, otherDatatype, String.toList_injective sameTag]
    exact ⟨rfl, rfl, sameRest⟩
  · rcases append_mark_injective (not_mem_of_isWritableIri writable) (not_mem_of_isWritableIri otherWritable)
      same with ⟨sameIri, sameBehind⟩
    rw [language, otherLanguage, datatype, otherDatatype, String.toList_injective sameIri]
    exact ⟨rfl, rfl, (List.cons.inj sameBehind).2⟩

/-- The text of a literal with a space behind it. -/
theorem chars_append_injective (legible : literal.IsLegible) (otherLegible : otherLiteral.IsLegible)
    (same : literal.chars ++ ' ' :: rest = otherLiteral.chars ++ ' ' :: otherRest) :
    literal = otherLiteral ∧ rest = otherRest := by
  rw [legible.chars_eq, otherLegible.chars_eq, List.append_assoc, List.append_assoc] at same
  rcases quote_append_injective literal.head?_suffix_append otherLiteral.head?_suffix_append same with
    ⟨sameText, sameBehind⟩
  rcases suffix_append_injective legible otherLegible sameBehind with ⟨sameLanguage, sameDatatype, sameRest⟩
  refine ⟨?_, sameRest⟩
  rw [Literal.mk.injEq]
  exact ⟨String.toList_injective sameText, sameLanguage, sameDatatype⟩

end Literal

/-! ## Terms -/

namespace Term

/-- An IRI that can be written, a blank node or variable with a name without spaces, or such a literal. -/
def IsLegible : Term → Prop
  | .iri value => isWritableIri value
  | .blank label => ' ' ∉ label.toList
  | .literal value => value.IsLegible
  | .variable name => ' ' ∉ name.toList

/-- The first characters say of which kind both terms are. -/
theorem chars_append_injective {term otherTerm : Term} (legible : term.IsLegible)
    (otherLegible : otherTerm.IsLegible)
    (same : term.chars ++ ' ' :: rest = otherTerm.chars ++ ' ' :: otherRest) :
    term = otherTerm ∧ rest = otherRest := by
  have sameSign : term.sign = otherTerm.sign := by
    rcases term.exists_chars with ⟨behind, isChars⟩
    rcases otherTerm.exists_chars with ⟨otherBehind, isOtherChars⟩
    rw [isChars, isOtherChars] at same
    exact (List.cons.inj same).1
  cases term <;> cases otherTerm
  case iri.iri value otherValue =>
      simp only [chars, List.cons_append, List.append_assoc, List.cons.injEq, true_and, List.nil_append] at same
      rcases append_mark_injective (not_mem_of_isWritableIri legible)
        (not_mem_of_isWritableIri otherLegible) same with ⟨sameValue, sameBehind⟩
      exact ⟨by rw [String.toList_injective sameValue], (List.cons.inj sameBehind).2⟩
  case blank.blank label otherLabel =>
      simp only [chars, List.cons_append, List.cons.injEq, true_and] at same
      rcases append_mark_injective legible otherLegible same with ⟨sameLabel, sameRest⟩
      exact ⟨by rw [String.toList_injective sameLabel], sameRest⟩
  case literal.literal value otherValue =>
      rcases Literal.chars_append_injective legible otherLegible same with ⟨sameValue, sameRest⟩
      exact ⟨by rw [sameValue], sameRest⟩
  case variable.variable name otherName =>
      simp only [chars, List.cons_append, List.cons.injEq, true_and] at same
      rcases append_mark_injective legible otherLegible same with ⟨sameName, sameRest⟩
      exact ⟨by rw [String.toList_injective sameName], sameRest⟩
  all_goals simp [sign] at sameSign

end Term

end Marks

end Sparql
