import Sparql.Proofs.Update.Determined

/-!
# What the text of a pattern says

Patterns with the same text have the same terms. A pattern is a word and three terms, or two words and two terms
where its predicate is that of classes, and the words and terms can be read off its text. The text of a literal may
have several lines and hold quotes, backslashes and what looks like the end of a pattern.
-/

namespace Sparql

open Outcome

/-! ## Legible terms are written -/

theorem Term.exists_render_of_isLegible {term : Term} (legible : term.IsLegible) : ∃ text, term.render = .ok text := by
  cases term with
  | iri value =>
      have writable : isWritableIri value := legible
      exact ⟨_, by rw [render, renderIri, if_pos writable]⟩
  | blank label | literal value | «variable» name => exact ⟨_, rfl⟩

namespace Pattern

variable {pattern other : Pattern}

theorem exists_render_of_isLegible (legible : ∀ term ∈ pattern.terms, term.IsLegible) :
    ∃ text, pattern.render = .ok text := by
  simp only [terms, List.mem_cons, List.not_mem_nil, or_false, forall_eq_or_imp, forall_eq] at legible
  rcases legible with ⟨subjectLegible, predicateLegible, objectLegible⟩
  rcases Term.exists_render_of_isLegible subjectLegible with ⟨subject, isSubject⟩
  rcases Term.exists_render_of_isLegible predicateLegible with ⟨predicate, isPredicate⟩
  rcases Term.exists_render_of_isLegible objectLegible with ⟨object, isObject⟩
  unfold render renderPredicate
  rw [isSubject, isPredicate, isObject]
  split_ifs <;> exact ⟨_, rfl⟩

theorem isLegible_lexemes (legible : ∀ term ∈ pattern.terms, term.IsLegible) :
    ∀ lexeme ∈ pattern.lexemes, lexeme.IsLegible := by
  simp only [terms, List.mem_cons, List.not_mem_nil, or_false, forall_eq_or_imp, forall_eq] at legible
  rcases legible with ⟨subjectLegible, predicateLegible, objectLegible⟩
  have relation : pattern.predicateLexeme.IsLegible := by
    unfold predicateLexeme
    split_ifs
    · exact (by decide : "a" ∈ Lexeme.words)
    · exact predicateLegible
  have stop : "." ∈ Lexeme.words := by decide
  simp only [lexemes, List.mem_cons, List.not_mem_nil, or_false, forall_eq_or_imp, forall_eq]
  exact ⟨subjectLegible, relation, objectLegible, stop⟩

/-! ## Rendering is injective -/

/-- Patterns of legible terms have texts, and patterns with the same text are equal term by term: the short form of
the class relation, the quotes that a text stands between and the datatype behind them say which terms they are. -/
theorem eq_of_sameText (legible : ∀ term ∈ pattern.terms, term.IsLegible)
    (otherLegible : ∀ term ∈ other.terms, term.IsLegible) :
    ∃ text otherText, pattern.render = .ok text ∧ other.render = .ok otherText ∧
      (text = otherText → pattern = other) := by
  rcases exists_render_of_isLegible legible with ⟨text, isText⟩
  rcases exists_render_of_isLegible otherLegible with ⟨otherText, isOtherText⟩
  refine ⟨text, otherText, isText, isOtherText, ?_⟩
  rintro rfl
  have sameWritten : Lexeme.written pattern.lexemes = Lexeme.written other.lexemes := by
    rw [← UpdateOperation.followed_pattern isText, UpdateOperation.followed_pattern isOtherText]
  have sameLexemes : pattern.lexemes = other.lexemes :=
    Lexeme.eq_of_written_eq (isLegible_lexemes legible) (isLegible_lexemes otherLegible) sameWritten
  exact (lexemes_append_injective (congrArg (· ++ []) sameLexemes)).1

/-- A blank node of a class, with a text of two lines that ends in a backslash and a quote. -/
def openPattern (datatype : Option String) : Pattern :=
  ⟨.blank "b", .iri Vocabulary.rdfType, .literal ⟨Literal.openText, none, datatype⟩⟩

/-- A string with its datatype written and the same string with none have different texts, although the first quotes
end too early in both. -/
theorem openPattern_texts_differ :
    (∀ term ∈ (openPattern (some Vocabulary.xsdString)).terms, term.IsLegible) ∧
    (∀ term ∈ (openPattern none).terms, term.IsLegible) ∧
    ∃ text otherText, (openPattern (some Vocabulary.xsdString)).render = .ok text ∧
      (openPattern none).render = .ok otherText ∧ text ≠ otherText := by
  have writable : ∀ iri ∈ [Vocabulary.rdfType, Vocabulary.xsdString], isWritableIri iri := by decide +kernel
  have stringDatatype : Vocabulary.xsdString ≠ "" ∧ isWritableIri Vocabulary.xsdString ∧
      Vocabulary.xsdString ∉ ["double", "float", "decimal"].map Vocabulary.xsd := by
    decide +kernel
  have noSpace : ' ' ∉ "b".toList := by decide
  have legible : ∀ datatype, (∀ iri ∈ datatype, iri = Vocabulary.xsdString) →
      ∀ term ∈ (openPattern datatype).terms, term.IsLegible := by
    intro datatype isString
    simp only [openPattern, terms, List.mem_cons, List.not_mem_nil, or_false, forall_eq_or_imp, forall_eq]
    refine ⟨noSpace, writable _ (by simp), ⟨by simp, ?_⟩⟩
    intro iri isDatatype
    rw [isString iri isDatatype]
    exact stringDatatype
  rcases eq_of_sameText (legible (some Vocabulary.xsdString) (by simp)) (legible none (by simp)) with
    ⟨text, otherText, isText, isOtherText, same⟩
  refine ⟨legible _ (by simp), legible _ (by simp), text, otherText, isText, isOtherText, ?_⟩
  intro sameText
  have samePattern := congrArg Pattern.object (same sameText)
  simp [openPattern] at samePattern

end Pattern

end Sparql
