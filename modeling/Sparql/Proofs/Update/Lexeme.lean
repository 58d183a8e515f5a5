import Sparql.Proofs.Exchange.Prologue
import Sparql.Proofs.Term.Boundaries

/-!
# The lexemes of operations

The text of an operation is made of fixed words and of terms, with a space behind each. A fixed word holds no
space, and the first character of a term says where the term ends, so a text can be cut in one way only.
-/

namespace Sparql

/-! ## Terms of one line -/

/-- A text of one line, with no language and no datatype, or a language without spaces, or a datatype that can
stand between angle brackets and whose texts are written as they are. -/
structure Literal.IsRecoverable (literal : Literal) : Prop where
  oneLine : '\n' ∉ literal.text.toList
  language : ∀ tag ∈ literal.language, ' ' ∉ tag.toList ∧ literal.datatype = none
  datatype : ∀ iri ∈ literal.datatype, iri ≠ "" ∧ isWritableIri iri ∧
    iri ∉ ["double", "float", "decimal"].map Vocabulary.xsd

theorem Literal.IsRecoverable.isLegible {literal : Literal} (recoverable : literal.IsRecoverable) : literal.IsLegible :=
  ⟨recoverable.language, recoverable.datatype⟩

/-- An IRI that can be written, a blank node or variable with a name without spaces, or such a literal. -/
def Term.IsRecoverable : Term → Prop
  | .iri value => isWritableIri value
  | .blank label => ' ' ∉ label.toList
  | .literal value => value.IsRecoverable
  | .variable name => ' ' ∉ name.toList

theorem Term.IsRecoverable.isLegible {term : Term} (recoverable : term.IsRecoverable) : term.IsLegible := by
  cases term with
  | iri value | blank label | «variable» name => exact recoverable
  | literal value => exact Literal.IsRecoverable.isLegible recoverable

/-! ## Words and terms -/

/-- A part of the text of an operation: one of the fixed words, or a term. -/
inductive Lexeme where
  | word (text : String)
  | term (value : Term)
deriving DecidableEq

namespace Lexeme

/-- The fixed words of operations. -/
def words : List String := ["INSERT", "DELETE", "DATA", "WITH", "WHERE", "GRAPH", "LOAD", "INTO", "CLEAR", "DROP",
  "CREATE", "SILENT", "DEFAULT", "NAMED", "ALL", "a", ".", "\x7b", "\x7d"]

/-- A lexeme as it is written. -/
def chars : Lexeme → List Char
  | .word text => text.toList
  | .term value => value.chars

/-- A fixed word, or a term that can be recovered. -/
def IsRecoverable : Lexeme → Prop
  | .word text => text ∈ words
  | .term value => value.IsRecoverable

/-- A fixed word, or a term that is legible. -/
def IsLegible : Lexeme → Prop
  | .word text => text ∈ words
  | .term value => value.IsLegible

theorem IsRecoverable.isLegible {lexeme : Lexeme} (recoverable : lexeme.IsRecoverable) : lexeme.IsLegible := by
  cases lexeme with
  | word text => exact recoverable
  | term value => exact Term.IsRecoverable.isLegible recoverable

/-- Lexemes with a space behind each. -/
def written (lexemes : List Lexeme) : List Char := lexemes.flatMap fun lexeme => lexeme.chars ++ [' ']

theorem written_append (lexemes others : List Lexeme) : written (lexemes ++ others) = written lexemes ++ written others :=
  List.flatMap_append

theorem written_cons (lexeme : Lexeme) (lexemes : List Lexeme) :
    written (lexeme :: lexemes) = lexeme.chars ++ ' ' :: written lexemes := by
  simp [written]

theorem isWord {text : String} (mem : text ∈ words) :
    ' ' ∉ text.toList ∧ ∀ term : Term, text.toList.head? ≠ some term.sign := by
  have each : ∀ word ∈ words, ' ' ∉ word.toList ∧ ∀ c ∈ ['<', '_', '"', '?'], word.toList.head? ≠ some c := by
    simp [words]
  refine ⟨(each text mem).1, fun term => (each text mem).2 term.sign ?_⟩
  cases term <;> simp [Term.sign]

variable {rest otherRest : List Char}

theorem chars_append_injective {lexeme other : Lexeme} (legible : lexeme.IsLegible)
    (otherLegible : other.IsLegible)
    (same : lexeme.chars ++ ' ' :: rest = other.chars ++ ' ' :: otherRest) : lexeme = other ∧ rest = otherRest := by
  have wordNotTerm : ∀ {text : String} {term : Term} {more behind : List Char}, text ∈ words →
      text.toList ++ ' ' :: more ≠ term.chars ++ ' ' :: behind := by
    intro text term more behind mem same
    rcases term.exists_chars with ⟨others, isChars⟩
    have sameHead := congrArg List.head? same
    rw [isChars, List.cons_append, List.head?_cons] at sameHead
    rcases isText : text.toList with _ | ⟨c, tail⟩
    · simp only [isText, List.nil_append, List.head?_cons, Option.some.injEq] at sameHead
      cases term <;> simp [Term.sign] at sameHead
    · refine (isWord mem).2 term ?_
      simpa [isText] using sameHead
  cases lexeme with
  | word text =>
      cases other with
      | word otherText =>
          rcases append_mark_injective (isWord legible).1 (isWord otherLegible).1 same with
            ⟨sameText, sameRest⟩
          exact ⟨by rw [String.toList_injective sameText], sameRest⟩
      | term otherTerm => exact absurd same (wordNotTerm legible)
  | term term =>
      cases other with
      | word otherText => exact absurd same.symm (wordNotTerm otherLegible)
      | term otherTerm =>
          rcases Term.chars_append_injective legible otherLegible same with ⟨sameTerm, sameRest⟩
          exact ⟨by rw [sameTerm], sameRest⟩

/-- Lexemes with the same text are the same. -/
theorem eq_of_written_eq {lexemes others : List Lexeme} (legible : ∀ lexeme ∈ lexemes, lexeme.IsLegible)
    (othersLegible : ∀ lexeme ∈ others, lexeme.IsLegible) (same : written lexemes = written others) :
    lexemes = others := by
  induction lexemes generalizing others with
  | nil =>
      cases others with
      | nil => rfl
      | cons other others => simp [written] at same
  | cons lexeme lexemes ih =>
      cases others with
      | nil => simp [written] at same
      | cons other others =>
          simp only [List.mem_cons, forall_eq_or_imp] at legible othersLegible
          rw [written_cons, written_cons] at same
          rcases chars_append_injective legible.1 othersLegible.1 same with ⟨rfl, sameRest⟩
          rw [ih legible.2 othersLegible.2 sameRest]

/-- A text is made of lexemes in one way only. -/
theorem written_injective {lexemes others : List Lexeme} (recoverable : ∀ lexeme ∈ lexemes, lexeme.IsRecoverable)
    (othersRecoverable : ∀ lexeme ∈ others, lexeme.IsRecoverable) (same : written lexemes = written others) :
    lexemes = others :=
  eq_of_written_eq (fun lexeme mem => (recoverable lexeme mem).isLegible)
    (fun other mem => (othersRecoverable other mem).isLegible) same

end Lexeme

end Sparql
