import Sparql.Exchange.Prologue
import Sparql.Query.Text
import Sparql.Update.Build
import Sparql.Proofs.Outcome

/-!
# Texts and their kinds

The text of a query begins with its declarations and its form, and the text of an operation with what it does.
Skipping the prologue leaves the keyword in front, so that the kind of a text is the kind of what it is the text
of.
-/

namespace Sparql

open Sparql.Text

/-! ## First words -/

/-- A text that is a word, or goes on with a blank behind it. -/
def Begins (word text : List Char) : Prop := ∃ rest, text = word ++ rest ∧ ∀ c ∈ rest.head?, isBlank c = true

theorem begins_self (word : List Char) : Begins word word := ⟨[], by simp, by simp⟩

theorem begins_append (word rest : List Char) : Begins word (word ++ ' ' :: rest) :=
  ⟨' ' :: rest, rfl, by simp [isBlank]⟩

theorem Begins.append {word text : List Char} (begins : Begins word text) (rest : List Char) :
    Begins word (text ++ ' ' :: rest) := by
  rcases begins with ⟨others, rfl, areBlank⟩
  cases others with
  | nil => simpa using begins_append word rest
  | cons c others => exact ⟨c :: others ++ ' ' :: rest, by simp, by simpa using areBlank⟩

theorem toList_spaced_cons {word : String} {words : List String} (notEmpty : words ≠ []) :
    (spaced (word :: words)).toList = word.toList ++ ' ' :: (spaced words).toList := by
  rcases List.exists_cons_of_ne_nil notEmpty with ⟨second, others, rfl⟩
  rw [spaced, String.toList_intercalate, List.map_cons, List.map_cons, List.intercalate_cons_cons,
    spaced, String.toList_intercalate, List.map_cons]
  simp

/-- The first of some words stands at the beginning of them all. -/
theorem begins_spaced {word : List Char} {first : String} (begins : Begins word first.toList)
    (others : List String) : Begins word (spaced (first :: others)).toList := by
  cases others with
  | nil => simpa [spaced, String.toList_intercalate] using begins
  | cons second others =>
      rw [toList_spaced_cons (by simp)]
      exact begins.append _

/-- A word that no part of a prologue begins with. -/
def isOpening : List Char → Bool
  | [] => false
  | c :: word => (c :: word).all (!isBlank ·) && c != '#' && !Prologue.folds 'P' c && !Prologue.folds 'B' c

/-- The first word goes on behind a keyword to the next blank. -/
theorem firstWord_of_isOpening {word : List Char} (opening : isOpening word) (rest : List Char) :
    firstWord (word ++ rest) = word ++ rest.takeWhile (!isBlank ·) := by
  have noBlank : ∀ c ∈ word, (!isBlank c) = true := by
    cases word with
    | nil => cases opening
    | cons c word =>
        simp only [isOpening, Bool.and_eq_true, List.all_eq_true] at opening
        exact opening.1.1.1
  have atWord : trimLeft (word ++ rest) = word ++ rest := by
    cases word with
    | nil => cases opening
    | cons c word =>
        rw [trimLeft, List.cons_append, List.dropWhile_cons_of_neg (by simpa using noBlank c (.head _))]
  rw [firstWord, atWord, List.takeWhile_append_of_pos noBlank]

theorem firstWord_of_begins {word text : List Char} (opening : isOpening word) (begins : Begins word text) :
    firstWord text = word := by
  rcases begins with ⟨rest, rfl, areBlank⟩
  rw [firstWord_of_isOpening opening]
  cases rest with
  | nil => simp
  | cons c rest => simp [areBlank c rfl]

namespace Prologue

/-! ## Skipping -/

theorem skip_of_none {text : List Char} (isNone : afterItem? text = none) : skip text = text := by
  rw [skip]
  split
  · rfl
  · next isSome => cases isNone.symm.trans isSome

theorem skip_of_some {text rest : List Char} (isSome : afterItem? text = some rest) :
    skip text = skip rest := by
  rw [skip]
  split
  · next isNone => cases isNone.symm.trans isSome
  · next same => cases isSome.symm.trans same; rfl

/-- Blanks are skipped. -/
theorem skip_trimLeft (text : List Char) : skip (trimLeft text) = skip text := by
  cases text with
  | nil => rfl
  | cons c text =>
      by_cases blank : isBlank c
      · have isItem : afterItem? (c :: text) = some (trimLeft text) := by rw [afterItem?, if_pos blank]
        rw [skip_of_some isItem, trimLeft, List.dropWhile_cons_of_pos blank]
        rfl
      · rw [trimLeft, List.dropWhile_cons_of_neg blank]

theorem skip_space (text : List Char) : skip (' ' :: text) = skip text := by
  rw [← skip_trimLeft (' ' :: text), trimLeft, List.dropWhile_cons_of_pos (by decide)]
  exact skip_trimLeft text

/-- Nothing of a keyword is skipped, whatever stands behind it. -/
theorem skip_of_isOpening {word : List Char} (opening : isOpening word) (rest : List Char) :
    skip (word ++ rest) = word ++ rest := by
  cases word with
  | nil => cases opening
  | cons c word =>
      simp only [isOpening, List.all_cons, Bool.and_eq_true, Bool.not_eq_true', bne_iff_ne] at opening
      rcases opening with ⟨⟨⟨⟨notBlank, _⟩, notComment⟩, notPrefix⟩, notBase⟩
      refine skip_of_none ?_
      simp [afterItem?, afterPrefix?, afterBase?, afterWord?, notBlank, notComment, notPrefix, notBase]

theorem skip_of_begins {word text : List Char} (opening : isOpening word) (begins : Begins word text) :
    skip text = text := by
  rcases begins with ⟨rest, rfl, _⟩
  exact skip_of_isOpening opening rest

/-- A declaration: a name without blanks and colons, a colon, and an IRI between angle brackets. -/
def IsDeclaration (text : List Char) : Prop :=
  ∃ name iri, text = name ++ ':' :: ' ' :: '<' :: iri ++ ['>'] ∧
    (∀ c ∈ name, isBlank c = false ∧ c ≠ ':') ∧ '>' ∉ iri

theorem afterPrefix?_declaration {declaration : List Char} (isDeclaration : IsDeclaration declaration)
    (rest : List Char) : afterPrefix? ("PREFIX ".toList ++ declaration ++ rest) = some rest := by
  rcases isDeclaration with ⟨name, iri, rfl, isName, isIri⟩
  have afterWord : afterWord? ['P', 'R', 'E', 'F', 'I', 'X']
      ("PREFIX ".toList ++ (name ++ ':' :: ' ' :: '<' :: iri ++ ['>']) ++ rest) =
      some (' ' :: (name ++ ':' :: ' ' :: '<' :: (iri ++ '>' :: rest))) := by
    simp [afterWord?, folds]
  have afterBlank : trimLeft (' ' :: (name ++ ':' :: ' ' :: '<' :: (iri ++ '>' :: rest))) =
      name ++ ':' :: ' ' :: '<' :: (iri ++ '>' :: rest) := by
    rw [trimLeft, List.dropWhile_cons_of_pos (by decide)]
    cases name with
    | nil => rw [List.nil_append, List.dropWhile_cons_of_neg (by decide)]
    | cons c name => rw [List.cons_append, List.dropWhile_cons_of_neg (by simp [isName c (.head _)])]
  have afterName : (name ++ ':' :: ' ' :: '<' :: (iri ++ '>' :: rest)).dropWhile isNameCharacter =
      ':' :: ' ' :: '<' :: (iri ++ '>' :: rest) := by
    rw [List.dropWhile_append_of_pos (by simpa [isNameCharacter] using isName),
      List.dropWhile_cons_of_neg (by decide)]
  have atIri : trimLeft (' ' :: '<' :: (iri ++ '>' :: rest)) = '<' :: (iri ++ '>' :: rest) := by
    rw [trimLeft, List.dropWhile_cons_of_pos (by decide), List.dropWhile_cons_of_neg (by decide)]
  have afterIri : (iri ++ '>' :: rest).dropWhile (· ≠ '>') = '>' :: rest := by
    rw [List.dropWhile_append_of_pos (by grind), List.dropWhile_cons_of_neg (by decide)]
  rw [afterPrefix?, afterWord]
  simp only [Option.bind_eq_bind, Option.bind_some, afterBlank]
  rw [if_neg (by simp)]
  simp only [afterName, atIri, afterIri?, afterIri]

/-- A declaration is skipped. -/
theorem skip_declaration {declaration : List Char} (isDeclaration : IsDeclaration declaration)
    (rest : List Char) : skip ("PREFIX ".toList ++ declaration ++ rest) = skip rest := by
  have isPrefix := afterPrefix?_declaration isDeclaration rest
  have starts : "PREFIX ".toList ++ declaration ++ rest =
      'P' :: ("REFIX ".toList ++ declaration ++ rest) := rfl
  rw [starts] at isPrefix ⊢
  refine skip_of_some ?_
  rw [afterItem?, if_neg (by decide), if_neg (by decide), isPrefix]
  rfl

/-- All declarations in front of some words are skipped. -/
theorem skip_declarations {declarations : List String} {word : List Char} {first : String} {others : List String}
    (areDeclarations : ∀ declaration ∈ declarations, IsDeclaration declaration.toList)
    (opening : isOpening word) (begins : Begins word first.toList) :
    skip (spaced (declarations.map ("PREFIX " ++ ·) ++ first :: others)).toList =
      (spaced (first :: others)).toList := by
  induction declarations with
  | nil => exact skip_of_begins opening (begins_spaced begins others)
  | cons declaration declarations ih =>
      have isFirst := areDeclarations declaration (.head _)
      rw [List.map_cons, List.cons_append, toList_spaced_cons (by simp), String.toList_append,
        skip_declaration isFirst, skip_space]
      exact ih fun other mem => areDeclarations other (.tail _ mem)

end Prologue

/-! ## Kinds -/

/-- The kind of a text is that of the first word after its declarations. -/
theorem TextKind.detect_spaced {declarations : List String} {word : List Char} {first : String}
    {others : List String} {kind : TextKind}
    (areDeclarations : ∀ declaration ∈ declarations, Prologue.IsDeclaration declaration.toList)
    (opening : isOpening word) (begins : Begins word first.toList) (isKind : ofWord? word = some kind) :
    detect (spaced (declarations.map ("PREFIX " ++ ·) ++ first :: others)) = .ok kind := by
  rw [detect, Prologue.skip_declarations areDeclarations opening begins,
    firstWord_of_begins opening (begins_spaced begins others), isKind]

namespace QueryTree

/-- A query is written as its declarations, its form and what follows that. -/
theorem exists_words_of_render {tree : QueryTree} {text : String} (written : tree.render = .ok text) :
    ∃ words, text = spaced (prologueWords tree.clauses ++ tree.clauses.form.keyword :: words) := by
  simp only [render, textAround, Outcome.bind_eq_ok] at written
  rcases written with ⟨head, _, graphs, _, written⟩
  have hasCondition : ∃ condition modifiers, text = spaced (prologueWords tree.clauses ++
      tree.clauses.form.keyword :: head ++ graphs ++ condition ++ modifiers) := by
    split at written
    all_goals
      simp only [Outcome.bind_eq_ok, Outcome.pure_eq_ok] at written
      rcases written with ⟨condition, _, modifiers, _, rfl⟩
      exact ⟨condition, modifiers, rfl⟩
  rcases hasCondition with ⟨condition, modifiers, rfl⟩
  exact ⟨head ++ (graphs ++ (condition ++ modifiers)), by simp⟩

/-- The text of a query is one of the query's form. -/
theorem detect_render {tree : QueryTree} {text : String}
    (areDeclarations : ∀ declaration ∈ tree.clauses.prologue, Prologue.IsDeclaration declaration.toList)
    (written : tree.render = .ok text) : TextKind.detect text = .ok (.query tree.clauses.form) := by
  rcases exists_words_of_render written with ⟨words, rfl⟩
  have opening : isOpening tree.clauses.form.keyword.toList := by cases tree.clauses.form <;> decide
  refine TextKind.detect_spaced areDeclarations opening (begins_self _) ?_
  cases tree.clauses.form <;> decide

end QueryTree

namespace UpdateOperation

/-- The words that operations begin with. -/
def keywords : List String := ["INSERT", "DELETE", "WITH", "LOAD", "CLEAR", "DROP", "CREATE"]

/-- An operation that has a template, if its kind is one with templates. -/
def HasTemplate (operation : UpdateOperation) : Prop :=
  ∀ delete insert condition graph, operation.action = .deleteInsert delete insert condition graph →
    delete ≠ [] ∨ insert ≠ []

/-- Words of which the first begins with a keyword. -/
def Opens (words : List String) : Prop :=
  ∃ keyword ∈ keywords, ∃ first others, words = first :: others ∧ Begins keyword.toList first.toList

theorem opens_keyword {keyword : String} (isKeyword : keyword ∈ keywords) (others : List String) :
    Opens (keyword :: others) :=
  ⟨keyword, isKeyword, keyword, others, rfl, begins_self _⟩

theorem opens_template {keyword : String} (isKeyword : keyword ∈ keywords) {patterns : List Pattern}
    (notEmpty : patterns ≠ []) {words : List String} (isWords : templateWords keyword patterns = .ok words)
    (others : List String) : Opens (words ++ others) := by
  rw [templateWords, if_neg (by simpa using notEmpty)] at isWords
  rcases Outcome.map_eq_ok.mp isWords with ⟨inner, _, rfl⟩
  exact opens_keyword isKeyword _

/-- The words of an operation begin with what it does. -/
theorem opens_words {operation : UpdateOperation} (hasTemplate : operation.HasTemplate) {words : List String}
    (isWords : operation.words? = some (.ok words)) : Opens words := by
  unfold words? at isWords
  split at isWords
  case h_1 | h_2 =>
      rcases Outcome.map_eq_ok.mp (Option.some.inj isWords) with ⟨inner, _, rfl⟩
      first
        | exact ⟨"INSERT", by decide, _, _, rfl, begins_append "INSERT".toList "DATA".toList⟩
        | exact ⟨"DELETE", by decide, _, _, rfl, begins_append "DELETE".toList "DATA".toList⟩
  case h_3 delete insert condition graph isAction =>
      have isDone := Option.some.inj isWords
      cases graph with
      | some iri =>
          simp only [Outcome.bind_eq_ok, Outcome.map_eq_ok, Outcome.pure_eq_ok] at isDone
          rcases isDone with ⟨_, ⟨name, _, rfl⟩, _, _, _, _, _, _, rfl⟩
          refine ⟨"WITH", by decide, "WITH " ++ name, _, rfl, ?_⟩
          simpa using begins_append "WITH".toList name.toList
      | none =>
          simp only [Outcome.bind_eq_ok, Outcome.pure_eq_ok] at isDone
          rcases isDone with ⟨_, ⟨⟩, deletion, isDeletion, insertion, isInsertion, _, _, rfl⟩
          simp only [List.nil_append, List.append_assoc]
          -- Without a graph the first template that is there begins the text.
          by_cases noDeletion : delete = []
          · have notEmpty := (hasTemplate delete insert condition none isAction).resolve_left
              (by simpa using noDeletion)
            subst noDeletion
            cases isDeletion
            exact opens_template (by decide) notEmpty isInsertion _
          · exact opens_template (by decide) noDeletion isDeletion _
  case h_4 source into _ =>
      have isDone := Option.some.inj isWords
      cases into with
      | none =>
          simp only [Outcome.bind_eq_ok, Outcome.pure_eq_ok] at isDone
          rcases isDone with ⟨_, _, _, _, rfl⟩
          exact opens_keyword (by decide) _
      | some iri =>
          simp only [Outcome.bind_eq_ok, Outcome.pure_eq_ok] at isDone
          rcases isDone with ⟨_, _, _, _, rfl⟩
          exact opens_keyword (by decide) _
  case h_5 | h_6 | h_7 =>
      rcases Outcome.map_eq_ok.mp (Option.some.inj isWords) with ⟨_, _, rfl⟩
      exact opens_keyword (by decide) _
  case h_8 => cases isWords

/-- The text of an operation is that of an update. -/
theorem detect_toText {operation : UpdateOperation} (hasTemplate : operation.HasTemplate) {text : String}
    (written : operation.toText = .ok text) : TextKind.detect text = .ok .update := by
  unfold toText at written
  rcases isWords : operation.words? with _ | (failure | words)
  · simp [isWords] at written
  · simp [isWords, Outcome.ofRender, Except.map, misuse] at written
  · simp only [isWords, Outcome.ofRender, Except.map, Except.ok.injEq] at written
    subst written
    rcases opens_words hasTemplate isWords with ⟨keyword, isKeyword, first, others, rfl, begins⟩
    have opening : ∀ keyword ∈ keywords, isOpening keyword.toList ∧
        TextKind.ofWord? keyword.toList = some .update := by decide
    rcases opening keyword isKeyword with ⟨opening, isKind⟩
    have detected : TextKind.detect (spaced ([].map ("PREFIX " ++ ·) ++ first :: others)) = .ok .update :=
      TextKind.detect_spaced (by simp) opening begins isKind
    rwa [List.map_nil, List.nil_append, spaced] at detected

end UpdateOperation

end Sparql
