import Sparql.Xml.Document
import Sparql.Xml.NormalForm

/-!
# Characters that are read as themselves

Texts and values are written with references for the characters that would not be read as themselves. What is
written holds no mark of a tag and no end of a line that is unified, and its fragments are the characters.
-/

namespace Sparql.Xml

/-! ## Characters -/

/-- A character of a text, in which the ends of lines may be unified. -/
def escapeText (c : Char) : List Char := if c = '\r' then "&#13;".toList else escapeChar c

/-- A character of a value, in which every blank may be flattened. -/
def escapeValue (c : Char) : List Char :=
  if c = '\t' then "&#9;".toList else if c = '\n' then "&#10;".toList else escapeText c

/-- A text without the characters that end one, and without those that begin the end of a line. -/
def IsPlain (text : List Char) : Prop := ∀ mark ∈ ['<', '>', '"', '\r'], mark ∉ text

-- the marks are enumerated, not all the characters
instance (text : List Char) : Decidable (IsPlain text) :=
  List.decidableBAll (fun mark => mark ∉ text) ['<', '>', '"', '\r']

/-- Characters that a document may hold. -/
def IsLegal (text : List Char) : Prop := ∀ c ∈ text, isAllowed c = true

instance (text : List Char) : Decidable (IsLegal text) :=
  List.decidableBAll (fun c => isAllowed c = true) text

/-- Characters that a document may hold and that stay as they are where the ends of lines are unified. -/
def IsClean (text : List Char) : Prop := ∀ c ∈ text, isAllowed c = true ∧ c ≠ '\r'

instance (text : List Char) : Decidable (IsClean text) :=
  List.decidableBAll (fun c => isAllowed c = true ∧ c ≠ '\r') text

@[simp]
theorem isClean_nil : IsClean [] := List.forall_mem_nil _

@[simp]
theorem isClean_cons {c : Char} {text : List Char} :
    IsClean (c :: text) ↔ (isAllowed c = true ∧ c ≠ '\r') ∧ IsClean text :=
  List.forall_mem_cons

@[simp]
theorem isClean_append {first second : List Char} :
    IsClean (first ++ second) ↔ IsClean first ∧ IsClean second :=
  List.forall_mem_append

theorem isPlain_escapeText (c : Char) : IsPlain (escapeText c) := by
  unfold escapeText escapeChar
  split
  · decide
  split
  · decide
  split
  · decide
  split
  · decide
  split
  · decide
  · simp [IsPlain, *, eq_comm]

theorem isPlain_escapeValue (c : Char) : IsPlain (escapeValue c) := by
  unfold escapeValue
  split
  · decide
  split
  · decide
  · exact isPlain_escapeText c

theorem isClean_escapeText {c : Char} (isLegal : isAllowed c = true) : IsClean (escapeText c) := by
  unfold escapeText escapeChar
  repeat' split
  all_goals first | decide | simp_all

theorem isClean_escapeValue {c : Char} (isLegal : isAllowed c = true) : IsClean (escapeValue c) := by
  unfold escapeValue
  split
  · decide
  split
  · decide
  · exact isClean_escapeText isLegal

theorem isPlain_flatMap {escape : Char → List Char} (each : ∀ c, IsPlain (escape c)) (text : List Char) :
    IsPlain (text.flatMap escape) := by
  intro mark isMark mem
  rcases List.mem_flatMap.mp mem with ⟨c, _, mem⟩
  exact each c mark isMark mem

theorem isClean_flatMap {escape : Char → List Char}
    (each : ∀ {c}, isAllowed c = true → IsClean (escape c)) {text : List Char} (isLegal : IsLegal text) :
    IsClean (text.flatMap escape) := by
  intro d mem
  rcases List.mem_flatMap.mp mem with ⟨c, isIn, mem⟩
  exact each (isLegal c isIn) d mem

/-- Blanks that stay as they are. -/
def IsBlank (text : List Char) : Prop := ∀ c ∈ text, c ∈ [' ', '\t', '\n']

theorem blank_cases {c : Char} (isBlank : c ∈ [' ', '\t', '\n']) : c = ' ' ∨ c = '\t' ∨ c = '\n' := by
  simpa using isBlank

theorem IsBlank.escaped {text : List Char} (isBlank : IsBlank text) : text.flatMap escapeText = text := by
  have each : ∀ c ∈ text, escapeText c = [c] := by
    intro c mem
    rcases blank_cases (isBlank c mem) with rfl | rfl | rfl <;> rfl
  rw [List.flatMap_def, List.map_congr_left each, ← List.flatMap_def]
  simp

theorem IsBlank.isLegal {text : List Char} (isBlank : IsBlank text) : IsLegal text := by
  intro c mem
  rcases blank_cases (isBlank c mem) with rfl | rfl | rfl <;> rfl

theorem IsBlank.isSpace {text : List Char} (isBlank : IsBlank text) : ∀ c ∈ text, isSpace c = true := by
  intro c mem
  rcases blank_cases (isBlank c mem) with rfl | rfl | rfl <;> rfl

/-! ## References -/

variable {practice : Practice} {limit : Nat}

theorem fragmentsFrom_escapeText (read : List Fragment) (c : Char) (rest : List Char) :
    fragmentsFrom practice read none (escapeText c ++ rest) =
      fragmentsFrom practice (.char c :: read) none rest := by
  unfold escapeText escapeChar
  split
  · subst c
    rfl
  split
  · subst c
    rfl
  split
  · subst c
    rfl
  split
  · subst c
    rfl
  split
  · subst c
    rfl
  · rename_i notAmpersand _ _ _
    simp [fragmentsFrom, notAmpersand]

theorem fragmentsFrom_escapeValue (read : List Fragment) (c : Char) (rest : List Char) :
    fragmentsFrom practice read none (escapeValue c ++ rest) =
      fragmentsFrom practice (.char c :: read) none rest := by
  unfold escapeValue
  split
  · subst c
    rfl
  split
  · subst c
    rfl
  · exact fragmentsFrom_escapeText read c rest

/-- Characters that are each read as themselves make a text that is. -/
theorem fragments?_flatMap {escape : Char → List Char}
    (each : ∀ read c rest, fragmentsFrom practice read none (escape c ++ rest) =
      fragmentsFrom practice (.char c :: read) none rest) (text : List Char) :
    fragments? practice (text.flatMap escape) = some (text.map .char) := by
  have reads : ∀ read, fragmentsFrom practice read none (text.flatMap escape) =
      some (read.reverse ++ text.map .char) := by
    induction text with
    | nil => simp [fragmentsFrom]
    | cons c text ih =>
        intro read
        rw [List.flatMap_cons, each, ih]
        simp
  simpa [fragments?] using reads []

theorem flattenSpace_escapeValue (value : List Char) :
    DocumentType.flattenSpace (value.flatMap escapeValue) = value.flatMap escapeValue := by
  have isFlat : ∀ c, DocumentType.flattenSpace (escapeValue c) = escapeValue c := by
    intro c
    unfold escapeValue escapeText escapeChar
    repeat' split
    all_goals first | rfl | skip
    rename_i notTab notLine notReturn _ _ _ _
    by_cases isBlank : c = ' '
    · subst c
      rfl
    · simp [DocumentType.flattenSpace, isSpace, notTab, notLine, notReturn, isBlank]
  unfold DocumentType.flattenSpace at isFlat ⊢
  simp only [List.map_flatMap, isFlat]

/-! ## Values -/

/-- What a document without declarations declares. -/
def bare (limit : Nat) : DocumentType := { practice := .referring, limit }

@[simp]
theorem practice_bare : (bare limit).practice = .referring := rfl

@[simp]
theorem kindOf_bare (element key : List Char) : (bare limit).kindOf element key = .text := rfl

@[simp]
theorem standardsOf_bare (element : List Char) : (bare limit).standardsOf element = [] := rfl

theorem expanded?_chars (isFlat : Bool) (value : List Char) :
    (bare limit).expanded? isFlat (value.map .char) = some value := by
  have noSize : (bare limit).sizeOf (value.map .char) = 0 := by
    unfold DocumentType.sizeOf
    induction value with
    | nil => rfl
    | cons c value ih => simpa using ih
  have isDepth : (bare limit).depth = 1 + 1 := rfl
  have each : value.mapM (fun c => some [c]) = some (value.map fun c => [c]) := List.mapM_pure
  rw [DocumentType.expanded?, noSize, if_pos (Nat.zero_le _), isDepth, DocumentType.expand]
  simp [List.mapM_map, Function.comp_def, each, ← List.flatMap_def]

theorem charactersOf_chars (value : List Char) : DocumentType.charactersOf (value.map .char) = value := by
  rw [DocumentType.charactersOf, List.filterMap_map]
  exact List.filterMap_some

theorem value?_escaped (value : List Char) :
    (bare limit).value? .text (value.flatMap escapeValue) = some (value.map .char) := by
  rw [DocumentType.value?, flattenSpace_escapeValue, fragments?_flatMap fragmentsFrom_escapeValue]
  simp [expanded?_chars, DocumentType.kept]

theorem textOf?_chars (value : String) : (bare limit).textOf? (value.toList.map .char) = some value := by
  simp [DocumentType.textOf?, expanded?_chars]

theorem spaceOf?_chars (value : String) : (bare limit).spaceOf? .text (value.toList.map .char) = some value := by
  simp [DocumentType.spaceOf?, expanded?_chars, DocumentType.kept, charactersOf_chars]

end Sparql.Xml
