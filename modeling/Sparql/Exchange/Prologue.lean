import Sparql.Failure
import Sparql.Query.Basic
import Sparql.Text.Basic
import Sparql.Text.Case

/-!
# The form of query text

Raw text is classified by its first word after the prologue: blanks, comments and declarations of prefixes
and of the base.
-/

namespace Sparql

open Sparql.Text

namespace Prologue

/-- Whether a character is a given capital letter, in either case or in a form that folds to it. -/
def folds (capital c : Char) : Bool :=
  c = capital || c = capital.toLower
    || (capital = 'S' && c.toNat = 0x17F) || (capital = 'I' && (c.toNat = 0x130 || c.toNat = 0x131))

/-- The text after a word that is given in capitals. -/
def afterWord? : List Char → List Char → Option (List Char)
  | [], text => some text
  | _ :: _, [] => none
  | capital :: word, c :: text => if folds capital c then afterWord? word text else none

/-- A character that the name of a declaration may hold. -/
def isNameCharacter (c : Char) : Bool := !isBlank c && c ≠ ':'

/-- The text after an IRI between angle brackets. -/
def afterIri? : List Char → Option (List Char)
  | '<' :: rest =>
    match rest.dropWhile (· ≠ '>') with
    | _ :: after => some after
    | [] => none
  | _ => none

/-- The text after the declaration of a prefix. -/
def afterPrefix? (text : List Char) : Option (List Char) := do
  let rest ← afterWord? ['P', 'R', 'E', 'F', 'I', 'X'] text
  let name := trimLeft rest
  if rest.length = name.length then none
  match name.dropWhile isNameCharacter with
  | ':' :: after => afterIri? (trimLeft after)
  | _ => none

/-- The text after the declaration of the base. -/
def afterBase? (text : List Char) : Option (List Char) := do
  let rest ← afterWord? ['B', 'A', 'S', 'E'] text
  afterIri? (trimLeft rest)

/-- The text after a comment, which ends with its line or with the text. -/
def afterComment (text : List Char) : List Char := (text.dropWhile (· ≠ '\n')).drop 1

/-- The text after one item of a prologue. -/
def afterItem? : List Char → Option (List Char)
  | [] => none
  | c :: rest =>
    if isBlank c then some (trimLeft rest)
    else if c = '#' then some (afterComment rest)
    else afterPrefix? (c :: rest) <|> afterBase? (c :: rest)

theorem length_afterWord? {word text rest : List Char} (h : afterWord? word text = some rest) :
    rest.length ≤ text.length := by
  induction word generalizing text with
  | nil => simp only [afterWord?, Option.some.injEq] at h; simp [h]
  | cons capital word ih =>
    cases text with
    | nil => simp [afterWord?] at h
    | cons c text =>
      simp only [afterWord?] at h
      split at h
      · have := ih h
        simp only [List.length_cons]
        omega
      · simp at h

theorem length_trimLeft (text : List Char) : (trimLeft text).length ≤ text.length :=
  (List.dropWhile_sublist _).length_le

theorem length_afterIri? {text rest : List Char} (h : afterIri? text = some rest) :
    rest.length < text.length := by
  unfold afterIri? at h
  split at h
  · rename_i tail
    have := (List.dropWhile_sublist (l := tail) (· ≠ '>')).length_le
    split at h
    · rename_i heq
      rw [heq] at this
      simp only [Option.some.injEq] at h
      subst h
      simp only [List.length_cons] at this ⊢
      omega
    · simp at h
  · simp at h

theorem length_afterPrefix? {text rest : List Char} (h : afterPrefix? text = some rest) :
    rest.length < text.length := by
  simp only [afterPrefix?, Option.bind_eq_bind, Option.bind_eq_some_iff] at h
  obtain ⟨a, ha, h⟩ := h
  split at h
  · simp at h
  · have h1 := length_afterWord? ha
    have h2 := length_trimLeft a
    split at h
    · rename_i after heq
      have h3 := length_afterIri? h
      have h4 := length_trimLeft after
      have h5 := (List.dropWhile_sublist (l := trimLeft a) isNameCharacter).length_le
      rw [heq] at h5
      simp only [List.length_cons] at h5
      omega
    · simp at h

theorem length_afterBase? {text rest : List Char} (h : afterBase? text = some rest) :
    rest.length < text.length := by
  simp only [afterBase?, Option.bind_eq_bind, Option.bind_eq_some_iff] at h
  obtain ⟨a, ha, h⟩ := h
  have h1 := length_afterWord? ha
  have h2 := length_trimLeft a
  have h3 := length_afterIri? h
  omega

/-- Every item has a character at least. -/
theorem length_afterItem? {text rest : List Char} (h : afterItem? text = some rest) :
    rest.length < text.length := by
  cases text with
  | nil => simp [afterItem?] at h
  | cons c tail =>
    simp only [afterItem?] at h
    split at h
    · have := length_trimLeft tail
      simp only [Option.some.injEq] at h
      subst h
      simp only [List.length_cons]
      omega
    · split at h
      · have := (List.dropWhile_sublist (l := tail) (· ≠ '\n')).length_le
        simp only [Option.some.injEq, afterComment] at h
        subst h
        simp only [List.length_drop, List.length_cons]
        omega
      · rcases hp : afterPrefix? (c :: tail) with _ | r
        · rw [hp] at h
          exact length_afterBase? (by simpa using h)
        · rw [hp] at h
          simp only [Option.orElse_eq_orElse, Option.orElse_eq_or, Option.some_or, Option.some.injEq] at h
          subst h
          exact length_afterPrefix? hp

/-- The text after the whole prologue. -/
def skip (text : List Char) : List Char :=
  match _h : afterItem? text with
  | none => text
  | some rest => skip rest
termination_by text.length
decreasing_by exact length_afterItem? _h

end Prologue

/-- What a text asks for: a query of some form, or an update. -/
inductive TextKind where
  | query (form : Form)
  | update
deriving DecidableEq, Repr

/-- The name of a kind of text. -/
def TextKind.name : TextKind → String
  | .query form => form.name
  | .update => "update"

/-- The words that an update may begin with. -/
def updateKeywords : List String :=
  ["insert", "delete", "clear", "load", "create", "drop", "with", "copy", "move", "add"]

/-- The kind of text that begins with a word. -/
def TextKind.ofWord? (word : List Char) : Option TextKind :=
  let keyword := String.ofList (toLower word)
  match Form.ofName? keyword with
  | some form => some (.query form)
  | none => if keyword ∈ updateKeywords then some .update else none

/-- The kind of a text, by its first word after the prologue. -/
def TextKind.detect (text : String) : Outcome TextKind :=
  match TextKind.ofWord? (firstWord (Prologue.skip text.toList)) with
  | some kind => .ok kind
  | none => refuse (.unknownKeyword text)

end Sparql
