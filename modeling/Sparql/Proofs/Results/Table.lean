import Mathlib.Data.List.TakeWhile
import Sparql.Proofs.Term.Literal
import Sparql.Proofs.Xml.ReadBack
import Sparql.Results.Basic

/-!
# Tables of results

The rows of a table bind names to terms without variables, in characters that every format can hold. A decoder
makes the same table of each of its documents: the literals are in the normal forms of their datatypes, and one
literal that cannot be built spoils the whole.
-/

namespace Sparql

namespace Literal

open Xml

theorem isAllowed_of_isTagCharacter {c : Char} (isTag : isTagCharacter c = true) : isAllowed c = true := by
  have bounds : 32 ≤ c.toNat ∧ c.toNat < 128 := by
    have ranges : (decide ('A'.val ≤ c.val ∧ c.val ≤ 'Z'.val) || decide ('a'.val ≤ c.val) && decide (c.val ≤ 'z'.val) ||
        decide ('0'.val ≤ c.val) && decide (c.val ≤ '9'.val)) = true := isTag
    simp only [Bool.or_eq_true, Bool.and_eq_true, decide_eq_true_eq, UInt32.le_iff_toNat_le] at ranges
    change (65 ≤ c.toNat ∧ c.toNat ≤ 90 ∨ 97 ≤ c.toNat ∧ c.toNat ≤ 122) ∨ 48 ≤ c.toNat ∧ c.toNat ≤ 57 at ranges
    omega
  simp [isAllowed]
  omega

/-- Characters of a kind at the beginning of a text are no matter if they and the others are allowed. -/
theorem isLegal_of_dropWhile {text : List Char} {isKind : Char → Bool}
    (each : ∀ c, isKind c = true → isAllowed c = true) (isLegal : IsLegal (text.dropWhile isKind)) :
    IsLegal text := by
  intro c mem
  rw [← List.takeWhile_append_dropWhile (p := isKind) (l := text), List.mem_append] at mem
  rcases mem with mem | mem
  · exact each c (List.mem_takeWhile_imp mem)
  · exact isLegal c mem

theorem isLegal_of_isSubtags {text : List Char} (areTags : isSubtags text = true) : IsLegal text := by
  fun_induction isSubtags text with
  | case1 => simp [IsLegal]
  | case2 => decide
  | case3 c rest ih =>
      rw [Bool.and_eq_true] at areTags
      have isRest := isLegal_of_dropWhile (fun _ => isAllowed_of_isTagCharacter) (ih areTags.2)
      have isHyphen : isAllowed '-' = true := by decide
      simpa [IsLegal, isHyphen, isAllowed_of_isTagCharacter areTags.1] using isRest
  | case4 => cases areTags

/-- A language tag is made of characters that a document in XML may hold. -/
theorem isLegal_of_isLanguageTag {tag : String} (isTag : isLanguageTag tag = true) : IsLegal tag.toList := by
  unfold isLanguageTag at isTag
  split at isTag
  · cases isTag
  · rename_i c rest isText
    rw [Bool.and_eq_true] at isTag
    have isLetter : ∀ d, isTagLetter d = true → isAllowed d = true := by
      intro d isLetter
      exact isAllowed_of_isTagCharacter (by simpa [isTagCharacter, Char.isAlphanum] using .inl isLetter)
    have isRest := isLegal_of_dropWhile isLetter (isLegal_of_isSubtags isTag.2)
    rw [isText]
    simpa [IsLegal, isLetter c isTag.1] using isRest

theorem ne_empty_of_isLanguageTag {tag : String} (isTag : isLanguageTag tag = true) : tag ≠ "" := by
  rintro rfl
  cases isTag

end Literal

namespace Term

/-- A term of a row: an IRI, a blank node, or a literal that is plain, has a language tag or has a datatype. Its
texts are made of characters that a document in XML may hold. -/
inductive IsAnswer : Term → Prop
  | iri {value : String} (isLegal : Xml.IsLegal value.toList) : IsAnswer (.iri value)
  | blank {label : String} (isLegal : Xml.IsLegal label.toList) : IsAnswer (.blank label)
  | plain {text : String} (isLegal : Xml.IsLegal text.toList) : IsAnswer (.literal ⟨text, none, none⟩)
  | tagged {text tag : String} (isLegal : Xml.IsLegal text.toList) (isTag : Literal.isLanguageTag tag = true) :
      IsAnswer (.literal ⟨text, some tag, none⟩)
  | typed {text datatype : String} (isLegal : Xml.IsLegal text.toList) (isLegalName : Xml.IsLegal datatype.toList)
      (isSome : datatype ≠ "") : IsAnswer (.literal ⟨text, none, some datatype⟩)

theorem IsAnswer.notVariable {term : Term} (isAnswer : term.IsAnswer) : term.isVariable = false := by
  cases isAnswer <;> rfl

/-- The term with the text of a literal in the normal form of its datatype. -/
def normal : Term → Term
  | .literal ⟨text, none, some datatype⟩ => .literal (.typed text datatype)
  | term => term

/-- Whether the term is a literal of a text that has no normal form in its datatype, so that it cannot be built. -/
def isUnbuildable : Term → Bool
  | .literal ⟨text, none, some datatype⟩ => (LexicalSpace.ofDatatype (some datatype)).hasNoForm text.toList
  | _ => false

end Term

namespace Results

/-- What is built, unless a part of it cannot be. -/
def built {α : Type} (isBad : Bool) (value : α) : Outcome α := if isBad then misuse .badValue else .ok value

variable {α β : Type} {isBad : Bool}

theorem map_built {f : α → β} {value : α} : (built isBad value).map f = built isBad (f value) := by
  cases isBad <;> rfl

theorem bind_built {f : α → β} {value : α} :
    (built isBad value).bind (fun value => .ok (f value)) = built isBad (f value) := by
  cases isBad <;> rfl

theorem mapM_built {read : α → Outcome β} {isBad : α → Bool} {value : α → β} {items : List α}
    (each : ∀ item ∈ items, read item = built (isBad item) (value item)) :
    items.mapM read = built (items.any isBad) (items.map value) := by
  induction items with
  | nil => rfl
  | cons item items ih =>
      rw [List.mapM_cons, each item (.head _), ih fun other mem => each other (.tail _ mem), List.any_cons]
      cases isBad item <;> cases items.any isBad <;> rfl

/-- What every decoder makes of a literal's parts. -/
theorem ofLiteral_typed {text datatype : String} :
    (Outcome.ofLiteral (Literal.ofText text none (some datatype))).map Term.literal =
      built (Term.isUnbuildable (.literal ⟨text, none, some datatype⟩))
        (Term.normal (.literal ⟨text, none, some datatype⟩)) := by
  rw [Literal.ofText_typed, Term.isUnbuildable, Term.normal, built]
  split <;> rfl

/-! ### Bindings -/

variable {row : List (String × Term)} {term : Term}

/-- Bindings with textual names. -/
def keyed (row : List (String × Term)) : List (Value × Term) := row.map fun (name, term) => (.text name, term)

/-- A new name comes after those that are there. -/
theorem insertBinding_of_notMem {name : String} (isNew : name ∉ row.map Prod.fst) :
    Solution.insertBinding (.text name) term (keyed row) = keyed (row ++ [(name, term)]) := by
  induction row with
  | nil => rfl
  | cons entry row ih =>
      rcases entry with ⟨other, given⟩
      simp only [List.map_cons, List.mem_cons, not_or] at isNew
      have different : Value.sameKey (.text other) (.text name) = false := by
        simpa [Value.sameKey] using Ne.symm isNew.1
      have isFirst : keyed ((other, given) :: row) = (.text other, given) :: keyed row := rfl
      rw [isFirst, Solution.insertBinding, different, ih isNew.2]
      rfl

theorem foldl_bind (done row : List (String × Term)) (distinct : ((done ++ row).map Prod.fst).Nodup) :
    (keyed row).foldl (fun (solution : Solution) entry => solution.bind entry.1 entry.2) ⟨keyed done⟩ =
      ⟨keyed (done ++ row)⟩ := by
  induction row generalizing done with
  | nil => simp [keyed]
  | cons entry row ih =>
      rcases entry with ⟨name, term⟩
      have isNew : name ∉ done.map Prod.fst := by
        intro mem
        rw [List.map_append, List.nodup_append] at distinct
        exact distinct.2.2 name mem name (.head _) rfl
      have isFirst : keyed ((name, term) :: row) = (.text name, term) :: keyed row := rfl
      have isBound : Solution.bind ⟨keyed done⟩ (.text name) term = ⟨keyed (done ++ [(name, term)])⟩ := by
        rw [Solution.bind, insertBinding_of_notMem isNew]
      rw [isFirst, List.foldl_cons]
      simp only [isBound]
      rw [ih _ (by simpa using distinct), List.append_assoc, List.singleton_append]

/-! ### Tables -/

/-- A row of a table, with the names each once. -/
structure IsRow (row : List (String × Term)) : Prop where
  distinct : (row.map Prod.fst).Nodup
  isLegal : ∀ name ∈ row.map Prod.fst, Xml.IsLegal name.toList
  isAnswer : ∀ term ∈ row.map Prod.snd, term.IsAnswer

/-- Whether a row has a literal that cannot be built. -/
def isUnbuildableRow (row : List (String × Term)) : Bool := row.any fun (_, term) => term.isUnbuildable

/-- The solution of a row. -/
def solutionOf (row : List (String × Term)) : Solution :=
  ⟨row.map fun (name, term) => (.text name, term.normal)⟩

/-- The result of a table. -/
def tableOf (names : List String) (rows : List (List (String × Term))) : Outcome QueryResult :=
  built (rows.any isUnbuildableRow) (.solutions (names.map .text) (rows.map solutionOf))

end Results

end Sparql
