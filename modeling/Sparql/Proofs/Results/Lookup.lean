import Sparql.Proofs.Json.Distinct
import Sparql.Proofs.Outcome
import Sparql.Proofs.Results.JsonTable
import Sparql.Proofs.Term.VariableName
import Sparql.Results.Decode
import Sparql.Session.Expression

/-!
# Looking up solutions

A row of a table has each of its keys once. A text is looked up without the question marks before it, so a term is
found under its key exactly if the row has it under the key without marks too. Tables in delimited text have no
others. Rows in JSON and XML keep the names as they came, and a row in XML may have a key that is no name.
-/

namespace Sparql

open Outcome

variable {name : String} {key : Value} {term : Term} {bindings : List (Value × Term)} {allowed : Value → Prop}

namespace Solution

/-! ## Bindings -/

/-- Bindings as entries of a mapping. -/
theorem map_insertBinding : (insertBinding key term bindings).map (fun binding => (binding.1, Value.term binding.2)) =
    Value.insertEntry key (.term term) (bindings.map fun binding => (binding.1, .term binding.2)) := by
  induction bindings with
  | nil => rfl
  | cons first rest ih =>
      rw [insertBinding, List.map_cons, Value.insertEntry]
      split
      · rfl
      · rw [List.map_cons, ih]

variable {solution : Solution}

theorem areKeys_bind (areKeys : Value.AreKeys allowed solution.keys) (isAllowed : allowed key) :
    Value.AreKeys allowed (solution.bind key term).keys := by
  have keysOf (bindings : List (Value × Term)) : bindings.map (·.1) =
      (bindings.map fun binding => (binding.1, Value.term binding.2)).map Prod.fst := by simp
  rw [keys, keysOf] at areKeys ⊢
  rw [bind, map_insertBinding]
  exact areKeys.insertEntry isAllowed

theorem areKeys_foldl {α : Type} {items : List α} {step : Solution → α → Solution}
    (areKeys : Value.AreKeys allowed solution.keys)
    (kept : ∀ solution, ∀ item ∈ items, Value.AreKeys allowed solution.keys →
      Value.AreKeys allowed (step solution item).keys) :
    Value.AreKeys allowed (items.foldl step solution).keys := by
  induction items generalizing solution with
  | nil => exact areKeys
  | cons item rest ih =>
      exact ih (kept solution item (.head _) areKeys) fun solution other mem => kept solution other (.tail _ mem)

/-! ## Lookup -/

theorem find?_cons_text : find? ⟨(.text name, term) :: bindings⟩ name = some term := by
  simp [find?]

theorem find?_cons_of_ne (different : key ≠ .text name) : find? ⟨(key, term) :: bindings⟩ name = find? ⟨bindings⟩ name := by
  cases key with
  | text spelling =>
      have isOther : spelling ≠ name := fun same => different (same ▸ rfl)
      simp [find?, isOther]
  | _ => rfl

/-- With distinct keys, the term under a name is the one that is bound to it. -/
theorem find?_eq_some (distinct : solution.keys.Pairwise fun first second => Value.sameKey first second = false) :
    solution.find? name = some term ↔ (.text name, term) ∈ solution.bindings := by
  rcases solution with ⟨bindings⟩
  induction bindings with
  | nil => simp [find?]
  | cons first rest ih =>
      rcases first with ⟨key, bound⟩
      rw [keys, List.map_cons, List.pairwise_cons] at distinct
      rw [List.mem_cons, Prod.mk.injEq]
      by_cases isKey : key = .text name
      · have notLater : (.text name, term) ∉ rest := by
          intro mem
          have apart := distinct.1 (.text name) (List.mem_map.mpr ⟨_, mem, rfl⟩)
          rw [isKey, Value.sameKey_text.mpr rfl] at apart
          cases apart
        rw [isKey, find?_cons_text]
        simp [notLater, eq_comm]
      · rw [find?_cons_of_ne isKey, ih distinct.2]
        simp [Ne.symm isKey]

theorem wantedName_eq (isText : key.text? = some name) : wantedName key = stripMarks name := by
  cases key <;> cases isText <;> rfl

theorem get?_eq (isText : key.text? = some name) : solution.get? key = solution.find? (stripMarks name) := by
  rw [get?, wantedName_eq isText]

theorem contains_eq (isText : key.text? = some name) : solution.contains key = (solution.get? key).isSome := by
  rw [contains, isText]
  rfl

/-- Texts that are the same without their marks ask for the same binding. -/
theorem lookup_eq {other : Value} {spelling : String} (isText : key.text? = some name)
    (isOther : other.text? = some spelling) (same : stripMarks spelling = stripMarks name) :
    solution.get? other = solution.get? key ∧ solution.contains other = solution.contains key := by
  have isGot : solution.get? other = solution.get? key := by rw [get?_eq isText, get?_eq isOther, same]
  rw [contains_eq isText, contains_eq isOther, isGot]
  exact ⟨rfl, rfl⟩

theorem stripMarks_of_namedVariable {spelling : Value} (isVariable : Expression.namedVariable name = .ok spelling) :
    ∃ own, spelling.text? = some own ∧ stripMarks own = stripMarks name := by
  unfold Expression.namedVariable at isVariable
  split at isVariable <;> cases isVariable
  · next rest isMarked =>
      refine ⟨String.ofList rest, rfl, ?_⟩
      rw [stripMarks, stripMarks, isMarked, String.toList_ofList]
      rfl
  · exact ⟨name, rfl, rfl⟩

/-- A term is found under its key exactly if it is bound to the key without marks. -/
theorem isFound_iff (distinct : solution.keys.Pairwise fun first second => Value.sameKey first second = false)
    (isKey : key = .null ∨ ∃ name, key = .text name) :
    solution.contains key = true ∧ solution.get? key = some term ↔
      ∃ name, key = .text name ∧ (.text (stripMarks name), term) ∈ solution.bindings := by
  rcases isKey with rfl | ⟨name, rfl⟩
  · simp [contains, Value.text?]
  · have isText : (Value.text name).text? = some name := rfl
    simp only [contains_eq isText, get?_eq isText, ← find?_eq_some distinct]
    grind

end Solution

/-! ## Keys of rows -/

/-- The keys that a row in a format may have. -/
inductive ResultFormat.HasKey : ResultFormat → Value → Prop
  | json (name : String) : HasKey .json (.text name)
  | xml (name : String) : HasKey .xml (.text name)
  /-- The key of a binding without a name. -/
  | unnamed : HasKey .xml .null
  | tabular (dialect : Tabular.Dialect) {name : String} (noMark : name.toList.head? ≠ some '?') :
      HasKey (.tabular dialect) (.text name)

theorem ResultFormat.HasKey.isName {format : ResultFormat} (hasKey : format.HasKey key) :
    key = .null ∨ ∃ name, key = .text name := by
  cases hasKey with
  | unnamed => exact .inl rfl
  | json name | xml name => exact .inr ⟨name, rfl⟩
  | tabular _ _ => exact .inr ⟨_, rfl⟩

namespace Results

variable {row : Solution}

/-! ### JSON -/

theorem Json.areKeys_solution {value : Value} (isDocument : Sparql.Json.IsDocument value)
    (isRead : Json.solution value = .ok row) : Value.AreKeys (ResultFormat.HasKey .json) row.keys := by
  unfold Json.solution at isRead
  split at isRead
  · next entries =>
      rcases bind_eq_ok.mp isRead with ⟨bindings, areBindings, isRow⟩
      cases isRow
      have sameKeys : bindings.map (·.1) = entries.map Prod.fst := by
        refine map_eq_of_mapM areBindings fun entry binding isBinding => ?_
        rcases entry with ⟨key, description⟩
        cases description with
        | map members =>
            rcases map_eq_ok.mp isBinding with ⟨term, _, rfl⟩
            rfl
        | _ => cases isBinding
      cases isDocument with
      | map areNames _ =>
          rw [Solution.keys, sameKeys]
          refine ⟨areNames.distinct, fun key mem => ?_⟩
          rcases areNames.areAllowed key mem with ⟨name, rfl⟩
          exact .json name
  · cases isRead

theorem Json.isDocument_rows {members : List (Value × Value)} {rows : List Value}
    (isDocument : Sparql.Json.IsDocument (.map members)) (areRows : Json.rows members = .ok rows) :
    ∀ value ∈ rows, Sparql.Json.IsDocument value := by
  unfold Json.rows at areRows
  split at areRows
  · next results isResults =>
      split at areRows
      · next isRows =>
          cases areRows
          rcases Option.bind_eq_some_iff.mp isRows with ⟨bindings, isField, areElements⟩
          exact ((isDocument.field isResults).field isField).elements areElements
      · cases areRows
  · cases areRows

theorem Json.areKeys_ofDocument {document : Value} {declared : List Value} {rows : List Solution}
    (isDocument : Sparql.Json.IsDocument document) (isTable : Json.ofDocument document = .ok (.solutions declared rows))
    (mem : row ∈ rows) : Value.AreKeys (ResultFormat.HasKey .json) row.keys := by
  unfold Json.ofDocument at isTable
  split at isTable
  · split at isTable
    · cases isTable
    · cases isTable
    · rcases bind_eq_ok.mp isTable with ⟨names, _, isTable⟩
      rcases bind_eq_ok.mp isTable with ⟨values, areRows, isTable⟩
      rcases bind_eq_ok.mp isTable with ⟨solutions, areSolutions, isTable⟩
      cases isTable
      rcases exists_of_mem_mapM areSolutions mem with ⟨value, isRow, isRead⟩
      exact areKeys_solution (isDocument_rows isDocument areRows value isRow) isRead
  · cases isTable

theorem Json.areKeys_decode {body : List UInt8} {declared : List Value} {rows : List Solution}
    (isTable : Json.decode body = .ok (.solutions declared rows)) (mem : row ∈ rows) :
    Value.AreKeys (ResultFormat.HasKey .json) row.keys := by
  unfold Json.decode at isTable
  split at isTable
  · cases isTable
  · split at isTable
    · exact areKeys_ofDocument (Sparql.Json.isDocument_parse ‹_›) isTable mem
    all_goals cases isTable

/-! ### XML -/

theorem Xml.hasKey_binding {node : Sparql.Xml.Node} {binding : Value × Term} (isRead : Xml.binding node = .ok binding) :
    ResultFormat.HasKey .xml binding.1 := by
  unfold Xml.binding at isRead
  split at isRead
  · cases isRead
  · rcases map_eq_ok.mp isRead with ⟨term, _, rfl⟩
    rw [Xml.attributeValue]
    split
    · exact .xml _
    · exact .unnamed

theorem Xml.areKeys_solution {node : Sparql.Xml.Node} (isRead : Xml.solution node = .ok row) :
    Value.AreKeys (ResultFormat.HasKey .xml) row.keys := by
  rcases bind_eq_ok.mp isRead with ⟨bindings, areBindings, isRow⟩
  cases isRow
  refine Solution.areKeys_foldl .nil fun solution binding mem areKeys => ?_
  rcases exists_of_mem_mapM areBindings mem with ⟨node, _, isRead⟩
  exact Solution.areKeys_bind areKeys (hasKey_binding isRead)

theorem Xml.areKeys_decode {body : List UInt8} {declared : List Value} {rows : List Solution}
    (isTable : Xml.decode body = .ok (.solutions declared rows)) (mem : row ∈ rows) :
    Value.AreKeys (ResultFormat.HasKey .xml) row.keys := by
  unfold Xml.decode at isTable
  split at isTable
  · cases isTable
  · unfold Xml.ofRoot at isTable
    split at isTable
    · unfold Xml.booleanOf at isTable
      split at isTable <;> cases isTable
    · cases isTable
    · rcases bind_eq_ok.mp isTable with ⟨solutions, areSolutions, isTable⟩
      cases isTable
      rcases exists_of_mem_mapM areSolutions mem with ⟨node, _, isRead⟩
      exact areKeys_solution isRead

/-! ### Delimited text -/

theorem Tabular.head?_variableName (cell : List Char) : (Tabular.variableName cell).toList.head? ≠ some '?' := by
  rw [Tabular.variableName, String.toList_ofList]
  intro isMark
  have notMark := List.head?_dropWhile_not (fun c => decide (c = '?')) (Text.trim cell)
  rw [isMark] at notMark
  simp at notMark

theorem Tabular.areKeys_solution {dialect : Sparql.Tabular.Dialect} {names : List String} {cells : List (List Char)}
    (noMarks : ∀ name ∈ names, name.toList.head? ≠ some '?') :
    Value.AreKeys (ResultFormat.HasKey (.tabular dialect)) (Tabular.solution names cells).keys := by
  refine Solution.areKeys_foldl .nil fun solution item mem areKeys => ?_
  rcases item with ⟨name, cell⟩
  have noMark := noMarks name (List.of_mem_zip mem).1
  dsimp only
  split
  · exact areKeys
  · exact Solution.areKeys_bind areKeys (.tabular dialect noMark)

theorem Tabular.exists_of_mem_solutions {names : List String} {number : Nat} {lines : List (List (List Char))}
    {rows : List Solution} (areSolutions : Tabular.solutions names number lines = .ok rows) (mem : row ∈ rows) :
    ∃ cells, row = Tabular.solution names cells := by
  induction lines generalizing number rows with
  | nil =>
      cases areSolutions
      cases mem
  | cons cells rest ih =>
      unfold Tabular.solutions at areSolutions
      split at areSolutions
      · rcases bind_eq_ok.mp areSolutions with ⟨others, areOthers, isList⟩
        cases isList
        rcases List.mem_cons.mp mem with rfl | mem
        · exact ⟨cells, rfl⟩
        · exact ih areOthers mem
      · cases areSolutions

theorem Tabular.areKeys_decode {dialect : Sparql.Tabular.Dialect} {body : List UInt8} {declared : List Value}
    {rows : List Solution} (isTable : Tabular.decode dialect body = .ok (.solutions declared rows)) (mem : row ∈ rows) :
    Value.AreKeys (ResultFormat.HasKey (.tabular dialect)) row.keys := by
  unfold Tabular.decode at isTable
  split at isTable
  · cases isTable
  · split at isTable
    · cases isTable
    · unfold Tabular.ofRows at isTable
      split at isTable
      · cases isTable
        cases mem
      · rcases bind_eq_ok.mp isTable with ⟨solutions, areSolutions, isTable⟩
        cases isTable
        rcases exists_of_mem_solutions areSolutions mem with ⟨cells, rfl⟩
        refine areKeys_solution fun name isName => ?_
        rcases List.mem_map.mp isName with ⟨cell, _, rfl⟩
        exact head?_variableName cell

/-- A table in any format has rows with distinct keys of the kind that the format has. -/
theorem areKeys_decode {format : ResultFormat} {body : List UInt8} {declared : List Value} {rows : List Solution}
    (isTable : format.decode body = .ok (.solutions declared rows)) (mem : row ∈ rows) :
    Value.AreKeys format.HasKey row.keys := by
  cases format with
  | json => exact Json.areKeys_decode isTable mem
  | xml => exact Xml.areKeys_decode isTable mem
  | tabular dialect => exact Tabular.areKeys_decode isTable mem
  | boolean =>
      unfold ResultFormat.decode Boolean.decode at isTable
      dsimp only at isTable
      split at isTable <;> cases isTable
  | graph _ =>
      unfold ResultFormat.decode Graph.decode at isTable
      dsimp only at isTable
      split at isTable <;> cases isTable

/-! ## Lookup -/

/-- In a row of any table, keys are distinct. A term is found under its key exactly if the row has it under the key
without marks, and so under every name that has none. Whether a text is in the row and whether it is found are the
same, for all ways to spell a variable. -/
theorem lookup_of_decode {format : ResultFormat} {body : List UInt8} {declared : List Value} {rows : List Solution}
    (isTable : format.decode body = .ok (.solutions declared rows)) (mem : row ∈ rows) :
    (row.keys.Pairwise fun first second => Value.sameKey first second = false) ∧
    (∀ key ∈ row.keys, format.HasKey key) ∧
    (∀ key term, (key, term) ∈ row.bindings →
      (row.contains key = true ∧ row.get? key = some term ↔
        ∃ name, key = .text name ∧ (.text (stripMarks name), term) ∈ row.bindings)) ∧
    (∀ name term, name.toList.head? ≠ some '?' → (.text name, term) ∈ row.bindings →
      row.contains (.text name) = true ∧ row.get? (.text name) = some term) ∧
    ∀ key name, key.text? = some name → row.contains key = (row.get? key).isSome ∧
      ∀ other, other = .text name ∨ other = .text ("?" ++ name) ∨ Expression.namedVariable name = .ok other →
        row.get? other = row.get? key ∧ row.contains other = row.contains key := by
  have areKeys := areKeys_decode isTable mem
  refine ⟨areKeys.distinct, areKeys.areAllowed, fun key term isBound => ?_, fun name term noMark isBound => ?_,
    fun key name isText => ⟨Solution.contains_eq isText, fun other isSpelling => ?_⟩⟩
  · have hasKey := areKeys.areAllowed key (List.mem_map.mpr ⟨_, isBound, rfl⟩)
    exact Solution.isFound_iff areKeys.distinct hasKey.isName
  · refine (Solution.isFound_iff areKeys.distinct (.inr ⟨name, rfl⟩)).mpr ⟨name, rfl, ?_⟩
    rw [stripMarks_eq_self noMark]
    exact isBound
  · rcases isSpelling with rfl | rfl | isVariable
    · exact Solution.lookup_eq isText rfl rfl
    · exact Solution.lookup_eq isText rfl (stripMarks_marked name)
    · rcases Solution.stripMarks_of_namedVariable isVariable with ⟨own, isOwn, same⟩
      exact Solution.lookup_eq isText isOwn same

/-- A row with a name that has a mark and one that has none. -/
def markedRow : List (String × Term) := [("?x", .iri "http://a"), ("y", .iri "http://b")]

/-- The document of a table with this row. -/
def markedBody : List UInt8 := Text.Utf8.encodeChars (Sparql.Json.write (Json.tableValue ["x", "y"] [markedRow]))

theorem decode_markedBody :
    ResultFormat.json.decode markedBody = .ok (.solutions [.text "x", .text "y"] [solutionOf markedRow]) := by
  have areAnswers : ∀ term ∈ markedRow.map Prod.snd, term.IsAnswer :=
    List.forall_mem_cons.mpr ⟨.iri (by decide), List.forall_mem_singleton.mpr (.iri (by decide))⟩
  have isRow : IsRow markedRow := ⟨by decide, by decide, areAnswers⟩
  have isWritten : [markedRow].any isUnbuildableRow = false := by decide +kernel
  refine (Json.decode_tableValue ["x", "y"] (List.forall_mem_singleton.mpr isRow)).trans ?_
  rw [tableOf, isWritten]
  rfl

theorem lookup_of_markedBody :
    ResultFormat.json.decode markedBody = .ok (.solutions [.text "x", .text "y"] [solutionOf markedRow]) ∧
    (solutionOf markedRow).contains (.text "y") = true ∧
    (solutionOf markedRow).get? (.text "y") = some (.iri "http://b") ∧
    (solutionOf markedRow).get? (.term (.variable "y")) = some (.iri "http://b") := by
  have laws := lookup_of_decode decode_markedBody (.head _)
  have found := laws.2.2.2.1 "y" (.iri "http://b") (by decide) (.tail _ (.head _))
  have asVariable := (laws.2.2.2.2 (.text "y") "y" rfl).2 (.term (.variable "y")) (.inr (.inr rfl))
  exact ⟨decode_markedBody, found.1, found.2, asVariable.1.trans found.2⟩

/-- A row has a key that is not in it and is not found. -/
theorem key_notFound :
    ∃ declared rows, ResultFormat.json.decode markedBody = .ok (.solutions declared rows) ∧
      ∃ row ∈ rows, .text "?x" ∈ row.keys ∧ row.contains (.text "?x") = false ∧ row.get? (.text "?x") = none :=
  ⟨_, _, decode_markedBody, _, .head _, .head _, by decide +kernel, by decide +kernel⟩

end Results

end Sparql
