import Sparql.Proofs.Json.ReadBack
import Sparql.Proofs.Results.Table
import Sparql.Results.Json

/-!
# Tables in JSON

A table without variables has a document, whose text is parsed as the document and read as the table.
-/

namespace Sparql.Results.Json

open Sparql.Json

/-! ## Documents -/

/-- The description of a term that is no variable. -/
def description : Term → Value
  | .iri value => members [("type", .text "uri"), ("value", .text value)]
  | .blank label => members [("type", .text "bnode"), ("value", .text label)]
  | .literal literal => describeLiteral literal
  | .variable _ => .null

/-- The description of a row without variables. -/
def rowValue (row : List (String × Term)) : Value := members (row.map fun (name, term) => (name, description term))

/-- The document of a table without variables. -/
def tableValue (names : List String) (rows : List (List (String × Term))) : Value :=
  members [
    ("head", members [("vars", .list (names.map .text))]),
    ("results", members [("bindings", .list (rows.map rowValue))])]

variable {names : List String} {rows : List (List (String × Term))} {row : List (String × Term)} {term : Term}

/-- A row without variables, with the names each once. -/
structure IsWritable (row : List (String × Term)) : Prop where
  noVariable : ∀ entry ∈ row, entry.2.isVariable = false
  distinct : (row.map Prod.fst).Nodup

theorem describe_eq (notVariable : term.isVariable = false) : describe term = .ok (description term) := by
  rcases term with value | label | literal | name
  · rfl
  · rfl
  · rfl
  · cases notVariable

theorem describeRow_eq (noVariable : ∀ entry ∈ row, entry.2.isVariable = false) :
    describeRow row = .ok (rowValue row) := by
  have described : (row.mapM fun (name, term) => do return (name, ← describe term)) =
      .ok (row.map fun (name, term) => (name, description term)) := by
    refine Outcome.mapM_eq_map fun entry isIn => ?_
    simp only [describe_eq (noVariable entry isIn)]
    rfl
  rw [describeRow]
  exact (congrArg (Except.bind · _) described).trans rfl

theorem tableDocument_eq (areWritable : ∀ row ∈ rows, IsWritable row) :
    tableDocument names rows = .ok (tableValue names rows) := by
  have described := Outcome.mapM_eq_map fun row isIn => describeRow_eq (areWritable row isIn).noVariable
  rw [tableDocument, described]
  rfl

/-! ## Texts of documents -/

theorem isReadBack_members {entries : List (String × Value)} {height : Nat}
    (each : ∀ entry ∈ entries, IsReadBack entry.2 height) (distinct : (entries.map Prod.fst).Nodup) :
    IsReadBack (members entries) (height + 1) :=
  isReadBack_map each distinct

theorem isReadBack_description (notVariable : term.isVariable = false) : IsReadBack (description term) 1 := by
  rcases term with value | label | literal | name
  · exact isReadBack_members (by simp [isReadBack_text]) (by simp)
  · exact isReadBack_members (by simp [isReadBack_text]) (by simp)
  · rcases literal with ⟨text, language, datatype⟩
    cases language <;> cases datatype <;> exact isReadBack_members (by simp [isReadBack_text]) (by simp)
  · cases notVariable

theorem isReadBack_rowValue (isWritable : IsWritable row) : IsReadBack (rowValue row) 2 := by
  refine isReadBack_members ?_ (by simpa [Function.comp_def] using isWritable.distinct)
  rintro _ mem
  rcases List.mem_map.mp mem with ⟨entry, isIn, rfl⟩
  exact isReadBack_description (isWritable.noVariable entry isIn)

/-- The text of a table's document is parsed as the document. -/
theorem parse_tableValue (areWritable : ∀ row ∈ rows, IsWritable row) :
    parse (write (tableValue names rows)) = .ok (tableValue names rows) := by
  have isHead : IsReadBack (members [("vars", .list (names.map .text))]) 4 := by
    have areNames : IsReadBack (.list (names.map .text)) 1 := isReadBack_list (by simp [isReadBack_text])
    have isMembers : IsReadBack (members [("vars", .list (names.map .text))]) 2 :=
      isReadBack_members (by simpa using areNames) (by simp)
    exact isMembers.mono (by omega)
  have isResults : IsReadBack (members [("bindings", .list (rows.map rowValue))]) 4 := by
    refine isReadBack_members ?_ (by simp)
    have areRows : ∀ value ∈ rows.map rowValue, IsReadBack value 2 := by
      intro value mem
      rcases List.mem_map.mp mem with ⟨row, isIn, rfl⟩
      exact isReadBack_rowValue (areWritable row isIn)
    simpa using isReadBack_list areRows
  have isTable : IsReadBack (tableValue names rows) 5 :=
    isReadBack_members (by simp [isHead, isResults]) (by simp)
  exact isTable.parse (by decide)

/-! ## Results -/

theorem exists_term_description (isAnswer : term.IsAnswer) :
    ∃ entries, description term = .map entries ∧ Json.term entries = built term.isUnbuildable term.normal := by
  cases isAnswer with
  | iri _ => exact ⟨_, rfl, rfl⟩
  | blank _ => exact ⟨_, rfl, rfl⟩
  | plain _ => exact ⟨_, rfl, rfl⟩
  | @tagged text tag _ isTag =>
      have isLiteral : (Value.text text).toLiteral (some tag) none = .ok ⟨text, some tag, none⟩ := by
        rw [Value.toLiteral, Literal.ofText_tagged (Literal.ne_empty_of_isLanguageTag isTag), if_pos isTag]
        rfl
      have isTerm : Json.term [(.text "type", .text "literal"), (.text "value", .text text),
          (.text "xml:lang", .text tag)] =
            ((Value.text text).toLiteral (some tag) none).bind fun literal => .ok (.literal literal) := rfl
      exact ⟨_, rfl, isTerm.trans (isLiteral ▸ rfl)⟩
  | @typed text datatype _ _ _ =>
      have isTerm : Json.term [(.text "type", .text "literal"), (.text "value", .text text),
          (.text "datatype", .text datatype)] =
            (Outcome.ofLiteral (Literal.ofText text none (some datatype))).map Term.literal := by
        have isLiteral : Json.term [(.text "type", .text "literal"), (.text "value", .text text),
            (.text "datatype", .text datatype)] =
              (Outcome.ofLiteral (Literal.ofText text none (some datatype))).bind fun literal => .ok (.literal literal) :=
          rfl
        rw [isLiteral]
        cases Outcome.ofLiteral (Literal.ofText text none (some datatype)) <;> rfl
      exact ⟨_, rfl, isTerm.trans ofLiteral_typed⟩

/-- The binding of an entry of a row. -/
theorem binding_description (name : String) (isAnswer : term.IsAnswer) :
    (match description term with
      | .map members => (Json.term members).map fun term => (Value.text name, term)
      | _ => reject .malformedJson) = built term.isUnbuildable (Value.text name, term.normal) := by
  rcases exists_term_description isAnswer with ⟨entries, isMap, isTerm⟩
  rw [isMap]
  simp only [isTerm, map_built]

theorem solution_rowValue (isRow : IsRow row) :
    solution (rowValue row) = built (isUnbuildableRow row) (solutionOf row) := by
  have bindings := mapM_built fun (entry : String × Term) isIn =>
    binding_description entry.1 (isRow.isAnswer entry.2 (List.mem_map_of_mem isIn))
  have isSolution : solution (rowValue row) =
      (row.mapM fun entry : String × Term => match description entry.2 with
        | .map members => (Json.term members).map fun term => (Value.text entry.1, term)
        | _ => reject .malformedJson).bind fun bindings => .ok ⟨bindings⟩ := by
    simp only [rowValue, members, solution, List.map_map, List.mapM_map]
    rfl
  rw [isSolution, bindings, bind_built]
  rfl

theorem ofDocument_tableValue (areRows : ∀ row ∈ rows, IsRow row) :
    ofDocument (tableValue names rows) = tableOf names rows := by
  have solutions := mapM_built fun row isIn => solution_rowValue (areRows row isIn)
  have isTable : ofDocument (tableValue names rows) =
      ((rows.map rowValue).mapM solution).bind fun solutions => .ok (.solutions (names.map .text) solutions) := rfl
  rw [isTable, List.mapM_map]
  exact (congrArg (Except.bind · _) solutions).trans bind_built

theorem isWritable_of_isRow (isRow : IsRow row) : IsWritable row where
  distinct := isRow.distinct
  noVariable entry isIn := (isRow.isAnswer entry.2 (List.mem_map_of_mem isIn)).notVariable

/-- The bytes of a table's document are read as the table. -/
theorem decode_tableValue (names : List String) (areRows : ∀ row ∈ rows, IsRow row) :
    Json.decode (Text.Utf8.encodeChars (write (tableValue names rows))) = tableOf names rows := by
  have parsed : parse (write (tableValue names rows)) = .ok (tableValue names rows) :=
    parse_tableValue fun row isIn => isWritable_of_isRow (areRows row isIn)
  simp only [Json.decode, Text.Utf8.decode?_encodeChars, parsed, ofDocument_tableValue areRows]

end Sparql.Results.Json
