import Sparql.Proofs.Results.Containment
import Sparql.Proofs.Results.XmlTable

/-!
# Tables in JSON and in XML

The documents of a table in both formats are decoded to the same result: the table itself, with the texts of
literals in the normal forms of their datatypes. A literal of a span of time that has no normal form makes both
decoders fail in the same way.
-/

namespace Sparql.Results

/-- A table comes out of its documents as it went in, name for name and term for term, whichever way its document in
XML is laid out. -/
theorem decode_table {layout : Xml.Layout} {names : List String} {rows : List (List (String × Term))}
    {jsonType xmlType : Option String}
    (isJson : ResultFormat.ofMediaType? (mediaType jsonType) = some .json)
    (isXml : ResultFormat.ofMediaType? (mediaType xmlType) = some .xml)
    (isLayout : ∀ depth, Sparql.Xml.IsBlank (layout depth))
    (areLegal : ∀ name ∈ names, Sparql.Xml.IsLegal name.toList) (areRows : ∀ row ∈ rows, IsRow row) :
    ∃ document, Json.tableDocument names rows = .ok document ∧
      let json := decode (Text.Utf8.encodeChars (Sparql.Json.write document)) jsonType
      let xml := decode (Text.Utf8.encodeChars (Xml.tableDocument layout names rows)) xmlType
      json = xml ∧ json = if rows.any isUnbuildableRow then misuse .badValue
        else .ok (.solutions (names.map .text) (rows.map solutionOf)) := by
  have areWritable : ∀ row ∈ rows, Json.IsWritable row :=
    fun row isIn => Json.isWritable_of_isRow (areRows row isIn)
  have fromJson := (decode_of_format isJson).trans (Json.decode_tableValue names areRows)
  have fromXml := (decode_of_format isXml).trans (Xml.decode_tableDocument isLayout areLegal areRows)
  exact ⟨_, Json.tableDocument_eq areWritable, fromJson.trans fromXml.symm, fromJson⟩

/-- A row with an IRI in which marks are escaped, an integer that is not in normal form and a text in English of two
lines. -/
def variedRow : List (String × Term) := [
  ("x", .iri "http://a/?q=1&r=2"),
  ("y", .literal ⟨"042", none, some (Vocabulary.xsd "integer")⟩),
  ("z", .literal ⟨"one\r\n<two>", some "en-GB", none⟩)]

theorem isRow_variedRow : IsRow variedRow where
  distinct := by decide
  isLegal := by decide
  isAnswer := List.forall_mem_cons.mpr ⟨.iri (by decide), List.forall_mem_cons.mpr
    ⟨.typed (by decide) (by decide) (by decide), List.forall_mem_singleton.mpr (.tagged (by decide) (by decide +kernel))⟩⟩

theorem decode_variedRow :
    ∃ document, Json.tableDocument ["x", "y", "z"] [variedRow, []] = .ok document ∧
      let layout (depth : Nat) := '\n' :: List.replicate depth ' '
      let json := decode (Text.Utf8.encodeChars (Sparql.Json.write document)) (some "application/json; charset=utf-8")
      let xml := decode (Text.Utf8.encodeChars (Xml.tableDocument layout ["x", "y", "z"] [variedRow, []]))
        (some "application/sparql-results+xml")
      json = xml ∧ json = .ok (.solutions [.text "x", .text "y", .text "z"] [
        ⟨[(.text "x", .iri "http://a/?q=1&r=2"), (.text "y", .literal ⟨"42", none, some (Vocabulary.xsd "integer")⟩),
          (.text "z", .literal ⟨"one\r\n<two>", some "en-GB", none⟩)]⟩, ⟨[]⟩]) := by
  have isJson : ResultFormat.ofMediaType? (mediaType (some "application/json; charset=utf-8")) = some .json := by
    decide +kernel
  have isXml : ResultFormat.ofMediaType? (mediaType (some "application/sparql-results+xml")) = some .xml := by
    decide +kernel
  have isLayout : ∀ depth, Sparql.Xml.IsBlank ('\n' :: List.replicate depth ' ') := by
    simp [Sparql.Xml.IsBlank]
  have isEmptyRow : IsRow [] := ⟨by decide, by decide, List.forall_mem_nil _⟩
  have areRows : ∀ row ∈ [variedRow, []], IsRow row :=
    List.forall_mem_cons.mpr ⟨isRow_variedRow, List.forall_mem_singleton.mpr isEmptyRow⟩
  have isWritten : [variedRow, []].any isUnbuildableRow = false := by decide +kernel
  have isNormal : Literal.typed "042" (Vocabulary.xsd "integer") = ⟨"42", none, some (Vocabulary.xsd "integer")⟩ := by
    decide +kernel
  have areLegal : ∀ name ∈ ["x", "y", "z"], Sparql.Xml.IsLegal name.toList := by decide
  rcases decode_table isJson isXml isLayout areLegal areRows with ⟨document, isDocument, agree, isTable⟩
  refine ⟨document, isDocument, agree, isTable.trans ?_⟩
  rw [isWritten, ← isNormal]
  rfl

/-- A row with a span of time that goes back by a month and a day, which has no normal form. -/
def backwardRow : List (String × Term) := [("x", .literal ⟨"-P1M1D", none, some (Vocabulary.xsd "duration")⟩)]

theorem decode_backwardRow :
    IsRow backwardRow ∧ ∃ document, Json.tableDocument ["x"] [backwardRow] = .ok document ∧
      let json := decode (Text.Utf8.encodeChars (Sparql.Json.write document)) (some "application/sparql-results+json")
      let xml := decode (Text.Utf8.encodeChars (Xml.tableDocument (fun _ => []) ["x"] [backwardRow]))
        (some "application/sparql-results+xml")
      json = misuse .badValue ∧ xml = misuse .badValue := by
  have isRow : IsRow backwardRow :=
    ⟨by decide, by decide, List.forall_mem_singleton.mpr (.typed (by decide) (by decide) (by decide))⟩
  have areRows : ∀ row ∈ [backwardRow], IsRow row := List.forall_mem_singleton.mpr isRow
  have isBad : tableOf ["x"] [backwardRow] = misuse .badValue := by
    have noForm : [backwardRow].any isUnbuildableRow = true := by decide +kernel
    rw [tableOf, noForm]
    rfl
  have isJson : ResultFormat.ofMediaType? (mediaType (some "application/sparql-results+json")) = some .json := by
    decide +kernel
  have isXml : ResultFormat.ofMediaType? (mediaType (some "application/sparql-results+xml")) = some .xml := by
    decide +kernel
  have areWritable : ∀ row ∈ [backwardRow], Json.IsWritable row :=
    fun row isIn => Json.isWritable_of_isRow (areRows row isIn)
  refine ⟨isRow, _, Json.tableDocument_eq areWritable, ?_, ?_⟩
  · exact (decode_of_format isJson).trans ((Json.decode_tableValue ["x"] areRows).trans isBad)
  · have noLayout : ∀ _ : Nat, Sparql.Xml.IsBlank [] := fun _ => List.forall_mem_nil _
    exact (decode_of_format isXml).trans ((Xml.decode_tableDocument noLayout (by decide) areRows).trans isBad)

end Sparql.Results
