import Sparql.Json.Document
import Sparql.Proofs.Value.Entries

/-!
# Names in documents

Whatever its text is, a document that is read has texts for the names in all its mappings, and each name once.
-/

namespace Sparql.Json

/-- The values that documents have, with the names in each mapping distinct. -/
inductive IsDocument : Value → Prop
  | null : IsDocument .null
  | bool (value : Bool) : IsDocument (.bool value)
  | int (value : Int) : IsDocument (.int value)
  | float (value : Double) : IsDocument (.float value)
  | text (value : String) : IsDocument (.text value)
  | list {items : List Value} (each : ∀ item ∈ items, IsDocument item) : IsDocument (.list items)
  | map {entries : List (Value × Value)}
      (areNames : Value.AreKeys (fun key => ∃ name, key = .text name) (entries.map Prod.fst))
      (each : ∀ entry ∈ entries, IsDocument entry.2) : IsDocument (.map entries)

variable {value : Value} {items : List Value} {entries : List (Value × Value)} {name : String}

/-! ## Parts of documents -/

theorem IsDocument.field (isDocument : IsDocument (.map entries)) (isField : Value.field? name entries = some value) :
    IsDocument value := by
  cases isDocument with
  | map _ each =>
      rcases Option.map_eq_some_iff.mp isField with ⟨entry, found, rfl⟩
      exact each entry (List.mem_of_find?_eq_some found)

theorem IsDocument.elements (isDocument : IsDocument value) (areItems : value.elements? = some items) :
    ∀ item ∈ items, IsDocument item := by
  cases isDocument with
  | list each =>
      cases areItems
      exact each
  | map areNames _ =>
      cases areItems
      intro key mem
      rcases areNames.areAllowed key mem with ⟨name, rfl⟩
      exact .text name
  | text spelling =>
      cases areItems
      intro item mem
      simp only [Value.characters, List.mem_map] at mem
      rcases mem with ⟨c, _, rfl⟩
      exact .text _
  | _ => cases areItems

theorem IsDocument.insertEntry (isMap : IsDocument (.map entries)) (isValue : IsDocument value) :
    IsDocument (.map (Value.insertEntry (.text name) value entries)) := by
  cases isMap with
  | map areNames each =>
      refine .map (areNames.insertEntry ⟨name, rfl⟩) fun entry mem => ?_
      rcases Value.mem_insertEntry mem with mem | isNew
      · exact each entry mem
      · exact isNew ▸ isValue

theorem isDocument_empty : IsDocument (.map []) := .map .nil (by simp)

theorem isDocument_scalar {token : Token} (isScalar : Progress.scalar? token = some value) : IsDocument value := by
  cases token <;> cases isScalar
  · exact .null
  · exact .bool _
  · exact .int _
  · exact .float _
  · exact .text _

/-! ## Reading -/

/-- What is open holds documents only. -/
def Frame.IsSound : Frame → Prop
  | .list items => ∀ item ∈ items, IsDocument item
  | .map entries _ => IsDocument (.map entries)

/-- What has been read is a document. -/
def Expectation.IsSound : Expectation → Prop
  | .value _ => True
  | .name entries _ | .colon entries _ => IsDocument (.map entries)
  | .after value => IsDocument value

namespace Progress

/-- All that has been read so far are documents. -/
structure IsSound (progress : Progress) : Prop where
  stack : ∀ frame ∈ progress.stack, frame.IsSound
  expected : progress.expected.IsSound

variable {progress next : Progress} {stack : List Frame} {token : Token} {orEnd : Bool}

theorem isSound_beginValue (areSound : ∀ frame ∈ stack, frame.IsSound)
    (begun : beginValue stack orEnd token = some next) : next.IsSound := by
  unfold beginValue at begun
  split at begun
  · cases begun
    exact ⟨List.forall_mem_cons.mpr ⟨by rintro _ ⟨⟩, areSound⟩, trivial⟩
  · cases begun
    exact ⟨areSound, isDocument_empty⟩
  · split at begun <;> cases begun
    rw [List.forall_mem_cons] at areSound
    exact ⟨areSound.2, .list fun item mem => areSound.1 item (List.mem_reverse.mp mem)⟩
  · rcases Option.map_eq_some_iff.mp begun with ⟨value, isScalar, rfl⟩
    exact ⟨areSound, isDocument_scalar isScalar⟩

theorem isSound_continueAfter (areSound : ∀ frame ∈ stack, frame.IsSound) (isDocument : IsDocument value)
    (continued : continueAfter stack value token = some next) : next.IsSound := by
  unfold continueAfter at continued
  split at continued <;> cases continued <;> rw [List.forall_mem_cons] at areSound
  · exact ⟨List.forall_mem_cons.mpr ⟨List.forall_mem_cons.mpr ⟨isDocument, areSound.1⟩, areSound.2⟩, trivial⟩
  · refine ⟨areSound.2, .list fun item mem => ?_⟩
    rcases List.mem_cons.mp (List.mem_reverse.mp mem) with rfl | mem
    · exact isDocument
    · exact areSound.1 item mem
  · exact ⟨areSound.2, areSound.1.insertEntry isDocument⟩
  · exact ⟨areSound.2, areSound.1.insertEntry isDocument⟩

/-- One more token keeps it so. -/
theorem isSound_step (isSound : progress.IsSound) (stepped : progress.step token = some next) : next.IsSound := by
  have isRead := isSound.expected
  unfold step at stepped
  split at stepped
  · exact isSound_beginValue isSound.stack stepped
  · next isExpected =>
      cases stepped
      rw [isExpected] at isRead
      exact ⟨isSound.stack, isRead⟩
  · next isExpected =>
      cases stepped
      rw [isExpected] at isRead
      exact ⟨isSound.stack, isRead⟩
  · next isExpected =>
      cases stepped
      rw [isExpected] at isRead
      exact ⟨List.forall_mem_cons.mpr ⟨isRead, isSound.stack⟩, trivial⟩
  · next isExpected =>
      rw [isExpected] at isRead
      exact isSound_continueAfter isSound.stack isRead stepped
  · cases stepped

theorem isDocument_run {tokens : List Token} (isSound : progress.IsSound) (isRead : progress.run tokens = .ok value) :
    IsDocument value := by
  induction tokens generalizing progress with
  | nil =>
      unfold run at isRead
      split at isRead <;> cases isRead
      exact isSound.expected
  | cons token rest ih =>
      unfold run at isRead
      split at isRead
      · cases isRead
      · next stepped => exact ih (isSound_step isSound stepped) isRead
      · cases isRead

end Progress

/-- A document that is read has distinct names. -/
theorem isDocument_parse {text : List Char} (isRead : parse text = .ok value) : IsDocument value :=
  have isSound : Progress.IsSound ⟨[], .value false⟩ := ⟨by simp, trivial⟩
  Progress.isDocument_run isSound isRead

end Sparql.Json
