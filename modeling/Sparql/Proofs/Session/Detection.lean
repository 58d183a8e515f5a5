import Sparql.Proofs.Exchange.Prologue
import Sparql.Proofs.Update.Made

/-!
# Kinds of texts in a session

What the client takes a text for is what the session has it from: a query of a form, or an operation. So the
client never sends the text of an operation as a query.
-/

namespace Sparql

open Session

/-! ## Operations -/

namespace UpdateOperation

/-- No call makes an operation that has templates and leaves them empty. -/
theorem IsBuilt.hasTemplate {operation : UpdateOperation} (isBuilt : operation.IsBuilt) :
    operation.HasTemplate := by
  intro delete insert condition graph isAction
  have isChecked := isBuilt.isChecked
  rwa [isAction] at isChecked

end UpdateOperation

/-! ## The client -/

/-- The client refuses to send an update as a query, and sends nothing. -/
theorem Session.perform_sendGiven_of_update {text : String} (isUpdate : TextKind.detect text = .ok .update)
    (store : Store) :
    perform (sendGiven (.text text)) store = (.error (.construction .updateAsQuery), store) := by
  have isText : (Value.text text).text? = some text := rfl
  simp only [sendGiven, isText]
  rw [perform_bind_ok (by rw [perform_ofOutcome, isUpdate])]
  rfl

/-! ## Sessions -/

namespace Store

/-- Every text is taken for what a session has it from. -/
theorem detect_of_session (client : Option Client) (answers : List Answer) (steps : List Step) :
    let start := start client answers
    start.Moves (storeAfter start steps) ∧ ∀ during, start.Moves during →
      (∀ (index : Nat) (record : QueryRecord) (text : String), during.queries[index]? = some record →
        during.text index = .ok text →
        (∀ declaration ∈ record.clauses.prologue, Prologue.IsDeclaration declaration.toList) →
        TextKind.detect text = .ok (.query record.clauses.form)) ∧
      (∀ operation ∈ during.operations, operation.IsBuilt) ∧
      ∀ operation : UpdateOperation, operation.IsBuilt → ∀ text, operation.toText = .ok text →
        TextKind.detect text = .ok .update ∧
        ∀ store : Store, store.client.isSome →
          perform (clientCall "query" { positional := [.text text] } none) store =
            (.error (.construction .updateAsQuery), store) := by
  intro start
  refine ⟨moves_storeAfter (start_closed client answers) steps, fun during moves => ⟨?_, ?_, ?_⟩⟩
  · intro index record text found isText areDeclarations
    have keeps : during.KeepsTexts := keepsTexts_of_session client answers moves
    rcases keeps.exists_tree found isText with ⟨tree, written, isExtended, _⟩
    rw [isExtended.form]
    exact tree.detect_render (fun declaration mem => areDeclarations declaration (isExtended.prologue.subset mem))
      written
  · exact holdsOperations_of_session client answers moves
  · intro operation isBuilt text written
    have isUpdate := UpdateOperation.detect_toText isBuilt.hasTemplate written
    refine ⟨isUpdate, fun store present => ?_⟩
    rcases Option.isSome_iff_exists.mp present with ⟨client, isClient⟩
    rw [perform_clientCall_query _ isClient]
    exact perform_sendGiven_of_update isUpdate store

end Store

end Sparql
