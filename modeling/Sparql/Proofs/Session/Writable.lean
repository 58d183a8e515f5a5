import Sparql.Proofs.Query.Ingredient
import Sparql.Proofs.Session.Script
import Sparql.Proofs.Session.Tree

/-!
# Which queries have a text

The builders do not look into IRIs, bound numbers by nothing but zero, and let a query become a part of itself.
So a query may have no text although no call on it was refused. This file says exactly which queries and
operations have one.
-/

namespace Sparql

open Session

theorem Outcome.isOk_ofRender {α : Type} (rendered : Except RenderError α) :
    (Outcome.ofRender rendered).isOk = rendered.isOk := by
  cases rendered <;> rfl

namespace Store

variable {store : Store} {index : Nat}

/-- Whether a query is written from its clauses: it has a tree, and all that goes into it can be written. -/
def Writable (store : Store) (index : Nat) : Prop :=
  store.Acyclic index ∧
    ∀ tree, store.tree index = .ok tree → ∀ ingredient ∈ tree.ingredients, ingredient.isWritable

theorem Closed.render_isOk_iff (closed : store.Closed) (known : index < store.queries.length) :
    (store.render index).isOk ↔ store.Writable index := by
  unfold render
  rw [Outcome.isOk_ofRender, Writable, ← closed.tree_isOk_iff known]
  rcases isTree : store.tree index with cause | tree
  · simp [Except.isOk, Except.toBool, bind, Except.bind]
  · have rendered : (Except.ok tree >>= QueryTree.render).isOk =
        tree.ingredients.all (·.isWritable) := tree.render_isOk
    simp [rendered, List.all_eq_true]

theorem Closed.text_isOk_iff (closed : store.Closed) {record : QueryRecord}
    (found : store.queries[index]? = some record) :
    (store.text index).isOk ↔ record.frozen.isSome ∨ store.Writable index := by
  have known := (List.getElem?_eq_some_iff.mp found).1
  rw [← closed.render_isOk_iff known, text, found, Option.bind_some]
  cases record.frozen with
  | none => simp
  | some text => simp [Except.isOk, Except.toBool]

end Store

theorem UpdateOperation.toText_isOk_iff (operation : UpdateOperation) :
    operation.toText.isOk ↔
      operation.action ≠ .abstract ∧ ∀ ingredient ∈ operation.ingredients, ingredient.isWritable := by
  rw [← words?_isSome, toText]
  rcases isWords : operation.words? with _ | words
  · simp [Except.isOk, Except.toBool, misuse]
  · simp only [Outcome.isOk_map, Outcome.isOk_ofRender, words_isOk isWords, List.all_eq_true,
      Option.isSome_some, true_and]

/-- In every session, a query has a text exactly if it was answered or can be written from its clauses, and an
operation has one exactly if it is of a particular kind and can be written. -/
theorem Store.text_isOk_of_session (client : Option Client) (answers : List Answer) (steps : List Step) :
    let store := storeAfter (start client answers) steps
    (∀ index record, store.queries[index]? = some record →
      ((store.text index).isOk ↔ record.frozen.isSome ∨ store.Writable index)) ∧
    ∀ operation ∈ store.operations, (operation.toText.isOk ↔
      operation.action ≠ .abstract ∧ ∀ ingredient ∈ operation.ingredients, ingredient.isWritable) := by
  intro store
  have closed := closed_of_session client answers steps
  exact ⟨fun index record found => closed.text_isOk_iff found,
    fun operation _ => operation.toText_isOk_iff⟩

/-- A session that reads a graph under a name with a space. No call of it fails. -/
def spacedGraphSession : List Step :=
  [.call .queries "select" [] [] none (some "q"),
    .call (.register "q") "from_" [.constant (.text "http://a b")] [] none none]

/-- All its calls return the query, which has a text before the last of them and none after it. -/
theorem text_of_spacedGraphSession :
    (reportAll (Store.start none []) spacedGraphSession).map (·.1) =
        [.query (.ok "SELECT * WHERE \x7b \x7d"),
          .query (misuse (.render (.unwritableIri "http://a b")))] ∧
      (storeAfter (Store.start none []) spacedGraphSession).text 0 =
        misuse (.render (.unwritableIri "http://a b")) :=
  ⟨rfl, rfl⟩

end Sparql
