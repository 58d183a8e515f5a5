import Sparql.Proofs.Query.Filters
import Sparql.Proofs.Session.Frozen
import Sparql.Proofs.Session.ReadBack

/-!
# Filters of a session

No filter of a query or of an optional part is ever blank, in any text of a session. A branch of a tagged union that
tests a variable for no IRIs is written nevertheless, with a filter that encloses nothing. Where such a test is left
out, every filter of the text says something.
-/

namespace Sparql

open Session Syntax

/-! ## Trees of a session -/

/-- A tree as a session builds it: its filters say something, and it can be read if its terms, its predicates and its
raw texts can be. -/
structure QueryTree.IsBuilt (tree : QueryTree) : Prop where
  speaks : ∀ part ∈ tree.within, part.FiltersSpeak
  legible : (∀ part ∈ tree.within, part.IsReadable) → ∀ part ∈ tree.within, part.IsLegible

namespace Store

variable {store after : Store} {index : Nat}

theorem WellFormed.isBuilt (wellFormed : store.WellFormed) {tree : QueryTree} (isTree : store.tree index = .ok tree) :
    tree.IsBuilt where
  speaks part mem := by
    rcases tree?_of_mem_within (tree?_of_tree isTree) mem with ⟨_, _, _, isPart⟩
    rcases own_of_tree? isPart with ⟨⟨record, isRecord, same⟩, optionals⟩
    exact ⟨same ▸ (wellFormed.queries record isRecord).filters,
      fun group isGroup => (wellFormed.groups group (optionals group isGroup)).filters⟩
  legible := wellFormed.isLegible isTree

theorem Evolves.wellFormed (evolves : store.Evolves after) (wellFormed : store.WellFormed) : after.WellFormed := by
  induction evolves with
  | refl => exact wellFormed
  | tail _ change ih => exact change.wellFormed ih

/-- A store in which every text that a query keeps is that of a tree as a session builds it. -/
def KeepsBuilt (store : Store) : Prop :=
  ∀ (index : Nat) (text : String), store.frozen? index = some text →
    ∃ tree : QueryTree, tree.render = .ok text ∧ tree.IsBuilt

theorem Move.keepsBuilt (move : store.Move after) (wellFormed : store.WellFormed) (keeps : store.KeepsBuilt) :
    after.KeepsBuilt := by
  intro index text isKept
  rcases move.frozen index text isKept with old | new
  · exact keeps index text old
  · rcases tree_of_render new with ⟨tree, isTree, written⟩
    exact ⟨tree, written, wellFormed.isBuilt isTree⟩

theorem Moves.keepsBuilt (moves : store.Moves after) (wellFormed : store.WellFormed) (keeps : store.KeepsBuilt) :
    after.KeepsBuilt := by
  induction moves with
  | refl => exact keeps
  | tail moves move ih => exact move.keepsBuilt (Evolves.wellFormed (Moves.evolves moves) wellFormed) ih

/-- The text of a query is that of a tree as a session builds it. -/
theorem exists_built {record : QueryRecord} {text : String} (wellFormed : store.WellFormed)
    (keeps : store.KeepsBuilt) (found : store.queries[index]? = some record) (isText : store.text index = .ok text) :
    ∃ tree : QueryTree, tree.render = .ok text ∧ tree.IsBuilt ∧
      (record.frozen = none → store.tree index = .ok tree) := by
  rcases text_eq_ok found isText with isKept | ⟨_, isWritten⟩
  · rcases keeps index text (by simp [frozen?, found, isKept]) with ⟨tree, written, isBuilt⟩
    exact ⟨tree, written, isBuilt, fun notFrozen => by simp [isKept] at notFrozen⟩
  · rcases tree_of_render isWritten with ⟨tree, isTree, written⟩
    exact ⟨tree, written, wellFormed.isBuilt isTree, fun _ => isTree⟩

/-- At all times in a session, the text of a query is that of a tree in which no filter is blank, and of the tree that
the query has unless it keeps the text. In the group of the tree and of every part of it, a word that is a filter says
something or is an empty test of a tagged union. Such a test is shown as a filter with nothing between its
parentheses, and a text that is read has a filter of that kind only if there is such a test. -/
theorem filters_of_session (client : Option Client) (answers : List Answer) (steps : List Step) :
    let start := start client answers
    start.Moves (storeAfter start steps) ∧ ∀ during, start.Moves during →
      ∀ (index : Nat) (record : QueryRecord) (text : String), during.queries[index]? = some record →
        during.text index = .ok text →
        ∃ tree : QueryTree, tree.render = .ok text ∧ (record.frozen = none → during.tree index = .ok tree) ∧
          (∀ part ∈ tree.within, ∀ words, part.groupWords = .ok words →
            ∀ word ∈ words, MayStand (∃ inner ∈ part.within, inner.HasEmptyTest) word) ∧
          ((∃ part ∈ tree.within, part.HasEmptyTest) → (filterText "").toList <:+: text.toList) ∧
          ((∀ part ∈ tree.within, part.IsReadable) →
            ∃ query, (∀ parts, ReadsAs (spaced ["\x7b", text, "\x7d"]) parts ↔ parts = [query]) ∧
              (Stands emptyFilter [query] ↔ ∃ part ∈ tree.within, part.HasEmptyTest)) := by
  intro start
  refine ⟨moves_storeAfter (start_closed client answers) steps, fun during moves index record text found isText => ?_⟩
  have initially : start.WellFormed := by constructor <;> simp [start, Store.start]
  have wellFormed : during.WellFormed := Evolves.wellFormed (Moves.evolves moves) initially
  have keeps : during.KeepsBuilt := moves.keepsBuilt initially (by simp [KeepsBuilt, frozen?, start, Store.start])
  rcases exists_built wellFormed keeps found isText with ⟨tree, written, isBuilt, unlessFrozen⟩
  refine ⟨tree, written, unlessFrozen, ?_, ?_, fun readable => ?_⟩
  · intro part isPart words areWords
    have speaks : ∀ inner ∈ part.within, inner.FiltersSpeak := fun inner isInner =>
      isBuilt.speaks inner (QueryTree.mem_within_trans tree isPart isInner)
    exact QueryTree.mayStand_of_group part speaks (fun inner isInner isEmpty => ⟨inner, isInner, isEmpty⟩) areWords
  · rintro ⟨part, isPart, isEmpty⟩
    rcases QueryTree.isShown_of_render QueryTree.marks_hasEmptyTest written isPart isEmpty with ⟨_, rfl, isShown⟩
    exact isShown
  · exact ⟨_, QueryTree.text_readsAs_iff (isBuilt.legible readable) written,
      (QueryTree.stands_query tree).trans (QueryTree.stands_group tree readable isBuilt.speaks)⟩

end Store

/-! ## A test for nothing -/

/-- A selection with a tagged union whose only branch tests a variable for no IRIs. -/
def emptyTestSession : List Step :=
  let patterns : Expression := .list [.list [.constant (.text "s"), .constant (.text "p"), .constant (.text "o")]]
  let tests : Expression := .map [(.constant (.text "x"), .list [])]
  [.call .queries "select" [] [] none (some "q"),
    .call (.register "q") "union_with_bind" [.list [patterns, .map [], tests]] [] none none]

/-- The test is written, and its filter encloses nothing. -/
theorem text_of_emptyTestSession :
    ((storeAfter (Store.start none []) emptyTestSession).text 0).toOption =
      some "SELECT * WHERE \x7b \x7b ?s ?p ?o . FILTER() \x7d \x7d" := by
  decide +kernel

end Sparql
