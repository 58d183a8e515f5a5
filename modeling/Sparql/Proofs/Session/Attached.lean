import Sparql.Proofs.Query.Subselect
import Sparql.Proofs.Session.Frozen
import Sparql.Proofs.Session.ReadBack

/-!
# Sub-queries in a session

A sub-query is written in full wherever it hangs, as the kind of query that it is. Calls for a sub-query attach
a selection; a query that is given as an argument may be of any form and name graphs and prefixes, and then no
legal sub-select comes of it.
-/

namespace Sparql

open Relation Session

namespace Session

variable {store after : Store} {parent : Nat} {arguments : Arguments} {reply : Reply}

/-- A call for a sub-query adds a selection and changes the query that the call is made on. -/
theorem perform_subqueryCall_ok (done : perform (subqueryCall parent arguments) store = (.ok reply, after)) :
    ∃ clauses : Clauses, clauses.form = .select ∧ clauses.prologue = [] ∧ clauses.fromGraphs = [] ∧
      reply = .query store.queries.length ∧
      after = { store with
        queries := (store.queries ++ [({ clauses } : QueryRecord)]).modify parent fun record =>
          { record with subqueries := record.subqueries ++ [store.queries.length] } } := by
  simp only [subqueryCall, options, perform_bind_eq_ok, perform_ofOutcome, Prod.mk.injEq, perform_addQuery,
    perform_changeQuery, perform_pure, Except.ok.injEq] at done
  rcases done with
    ⟨named, _, ⟨_, rfl⟩, clauses, _, ⟨made, rfl⟩, _, _, ⟨rfl, rfl⟩, _, _, ⟨_, rfl⟩, rfl, rfl⟩
  simp only [Clauses.select, Outcome.bind_eq_ok, Outcome.pure_eq_ok] at made
  rcases made with ⟨names, _, counts, _, rfl⟩
  exact ⟨_, rfl, rfl, rfl, rfl, rfl⟩

/-- A call for a sub-query returns a selection without graphs and declarations, which is attached last. -/
theorem selects_of_subqueryCall {record : QueryRecord} (found : store.queries[parent]? = some record)
    (done : perform (subqueryCall parent arguments) store = (.ok reply, after)) :
    ∃ sub changed selection, reply = .query sub ∧ after.queries[parent]? = some changed ∧
      changed.subqueries = record.subqueries ++ [sub] ∧ after.queries[sub]? = some selection ∧
      selection.clauses.form = .select ∧ selection.clauses.prologue = [] ∧ selection.clauses.fromGraphs = [] := by
  rcases perform_subqueryCall_ok done with ⟨clauses, isSelect, noDeclarations, noGraphs, rfl, rfl⟩
  have within := (List.getElem?_eq_some_iff.mp found).1
  have isOther : parent ≠ store.queries.length := by omega
  refine ⟨store.queries.length, { record with subqueries := record.subqueries ++ [store.queries.length] },
    { clauses }, rfl, ?_, rfl, ?_, isSelect, noDeclarations, noGraphs⟩
  · simp [List.getElem?_append_left within, found]
  · simp [isOther]

end Session

namespace Store

variable {store after : Store} {index above sub : Nat} {tree part : QueryTree}

/-! ## What hangs on a query -/

/-- A query is a sub-query of another one, or of something that hangs on that. -/
def Attaches (store : Store) (index sub : Nat) : Prop :=
  ∃ above record, ReflTransGen store.Nests index above ∧ store.queries[above]? = some record ∧ sub ∈ record.subqueries

theorem IsTree.clauses (isTree : store.IsTree index tree) :
    ∃ record, store.queries[index]? = some record ∧ tree.clauses = record.clauses := by
  cases isTree with
  | @node _ record _ _ _ _ _ found => exact ⟨record, found, rfl⟩

theorem IsTree.exists_subquery {record : QueryRecord} (isTree : store.IsTree index tree)
    (found : store.queries[index]? = some record) (mem : sub ∈ record.subqueries) :
    ∃ part ∈ tree.subqueries, store.IsTree sub part := by
  cases isTree with
  | node isRecord _ areSubqueries =>
      cases found.symm.trans isRecord
      exact exists_right_of_forall₂ areSubqueries mem

/-- What hangs on a query directly stands in its tree. -/
theorem IsTree.exists_part (isTree : store.IsTree index tree) (nests : store.Nests index sub) :
    ∃ part ∈ tree.within, store.IsTree sub part := by
  rcases nests with ⟨record, found, mem⟩
  cases isTree with
  | node isRecord _ areSubqueries areUnions areMinuses _ areServices =>
      cases found.symm.trans isRecord
      simp only [QueryRecord.nested, List.mem_append] at mem
      simp only [QueryTree.within, List.mem_cons, List.mem_append, mem_withinAll, mem_withinServices]
      rcases mem with ((mem | mem) | mem) | mem
      · rcases exists_right_of_forall₂ areSubqueries mem with ⟨part, isPart, isSub⟩
        exact ⟨part, .inr (.inl (.inl (.inl ⟨part, isPart, part.mem_within⟩))), isSub⟩
      · rcases exists_right_of_forall₂ areUnions mem with ⟨part, isPart, isSub⟩
        exact ⟨part, .inr (.inl (.inl (.inr ⟨part, isPart, part.mem_within⟩))), isSub⟩
      · rcases exists_right_of_forall₂ areMinuses mem with ⟨part, isPart, isSub⟩
        exact ⟨part, .inr (.inl (.inr ⟨part, isPart, part.mem_within⟩)), isSub⟩
      · rcases exists_right_of_forall₂ areServices mem with ⟨part, isPart, isSub⟩
        rcases List.mem_map.mp isPart with ⟨service, isService, rfl⟩
        exact ⟨service.2, .inr (.inr ⟨service, isService, service.2.mem_within⟩), isSub⟩

theorem IsTree.exists_within (isTree : store.IsTree index tree) (reaches : ReflTransGen store.Nests index above) :
    ∃ part ∈ tree.within, store.IsTree above part := by
  induction reaches with
  | refl => exact ⟨tree, tree.mem_within, isTree⟩
  | tail _ nests ih =>
      rcases ih with ⟨part, isPart, isAbove⟩
      rcases isAbove.exists_part nests with ⟨inner, isInner, isBelow⟩
      exact ⟨inner, QueryTree.mem_within_trans tree isPart isInner, isBelow⟩

/-- Each sub-query that hangs on a query is one of its tree. -/
theorem IsTree.exists_attached (isTree : store.IsTree index tree) (attaches : store.Attaches index sub) :
    ∃ part ∈ tree.attached, store.IsTree sub part := by
  rcases attaches with ⟨above, record, reaches, found, mem⟩
  rcases isTree.exists_within reaches with ⟨part, isPart, isAbove⟩
  rcases isAbove.exists_subquery found mem with ⟨inner, isInner, isSub⟩
  exact ⟨inner, List.mem_flatMap.mpr ⟨part, isPart, isInner⟩, isSub⟩

/-- Each sub-query of a tree hangs on the query. -/
theorem exists_attaches (isTree : store.tree index = .ok tree) (mem : part ∈ tree.attached) :
    ∃ sub, store.Attaches index sub ∧ store.IsTree sub part := by
  rcases List.mem_flatMap.mp mem with ⟨outer, isOuter, isPart⟩
  rcases tree?_of_mem_within (tree?_of_tree isTree) isOuter with ⟨_, above, reaches, isAbove⟩
  cases isTree_of_tree? isAbove with
  | @node _ record _ _ _ _ _ found _ areSubqueries =>
      rcases exists_left_of_forall₂ areSubqueries isPart with ⟨sub, isSub, isPart⟩
      exact ⟨sub, ⟨above, record, reaches, found, isSub⟩, isPart⟩

/-- The text of each sub-query that hangs on a query stands between braces in the query's text. It begins with the form
of the sub-query if that makes no declarations, and is a legal sub-select if that names no graphs either and selects. -/
theorem IsTree.shows_attached {text : String} (isTree : store.IsTree index tree) (written : tree.render = .ok text)
    (attaches : store.Attaches index sub) :
    ∃ selection part subText, store.queries[sub]? = some selection ∧ store.IsTree sub part ∧
      part.render = .ok subText ∧ (subqueryText subText).toList <:+: text.toList ∧
      (selection.clauses.prologue = [] → Begins selection.clauses.form.keyword.toList subText.toList) ∧
      (selection.clauses.prologue = [] → selection.clauses.fromGraphs = [] → selection.clauses.form = .select →
        part.IsSubselect subText) := by
  rcases isTree.exists_attached attaches with ⟨part, mem, isSub⟩
  rcases isSub.clauses with ⟨selection, isSelection, sameClauses⟩
  rcases QueryTree.infix_of_render written part mem with ⟨subText, isSubText, isPart⟩
  refine ⟨selection, part, subText, isSelection, isSub, isSubText, isPart, ?_, ?_⟩
  · intro noDeclarations
    rcases QueryTree.exists_words_of_render isSubText with ⟨words, rfl⟩
    simpa [prologueWords, sameClauses, noDeclarations] using begins_spaced (begins_self _) words
  · intro noDeclarations noGraphs isSelect
    rw [← sameClauses] at noDeclarations noGraphs isSelect
    exact QueryTree.isSubselect_of_render isSelect noDeclarations noGraphs isSubText

/-- The declarations of a query are in front of its text, and there are no others in it if its sub-queries make none. -/
theorem declarations_of_tree {text : String} (isTree : store.tree index = .ok tree) (written : tree.render = .ok text)
    (noDeclarations : ∀ sub selection, store.Attaches index sub → store.queries[sub]? = some selection →
      selection.clauses.prologue = []) :
    ∃ rest, tree.undeclared.render = .ok rest ∧ text = spaced (prologueWords tree.clauses ++ [rest]) := by
  refine QueryTree.render_undeclared (fun part mem => ?_) written
  rcases exists_attaches isTree mem with ⟨sub, attaches, isSub⟩
  rcases isSub.clauses with ⟨selection, isSelection, sameClauses⟩
  rw [sameClauses, noDeclarations sub selection attaches isSelection]

/-- A text that a query has is that of its tree, now or, if the query keeps the text, at some time before. -/
theorem exists_shown {client : Option Client} {answers : List Answer} {during : Store} {record : QueryRecord}
    {text : String} (moves : (start client answers).Moves during) (found : during.queries[index]? = some record)
    (isText : during.text index = .ok text) :
    ∃ shown tree, (start client answers).Moves shown ∧ shown.Moves during ∧ (record.frozen = none → shown = during) ∧
      shown.tree index = .ok tree ∧ tree.render = .ok text := by
  rcases text_eq_ok found isText with isKept | ⟨_, written⟩
  · have noTexts : ∀ index, (start client answers).frozen? index = none := fun index => rfl
    have isFrozen : during.frozen? index = some text := by rw [frozen?, found, Option.bind_some, isKept]
    rcases moves.exists_rendered noTexts isFrozen with ⟨shown, before, later, written⟩
    rcases tree_of_render written with ⟨tree, isTree, rendered⟩
    exact ⟨shown, tree, before, later, fun notKept => by simp [notKept] at isKept, isTree, rendered⟩
  · rcases tree_of_render written with ⟨tree, isTree, rendered⟩
    exact ⟨during, tree, moves, .refl, fun _ => rfl, isTree, rendered⟩

/-! ## Sessions -/

/-- A selection stays one. -/
theorem Moves.selects {record : QueryRecord} (moves : store.Moves after)
    (found : store.queries[index]? = some record) (selects : record.clauses.form = .select) :
    ∃ later, after.queries[index]? = some later ∧ later.clauses.form = .select := by
  rcases moves.evolves.extends.later index record found with ⟨later, isLater, isExtended⟩
  exact ⟨later, isLater, by rw [isExtended.form, selects]⟩

/-- Every sub-query that hangs on a query is written out between braces in the query's text, whatever was called on it
after it was attached. A selection that names no graphs and makes no declarations is a legal sub-select there, and every
call for a sub-query attaches such a selection, which stays one as far as its form goes. If no sub-query makes
declarations, those of the text are in front of it. A text that a query keeps shows what hung on it when it was kept. -/
theorem attached_of_session (client : Option Client) (answers : List Answer) (steps : List Step) :
    let start := start client answers
    start.Moves (storeAfter start steps) ∧ ∀ during, start.Moves during →
      (∀ (index : Nat) (record : QueryRecord) (text : String), during.queries[index]? = some record →
        during.text index = .ok text → ∃ shown tree, start.Moves shown ∧ shown.Moves during ∧
          (record.frozen = none → shown = during) ∧
          shown.tree index = .ok tree ∧ shown.IsTree index tree ∧ tree.render = .ok text ∧
          (∀ sub, shown.Attaches index sub → ∃ selection part subText, shown.queries[sub]? = some selection ∧
            shown.IsTree sub part ∧ part.render = .ok subText ∧ (subqueryText subText).toList <:+: text.toList ∧
            (selection.clauses.prologue = [] → Begins selection.clauses.form.keyword.toList subText.toList) ∧
            (selection.clauses.prologue = [] → selection.clauses.fromGraphs = [] → selection.clauses.form = .select →
              part.IsSubselect subText)) ∧
          ((∀ sub selection, shown.Attaches index sub → shown.queries[sub]? = some selection →
              selection.clauses.prologue = []) →
            ∃ rest, tree.undeclared.render = .ok rest ∧ text = spaced (prologueWords tree.clauses ++ [rest]))) ∧
      ∀ (parent : Nat) (record : QueryRecord) (arguments : Arguments) (reply : Reply) (after : Store),
        during.queries[parent]? = some record →
        perform (queryCall parent "with_subquery" arguments none) during = (.ok reply, after) →
        ∃ sub changed selection, reply = .query sub ∧ after.queries[parent]? = some changed ∧
          changed.subqueries = record.subqueries ++ [sub] ∧ after.queries[sub]? = some selection ∧
          selection.clauses.form = .select ∧ selection.clauses.prologue = [] ∧ selection.clauses.fromGraphs = [] ∧
          ∀ later, after.Moves later →
            ∃ found, later.queries[sub]? = some found ∧ found.clauses.form = .select := by
  intro start
  refine ⟨moves_storeAfter (start_closed client answers) steps, ?_⟩
  intro during moves
  constructor
  · intro index record text found isText
    rcases exists_shown moves found isText with ⟨shown, tree, before, later, isNow, isTree, written⟩
    refine ⟨shown, tree, before, later, isNow, isTree, isTree_of_tree isTree, written, ?_, ?_⟩
    · exact fun sub attaches => (isTree_of_tree isTree).shows_attached written attaches
    · exact declarations_of_tree isTree written
  · intro parent record arguments reply after found done
    have isCall : queryCall parent "with_subquery" arguments none = subqueryCall parent arguments := rfl
    rw [isCall] at done
    rcases selects_of_subqueryCall found done with
      ⟨sub, changed, selection, isReply, isChanged, isAttached, isSelection, selects, noDeclarations, noGraphs⟩
    refine ⟨sub, changed, selection, isReply, isChanged, isAttached, isSelection, selects, noDeclarations, noGraphs, ?_⟩
    intro later laterMoves
    exact laterMoves.selects isSelection selects

end Store

/-! ## Sub-queries that are no sub-selects -/

/-- A query that is given a question, a selection with a prefix and a selection with a graph as sub-queries. -/
def freelyNestedSession : List Step := [
  .call .queries "select" [] [] none (some "outer"),
  .call .queries "ask" [] [] none (some "question"),
  .call .queries "select" [] [] none (some "declared"),
  .call (.register "declared") "prefix" [.constant (.text "ex: <http://h/>")] [] none none,
  .call .queries "select" [] [] none (some "graphed"),
  .call (.register "graphed") "from_" [.constant (.text "http://g")] [] none none,
  .call (.register "outer") "where" [.register "question", .register "declared", .register "graphed"] [] none none]

/-- The store after these calls. -/
def freelyNested : Store := storeAfter (Store.start none []) freelyNestedSession

/-- Of the sub-queries of this text the first does not select, the second makes a declaration behind the form of
the whole text, and the third names a graph before its condition. -/
theorem text_of_freelyNestedSession :
    freelyNested.queries[0]?.map (·.subqueries) = some [1, 2, 3] ∧
    (freelyNested.text 0).toOption = some ("SELECT * WHERE \x7b \x7b ASK WHERE \x7b \x7d \x7d ."
      ++ " \x7b PREFIX ex: <http://h/> SELECT * WHERE \x7b \x7d \x7d ."
      ++ " \x7b SELECT * FROM <http://g> WHERE \x7b \x7d \x7d . \x7d") ∧
    (freelyNested.text 1).toOption = some "ASK WHERE \x7b \x7d" ∧
    ¬ "SELECT".toList <+: "ASK WHERE \x7b \x7d".toList := by
  decide +kernel

end Sparql
