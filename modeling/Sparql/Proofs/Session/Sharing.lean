import Sparql.Proofs.Query.Alike
import Sparql.Proofs.Session.Attached
import Sparql.Proofs.Session.Slots
import Sparql.Proofs.Session.Target

/-!
# Shared queries

Queries are attached by reference: what is called on a query shows in the texts of all the queries that it hangs on,
and in no others. Such a text changes at the places of the query that is called on, and keeps its modifiers. Where a
sub-query hangs on its parent at one place, that is between its braces there.
-/

namespace Sparql

open Relation Session

namespace Store

variable {store after : Store} {object : ObjectRef} {index parent part : Nat} {record later : QueryRecord}

/-- An object hangs on a query: it is the query or a part of it at any depth, or an optional part of one of these. -/
def Reaches (store : Store) (index : Nat) (object : ObjectRef) : Prop :=
  ∃ part, ReflTransGen store.Nests index part ∧ (object = .query part ∨
    ∃ record, store.queries[part]? = some record ∧ ∃ number ∈ record.optionals, object = .group number)

/-- A sub-query hangs on a query at one place only. -/
structure HoldsOnce (store : Store) (parent part : Nat) : Prop where
  different : parent ≠ part
  attached : ∃ record before behind, store.queries[parent]? = some record ∧
    record.subqueries = before ++ part :: behind ∧
    ∀ other ∈ before ++ behind ++ record.unions ++ record.minuses ++ record.services.map (·.2),
      ¬ store.Reaches other (.query part)

/-- All that changes of a query and its text is what one part of it comes to, wherever that part stands. The modifiers
are behind all of this. A query that was answered keeps its text. -/
structure DiffersAt (store : Store) (parent part : Nat) (after : Store) : Prop where
  record : after.queries[parent]? = store.queries[parent]?
  answered : ∀ record, store.queries[parent]? = some record → record.frozen.isSome →
    after.text parent = store.text parent
  text : ∀ record text later, store.queries[parent]? = some record → record.frozen = none →
    store.text parent = .ok text → after.text parent = .ok later →
    ∃ front back modifiers, modifierWords record.clauses = .ok modifiers ∧ text = spaced (front ++ modifiers) ∧
      later = spaced (back ++ modifiers) ∧ QueryTree.Alike (store.tree part) (after.tree part) front back

/-- All that changes of the text of a query stands between the braces of one sub-query. -/
def ChangesInside (store : Store) (parent part : Nat) (after : Store) : Prop :=
  ∀ record text, store.queries[parent]? = some record → record.frozen = none → store.text parent = .ok text →
    ∃ inner front back modifiers, store.render part = .ok inner ∧ modifierWords record.clauses = .ok modifiers ∧
      text = spaced (front ++ subqueryText inner :: back ++ modifiers) ∧
      after.text parent = (after.render part).map fun inner =>
        spaced (front ++ subqueryText inner :: back ++ modifiers)

/-! ## What hangs on a query -/

theorem isApart_of_not_reaches (outside : ¬ store.Reaches index object) : store.IsApart [object] index := by
  intro inner reached
  constructor
  · rintro (_ | ⟨_, ⟨⟩⟩)
    exact outside ⟨inner, reached, .inl rfl⟩
  · rintro record found number mem (_ | ⟨_, ⟨⟩⟩)
    exact outside ⟨inner, reached, .inr ⟨record, found, number, mem, rfl⟩⟩

theorem reaches_query_iff : store.Reaches index (.query part) ↔ ReflTransGen store.Nests index part := by
  constructor
  · rintro ⟨inner, reached, same | ⟨_, _, _, _, ⟨⟩⟩⟩
    cases same
    exact reached
  · intro reached
    exact ⟨part, reached, .inl rfl⟩

/-- Nothing comes to hang on a query that is apart from what is changed. -/
theorem Keeps.reached {changed : List ObjectRef} (keeps : store.Keeps changed after) (closed : store.Closed)
    (known : index < store.queries.length) (apart : store.IsApart changed index)
    (reached : ReflTransGen after.Nests index part) :
    ReflTransGen store.Nests index part ∧ part < store.queries.length := by
  induction reached with
  | refl => exact ⟨.refl, known⟩
  | @tail above below _ nests ih =>
      rcases ih with ⟨before, isKnown⟩
      have same := keeps.getElem?_queries isKnown (apart above before).1
      have nested : store.Nests above below := by
        rcases nests with ⟨record, found, mem⟩
        exact ⟨record, same.symm.trans found, mem⟩
      exact ⟨before.tail nested, closed.nests_lt nested⟩

/-- A call on a sub-query leaves it where it is. -/
theorem HoldsOnce.kept (holds : store.HoldsOnce parent part) (closed : store.Closed)
    (keeps : store.Keeps [.query part] after) : after.HoldsOnce parent part := by
  rcases holds with ⟨different, record, before, behind, found, isAttached, outside⟩
  refine ⟨different, record, before, behind, keeps.queries parent record found (by simpa using different),
    isAttached, ?_⟩
  intro other mem inside
  have nests : store.Nests parent other := by
    refine ⟨record, found, ?_⟩
    simp only [QueryRecord.nested, isAttached, List.mem_append, List.mem_cons] at mem ⊢
    tauto
  have reached := keeps.reached closed (closed.nests_lt nests) (isApart_of_not_reaches (outside other mem))
    (reaches_query_iff.mp inside)
  exact outside other mem (reaches_query_iff.mpr reached.1)

/-- A new query that is attached to a query hangs there at one place, unless the query hangs on itself. -/
theorem holdsOnce_of_attached (closed : store.Closed) (keeps : store.Keeps [.query parent] after)
    (found : store.queries[parent]? = some record)
    (foundLater : after.queries[parent]? =
      some { record with subqueries := record.subqueries ++ [store.queries.length] })
    (notWithin : ¬ TransGen store.Nests parent parent) : after.HoldsOnce parent store.queries.length := by
  have known := (List.getElem?_eq_some_iff.mp found).1
  refine ⟨known.ne, _, record.subqueries, [], foundLater, rfl, ?_⟩
  intro other mem inside
  have nests : store.Nests parent other := by
    refine ⟨record, found, ?_⟩
    simpa [QueryRecord.nested] using mem
  have apart : store.IsApart [.query parent] other := by
    apply isApart_of_not_reaches
    intro reached
    exact notWithin (.head' nests (reaches_query_iff.mp reached))
  have reached := keeps.reached closed (closed.nests_lt nests) apart (reaches_query_iff.mp inside)
  exact Nat.lt_irrefl _ reached.2

/-! ## Texts around a sub-query -/

theorem render_eq_part? : store.render index = Outcome.ofRender (match store.part? index with
    | some tree => tree.render
    | none => .error .endlessNesting) := by
  unfold render
  rw [part?_eq_tree?, tree]
  cases store.tree? (store.queries.length + 1) index <;> rfl

/-- The tree of a query around one of its sub-queries. -/
theorem HoldsOnce.part?_eq (holds : store.HoldsOnce parent part) (closed : store.Closed)
    (afterClosed : after.Closed) (keeps : store.Keeps [.query part] after) {tree : QueryTree}
    (isTree : store.part? parent = some tree) (isRecord : store.queries[parent]? = some record) :
    ∃ optionals before sub behind unions minuses services, store.part? part = some sub ∧
      tree = .node record.clauses optionals (before ++ sub :: behind) unions minuses services ∧
      after.part? parent = (after.part? part).map fun other =>
        .node record.clauses optionals (before ++ other :: behind) unions minuses services := by
  rcases holds with ⟨different, record, before, behind, found, isAttached, outside⟩
  cases isRecord.symm.trans found
  have foundLater := keeps.queries parent record found (by simpa using different)
  -- Nothing beside the sub-query reaches it, so the change leaves the trees of all that is beside it.
  have same : ∀ other ∈ before ++ behind ++ record.unions ++ record.minuses ++ record.services.map (·.2),
      ∀ tree, store.part? other = some tree → after.part? other = some tree := by
    intro other mem tree isPart
    have nests : store.Nests parent other := by
      refine ⟨record, found, ?_⟩
      simp only [QueryRecord.nested, isAttached, List.mem_append, List.mem_cons] at mem ⊢
      tauto
    rwa [keeps.part?_eq closed (closed.nests_lt nests) (isApart_of_not_reaches (outside other mem))]
  simp only [List.mem_append, List.mem_map] at same
  rw [closed.part?_eq_node found, isAttached] at isTree
  simp only [List.mapM_append, List.mapM_cons, Option.bind_eq_bind, Option.bind_eq_some_iff, Option.pure_def,
    Option.some.injEq] at isTree
  rcases isTree with ⟨optionals, areOptionals, _, ⟨front, isFront, _, ⟨sub, isSub, back, isBack, rfl⟩, rfl⟩,
    unions, areUnions, minuses, areMinuses, services, areServices, rfl⟩
  have stillOptionals : (record.optionals.mapM fun group => after.groups[group]?) = some optionals :=
    mapM_eq_some_of areOptionals fun number _ group isGroup => keeps.groups number group isGroup (by simp)
  have stillFront : before.mapM after.part? = some front :=
    mapM_eq_some_of isFront fun other mem => same other (.inl (.inl (.inl (.inl mem))))
  have stillBack : behind.mapM after.part? = some back :=
    mapM_eq_some_of isBack fun other mem => same other (.inl (.inl (.inl (.inr mem))))
  have stillUnions : record.unions.mapM after.part? = some unions :=
    mapM_eq_some_of areUnions fun other mem => same other (.inl (.inl (.inr mem)))
  have stillMinuses : record.minuses.mapM after.part? = some minuses :=
    mapM_eq_some_of areMinuses fun other mem => same other (.inl (.inr mem))
  have stillServices : (record.services.mapM fun service =>
      (after.part? service.2).map fun tree => (service.1, tree)) = some services := by
    apply mapM_eq_some_of areServices
    intro service mem result isResult
    rcases Option.map_eq_some_iff.mp isResult with ⟨tree, isPart, rfl⟩
    rw [same service.2 (.inr ⟨service, mem, rfl⟩) tree isPart]
    rfl
  refine ⟨optionals, front, sub, back, unions, minuses, services, isSub, rfl, ?_⟩
  rw [afterClosed.part?_eq_node foundLater, isAttached]
  simp only [List.mapM_append, List.mapM_cons, stillOptionals, stillFront, stillBack, stillUnions, stillMinuses,
    stillServices]
  cases after.part? part <;> rfl

theorem text_of_unanswered (found : store.queries[index]? = some record) (notFrozen : record.frozen = none) :
    store.text index = store.render index := by
  simp only [Store.text, found, Option.bind_some, notFrozen]

theorem part?_of_text {text : String} (found : store.queries[index]? = some record) (notFrozen : record.frozen = none)
    (isText : store.text index = .ok text) : ∃ tree, store.part? index = some tree ∧ tree.render = .ok text := by
  rw [text_of_unanswered found notFrozen, render_eq_part?] at isText
  rcases isTree : store.part? index with _ | tree
  · rw [isTree] at isText
    cases isText
  · rw [isTree] at isText
    exact ⟨tree, rfl, Outcome.ofRender_eq_ok.mp isText⟩

theorem HoldsOnce.changesInside (holds : store.HoldsOnce parent part) (closed : store.Closed)
    (afterClosed : after.Closed) (keeps : store.Keeps [.query part] after) :
    store.ChangesInside parent part after := by
  intro record text found notFrozen isText
  have foundLater := keeps.queries parent record found (by simpa using holds.different)
  rcases part?_of_text found notFrozen isText with ⟨tree, isTree, written⟩
  rcases holds.part?_eq closed afterClosed keeps isTree found with
    ⟨optionals, before, sub, behind, unions, minuses, services, isSub, rfl, isTreeLater⟩
  rcases QueryTree.render_replaced written with ⟨inner, front, back, modifiers, isInner, areModifiers, rfl, replaced⟩
  refine ⟨inner, front, back, modifiers, ?_, areModifiers, rfl, ?_⟩
  · rw [render_eq_part?, isSub]
    simp only [isInner]
    rfl
  · rw [text_of_unanswered foundLater notFrozen, render_eq_part?, render_eq_part?, isTreeLater]
    rcases after.part? part with _ | other
    · rfl
    · simp only [Option.map_some, replaced]
      cases other.render <;> rfl

/-! ## Texts around a part at any places -/

/-- A query that is not changed itself keeps its clauses and its optional parts. -/
theorem Keeps.alikeParts {depth : Nat} {tree later : QueryTree} (keeps : store.Keeps [.query part] after)
    (different : index ≠ part) (found : store.queries[index]? = some record)
    (isTree : store.tree? (depth + 1) index = some tree) (isLater : after.tree? (depth + 1) index = some later)
    (inside : ∀ inner, store.Nests index inner → ∀ tree later, store.tree? depth inner = some tree →
      after.tree? depth inner = some later → QueryTree.AlikeTrees (store.tree part) (after.tree part) tree later) :
    tree.clauses = record.clauses ∧ QueryTree.AlikeParts (store.tree part) (after.tree part) tree later := by
  have foundLater := keeps.queries index record found (by simpa using different)
  simp only [tree?, found, foundLater, Option.bind_eq_bind, Option.bind_some, Option.bind_eq_some_iff, Option.pure_def,
    Option.some.injEq] at isTree isLater
  rcases isTree with ⟨optionals, areOptionals, subqueries, areSubqueries, unions, areUnions, minuses, areMinuses,
    services, areServices, rfl⟩
  rcases isLater with ⟨_, sameOptionals, subqueriesLater, areSubqueriesLater, unionsLater, areUnionsLater,
    minusesLater, areMinusesLater, servicesLater, areServicesLater, rfl⟩
  have stillOptionals : (record.optionals.mapM fun group => after.groups[group]?) = some optionals :=
    mapM_eq_some_of areOptionals fun number _ group isGroup => keeps.groups number group isGroup (by simp)
  cases sameOptionals.symm.trans stillOptionals
  have nested (inner : Nat) (mem : inner ∈ record.nested) := inside inner ⟨record, found, mem⟩
  simp only [QueryRecord.nested, List.mem_append, List.mem_map] at nested
  refine ⟨rfl, .node ?_ ?_ ?_ ?_⟩
  · exact forall₂_of_mapM areSubqueries areSubqueriesLater fun inner mem => nested inner (.inl (.inl (.inl mem)))
  · exact forall₂_of_mapM areUnions areUnionsLater fun inner mem => nested inner (.inl (.inl (.inr mem)))
  · exact forall₂_of_mapM areMinuses areMinusesLater fun inner mem => nested inner (.inl (.inr mem))
  · apply forall₂_of_mapM areServices areServicesLater
    intro service mem result other isResult isOther
    rcases Option.map_eq_some_iff.mp isResult with ⟨tree, isTree, rfl⟩
    rcases Option.map_eq_some_iff.mp isOther with ⟨later, isLater, rfl⟩
    exact ⟨rfl, nested service.2 (.inr ⟨service, mem, rfl⟩) tree later isTree isLater⟩

/-- The tree of a query changes where the query stands that is changed, and nowhere else. -/
theorem Keeps.alikeTrees (keeps : store.Keeps [.query part] after) (closed : store.Closed)
    (afterClosed : after.Closed) (depth : Nat) {tree later : QueryTree} (known : index < store.queries.length)
    (isTree : store.tree? depth index = some tree) (isLater : after.tree? depth index = some later) :
    QueryTree.AlikeTrees (store.tree part) (after.tree part) tree later := by
  -- By induction on the depth. The changed query is one of the places itself, whatever has become of it.
  induction depth generalizing index tree later with
  | zero => cases isTree
  | succ depth ih =>
      by_cases same : index = part
      · subst same
        rw [closed.tree_of_tree? known isTree, afterClosed.tree_of_tree? (known.trans_le keeps.grows.queries) isLater]
        exact QueryTree.alikeTrees_itself
      · have found := List.getElem?_eq_getElem known
        have parts := keeps.alikeParts same found isTree isLater fun inner nests tree later =>
          ih (closed.nests_lt nests)
        exact parts.2.alikeTrees

theorem Keeps.differsAt (keeps : store.Keeps [.query part] after) (closed : store.Closed) (afterClosed : after.Closed)
    (known : parent < store.queries.length) (different : parent ≠ part) : store.DiffersAt parent part after := by
  have sameRecord := keeps.getElem?_queries known (by simpa using different)
  refine ⟨sameRecord, ?_, ?_⟩
  · intro record found isFrozen
    rcases Option.isSome_iff_exists.mp isFrozen with ⟨text, isText⟩
    simp only [Store.text, sameRecord, found, Option.bind_some, isText]
  · intro record text later found notFrozen isText isLater
    rcases part?_of_text found notFrozen isText with ⟨tree, isTree, written⟩
    rcases part?_of_text (sameRecord.trans found) notFrozen isLater with ⟨treeLater, isTreeLater, writtenLater⟩
    rw [part?_eq_tree?] at isTree isTreeLater
    rw [← closed.tree?_of_le known (Nat.succ_le_succ keeps.grows.queries)] at isTree
    have parts := keeps.alikeParts different found isTree isTreeLater fun inner nests tree later =>
      keeps.alikeTrees closed afterClosed _ (closed.nests_lt nests)
    rw [← parts.1]
    exact parts.2.render written writtenLater

section Subquery

variable {name : String} {positional : List Expression} {named : List (String × Expression)}
variable {block : Option (List Step)} {result : Option String} {reply : Reply}

/-- A call for a sub-query has no block and attaches a new query last. -/
theorem ends_subqueryStep (isParent : store.register? name = some (.query parent))
    (found : store.queries[parent]? = some record) :
    Ends (runCall (.call (.register name) "with_subquery" positional named block result)) store (fun _ => True)
      fun after reply => block = none ∧ reply = .query store.queries.length ∧ after.queries[parent]? =
        some { record with subqueries := record.subqueries ++ [store.queries.length] } := by
  have known := (List.getElem?_eq_some_iff.mp found).1
  refine ends_evaluateArguments_bind trivial fun arguments _ => ?_
  have called : Ends (receiverCall (.register name) "with_subquery" arguments (runBlock block)) store (fun _ => True)
      fun after reply => block = none ∧ reply = .query store.queries.length ∧ after.queries[parent]? =
        some { record with subqueries := record.subqueries ++ [store.queries.length] } := by
    refine ends_get_bind ?_
    rw [isParent]
    cases block with
    | some steps => exact ends_fault trivial
    | none =>
        change Ends (subqueryCall parent arguments) store _ _
        unfold Ends
        rcases performed : perform (subqueryCall parent arguments) store with ⟨failure | reply, middle⟩
        · trivial
        · rcases perform_subqueryCall_ok performed with ⟨clauses, _, _, _, rfl, rfl⟩
          refine ⟨rfl, rfl, ?_⟩
          simp [List.getElem?_append_left known, found]
  refine ends_bind called ?_
  intro reply middle held
  cases result <;> exact held

/-- A call for a sub-query returns one that hangs at one place, unless the query hangs on itself. -/
theorem holdsOnce_of_subqueryCall (closed : store.Closed) (isParent : store.register? name = some (.query parent))
    (done : perform (runCall (.call (.register name) "with_subquery" positional named block result)) store =
      (.ok reply, after)) :
    ∃ part, reply = .query part ∧ parent ≠ part ∧
      (¬ TransGen store.Nests parent parent → after.HoldsOnce parent part) := by
  have known : parent < store.queries.length := closed.has_of_register isParent
  have found := List.getElem?_eq_getElem known
  rcases (ends_subqueryStep isParent found).of_ok done with ⟨rfl, rfl, foundLater⟩
  refine ⟨store.queries.length, rfl, known.ne, holdsOnce_of_attached closed ?_ found foundLater⟩
  have acts : ActsOn store (.query parent) (.call (.register name) "with_subquery" positional named none result) :=
    actsOn_of_isOnHanded (by simp) isParent rfl
  have keeps := acts.keeps
  rwa [done] at keeps

end Subquery

/-! ## Sessions -/

/-- In every state of a session, a call on a query or an optional part whose block keeps to its own changes no other
object, however it ends. Queries that the object does not hang on keep their texts. The text of a query that a query
hangs on changes at the places of that query alone, and never in its modifiers. If it hangs there once as a sub-query,
as a call for a sub-query leaves it, these are the braces of the sub-query. -/
theorem shared_of_session (client : Option Client) (answers : List Answer) (steps : List Step) :
    let start := start client answers
    start.Moves (storeAfter start steps) ∧ ∀ store, start.Moves store →
      (∀ step, start.Moves (perform (runCall step) store).2) ∧
      (∀ target step, ActsOn store target step →
        let after := (perform (runCall step) store).2
        store.Keeps [target] after ∧
        ∀ index < store.queries.length, ¬ store.Reaches index target → after.text index = store.text index) ∧
      (∀ part step, ActsOn store (.query part) step →
        let after := (perform (runCall step) store).2
        (∀ parent < store.queries.length, parent ≠ part → store.DiffersAt parent part after) ∧
        ∀ parent, store.HoldsOnce parent part → after.HoldsOnce parent part ∧ store.ChangesInside parent part after) ∧
      ∀ parent name positional named block result reply after, store.register? name = some (.query parent) →
        perform (runCall (.call (.register name) "with_subquery" positional named block result)) store =
          (.ok reply, after) →
        ∃ part, reply = .query part ∧ parent ≠ part ∧
          (¬ TransGen store.Nests parent parent → after.HoldsOnce parent part) := by
  intro start
  have startClosed := start_closed client answers
  refine ⟨moves_storeAfter startClosed steps, ?_⟩
  intro store moves
  have closed : store.Closed := moves.closed startClosed
  have leads (step : Step) : store.Moves (perform (runCall step) store).2 := (leads_runCall step store closed).1
  refine ⟨fun step => moves.trans (leads step), ?_, ?_, ?_⟩
  · intro target step acts
    refine ⟨acts.keeps, ?_⟩
    intro index known outside
    exact acts.keeps.text_eq closed known (isApart_of_not_reaches outside)
  · intro part step acts
    have afterClosed := (leads step).closed closed
    refine ⟨fun parent known different => acts.keeps.differsAt closed afterClosed known different, ?_⟩
    intro parent holds
    exact ⟨holds.kept closed acts.keeps, holds.changesInside closed afterClosed acts.keeps⟩
  · intro parent name positional named block result reply after isParent done
    exact holdsOnce_of_subqueryCall closed isParent done

end Store

end Sparql
