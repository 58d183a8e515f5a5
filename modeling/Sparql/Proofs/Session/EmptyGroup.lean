import Sparql.Proofs.Query.ReadBack
import Sparql.Proofs.Query.Subselect
import Sparql.Proofs.Session.Filters

/-!
# Groups without content

A group has nothing between its braces exactly if there is nothing in any of its clauses: each clause that is there has
words, be it inline data without rows, an optional part without patterns or a branch without content. A description
with such a group is written without a condition, and no other one is.

In a session, whether a query has an empty group is asked of the query and of what is attached to it, and the group is
written from the tree that hangs on the query. Both look at the same clauses, so the answer is that of the text.
-/

namespace Sparql

open Outcome Syntax

/-! ## Every clause has words -/

section Clauses

variable {words : List String}

theorem OptionalGroup.words_ne_nil {group : OptionalGroup} (written : group.words = .ok words) : words ≠ [] := by
  simp only [OptionalGroup.words, bind_eq_ok, pure_eq_ok] at written
  rcases written with ⟨patterns, _, rfl⟩
  simp

theorem ValuesBlock.words_ne_nil {block : ValuesBlock} (written : block.words = .ok words) : words ≠ [] := by
  simp only [ValuesBlock.words, bind_eq_ok, pure_eq_ok] at written
  rcases written with ⟨rows, _, rfl⟩
  simp

theorem serviceWords_ne_nil {site : ServiceSite} {group : Written} (written : serviceWords site group = .ok words) :
    words ≠ [] := by
  simp only [serviceWords, bind_eq_ok, pure_eq_ok] at written
  rcases written with ⟨endpoint, _, inner, _, rfl⟩
  simp

theorem BindBranch.words_ne_nil {branch : BindBranch} (written : branch.words = .ok words) : words ≠ [] := by
  simp only [BindBranch.words, bind_eq_ok, pure_eq_ok] at written
  rcases written with ⟨patterns, _, tests, _, rfl⟩
  simp

/-- A branch without content still has its braces. -/
theorem BindUnion.words_ne_nil {block : BindUnion} (hasBranches : block.branches ≠ [])
    (written : block.words = .ok words) : words ≠ [] := by
  simp only [BindUnion.words, bind_eq_ok, pure_eq_ok] at written
  rcases written with ⟨branches, areBranches, rfl⟩
  split
  · simp
  · rcases isCons : block.branches with _ | ⟨first, others⟩
    · exact absurd isCons hasBranches
    · simp only [isCons, List.mapM_cons, bind_eq_ok, pure_eq_ok] at areBranches
      rcases areBranches with ⟨written, isFirst, rest, _, rfl⟩
      have notEmpty := BindBranch.words_ne_nil isFirst
      cases rest <;> simp [joinWith, notEmpty]

/-- Clauses that have words are not written if there are none. -/
theorem flatten_eq_nil_of_mapM {α : Type} {items : List α} {write : α → Written} {parts : List (List String)}
    (written : items.mapM write = .ok parts) (speak : ∀ item ∈ items, ∀ words, write item = .ok words → words ≠ []) :
    parts.flatten = [] ↔ items = [] := by
  cases items with
  | nil =>
      cases written
      simp
  | cons item items =>
      simp only [List.mapM_cons, bind_eq_ok, pure_eq_ok] at written
      rcases written with ⟨first, isFirst, others, _, rfl⟩
      simp [speak item (.head _) first isFirst]

end Clauses

namespace QueryTree

section Nested

variable {trees : List QueryTree} {services : List (ServiceSite × QueryTree)} {parts : List (List String)}
  {words : List String}

theorem texts_eq_nil_iff (written : texts trees = .ok words) : words = [] ↔ trees = [] := by
  cases trees with
  | nil =>
      cases written
      simp
  | cons tree rest =>
      simp only [texts, bind_eq_ok, pure_eq_ok] at written
      rcases written with ⟨text, _, others, _, rfl⟩
      simp

theorem groups_eq_nil_iff (written : groups trees = .ok parts) : parts = [] ↔ trees = [] := by
  cases trees with
  | nil =>
      cases written
      simp
  | cons tree rest =>
      simp only [groups, bind_eq_ok, pure_eq_ok] at written
      rcases written with ⟨group, _, others, _, rfl⟩
      simp

theorem serviceGroups_flatten_eq_nil_iff (written : serviceGroups services = .ok parts) :
    parts.flatten = [] ↔ services = [] := by
  cases services with
  | nil =>
      cases written
      simp
  | cons service rest =>
      rcases service with ⟨site, tree⟩
      simp only [serviceGroups, bind_eq_ok, pure_eq_ok] at written
      rcases written with ⟨first, isFirst, others, _, rfl⟩
      simp [serviceWords_ne_nil isFirst]

end Nested

/-! ## Between the braces of a group -/

section Group

variable {clauses : Clauses} {optionals : List OptionalGroup} {subqueries minuses : List QueryTree}
  {services : List (ServiceSite × QueryTree)} {words : List String}

theorem valuesWords_eq_nil_iff (written : valuesWords clauses = .ok words) : words = [] ↔ clauses.values = none := by
  unfold valuesWords at written
  cases values : clauses.values with
  | none =>
      rw [values] at written
      cases written
      simp
  | some block =>
      rw [values] at written
      simpa using ValuesBlock.words_ne_nil written

theorem innerWords_eq_nil_iff (written : innerWords clauses optionals (texts subqueries) (serviceGroups services) =
    .ok words) : words = [] ↔ subqueries = [] ∧ clauses.patterns = [] ∧ optionals = [] ∧ clauses.filters = [] ∧
      services = [] ∧ clauses.values = none := by
  simp only [innerWords_eq, bind_eq_ok, pure_eq_ok] at written
  rcases written with ⟨texts, areTexts, patterns, arePatterns, groups, areGroups, parts, areParts, values, areValues, rfl⟩
  have optional := flatten_eq_nil_of_mapM areGroups fun _ _ _ => OptionalGroup.words_ne_nil
  have pattern : patterns = [] ↔ clauses.patterns = [] := by
    rw [← List.length_eq_zero_iff, ← List.length_eq_zero_iff, (mapM_eq_ok.mp arePatterns).length_eq]
  simp only [List.append_eq_nil_iff, List.map_eq_nil_iff, texts_eq_nil_iff areTexts, pattern, optional,
    serviceGroups_flatten_eq_nil_iff areParts, valuesWords_eq_nil_iff areValues]
  tauto

theorem enclosedWords_eq_nil_iff {graph : Option Term} {inner : List String}
    (written : enclosedWords graph (.ok inner) = .ok words) : words = [] ↔ graph = none ∧ inner = [] := by
  cases graph with
  | none =>
      cases written
      simp
  | some term =>
      simp only [enclosedWords, bind_eq_ok, pure_eq_ok] at written
      rcases written with ⟨name, _, inner, _, rfl⟩
      simp

/-- What a group writes between its braces, and when that is nothing. -/
theorem ownGroupWords_braced (hasBranches : ∀ block ∈ clauses.bindUnions, block.branches ≠ [])
    (written : ownGroupWords clauses optionals (texts subqueries) (serviceGroups services) (groups minuses) =
      .ok words) :
    ∃ inner, words = "\x7b" :: (inner ++ ["\x7d"]) ∧
      (inner = [] ↔ (node clauses optionals subqueries [] minuses services).hasEmptyGroup) := by
  simp only [ownGroupWords, bind_eq_ok, pure_eq_ok] at written
  rcases written with ⟨enclosed, isEnclosed, parts, areParts, blocks, areBlocks, rfl⟩
  refine ⟨enclosed ++ (parts.map ("MINUS" :: ·)).flatten ++ blocks.flatten, by simp, ?_⟩
  have minus : (parts.map ("MINUS" :: ·)).flatten = [] ↔ minuses = [] := by
    rw [← groups_eq_nil_iff areParts]
    cases parts <;> simp
  have union := flatten_eq_nil_of_mapM areBlocks fun block mem _ => BindUnion.words_ne_nil (hasBranches block mem)
  rcases enclosedWords_eq_ok isEnclosed with ⟨inner, isInner, _⟩
  rw [isInner] at isEnclosed
  simp only [List.append_eq_nil_iff, minus, union, enclosedWords_eq_nil_iff isEnclosed,
    innerWords_eq_nil_iff isInner, hasEmptyGroup, Bool.and_eq_true, List.isEmpty_iff, Option.isNone_iff_eq_none]
  tauto

/-- A group stands between braces, with nothing between them exactly if it has no content. -/
theorem groupWords_braced {tree : QueryTree} (hasBranches : tree.HasBranches) (written : tree.groupWords = .ok words) :
    ∃ inner, words = "\x7b" :: (inner ++ ["\x7d"]) ∧ (inner = [] ↔ tree.hasEmptyGroup) := by
  cases tree with
  | node clauses optionals subqueries unions minuses services =>
      simp only [groupWords, bind_eq_ok, pure_eq_ok] at written
      rcases written with ⟨own, isOwn, branches, areBranches, rfl⟩
      rcases ownGroupWords_braced hasBranches isOwn with ⟨inner, rfl, isEmpty⟩
      have noUnions := groups_eq_nil_iff areBranches
      cases branches with
      | nil =>
          rw [noUnions.mp rfl]
          exact ⟨inner, rfl, isEmpty⟩
      | cons branch branches =>
          have hasUnions : unions ≠ [] := fun isNil => by simp [isNil] at noUnions
          refine ⟨joinWith "UNION" (("\x7b" :: (inner ++ ["\x7d"])) :: branch :: branches), rfl, ?_⟩
          simp [joinWith, hasEmptyGroup, hasUnions]

/-- The text of a group is a pair of braces exactly if there is nothing between them. -/
theorem spaced_braced_eq_iff {inner : List String} :
    spaced ("\x7b" :: (inner ++ ["\x7d"])) = "\x7b \x7d" ↔ inner = [] := by
  constructor
  · intro same
    cases inner with
    | nil => rfl
    | cons word inner =>
        have chars := congrArg String.toList same
        rw [toList_spaced_cons (by simp), List.cons_append, toList_spaced_cons (by simp)] at chars
        have behind : word.toList ++ ' ' :: (spaced (inner ++ ["\x7d"])).toList = ['\x7d'] := by
          simpa using chars
        have space : ' ' ∈ ['\x7d'] := behind ▸ by simp
        simp at space
  · rintro rfl
    rfl

/-- A group without content is written, whatever else the query is. -/
theorem groupWords_of_hasEmptyGroup {tree : QueryTree} (isEmpty : tree.hasEmptyGroup) :
    tree.groupWords = .ok ["\x7b", "\x7d"] := by
  cases tree with
  | node clauses optionals subqueries unions minuses services =>
      simp only [hasEmptyGroup, Bool.and_eq_true, List.isEmpty_iff, Option.isNone_iff_eq_none] at isEmpty
      rcases isEmpty with ⟨⟨⟨⟨⟨⟨⟨⟨⟨patterns, rfl⟩, rfl⟩, filters⟩, rfl⟩, values⟩, rfl⟩, rfl⟩, bindUnions⟩, graph⟩
      simp [groupWords, ownGroupWords, innerWords, enclosedWords, unionWords, texts, groups, serviceGroups,
        Pattern.renderAll, patterns, filters, values, bindUnions, graph, pure, Except.pure, bind, Except.bind]

/-- A group has no content exactly if its text is a pair of braces. -/
theorem hasEmptyGroup_iff {tree : QueryTree} (hasBranches : tree.HasBranches) :
    tree.hasEmptyGroup ↔ ∃ words, tree.groupWords = .ok words ∧ spaced words = "\x7b \x7d" := by
  constructor
  · intro isEmpty
    exact ⟨_, groupWords_of_hasEmptyGroup isEmpty, rfl⟩
  · rintro ⟨words, written, isPair⟩
    rcases groupWords_braced hasBranches written with ⟨inner, rfl, isEmpty⟩
    exact isEmpty.mp (spaced_braced_eq_iff.mp isPair)

end Group

/-! ## Descriptions -/

section Description

variable {tree : QueryTree} {text : String} {front words : List String}

theorem toList_spaced_append_trailing (notEmpty : front ≠ []) (others : List String) :
    (spaced (front ++ others)).toList = (spaced front).toList ++ trailing others := by
  have alone := (trailing_eq front).resolve_left notEmpty
  have together := (trailing_eq (front ++ others)).resolve_left (by simp [notEmpty])
  have split : trailing (front ++ others) = trailing front ++ trailing others := List.flatMap_append
  rw [together, alone, List.cons_append, List.cons.injEq] at split
  exact split.2

theorem head?_append_ne {first second : List String} {word : String} (inFirst : first.head? ≠ some word)
    (inSecond : second.head? ≠ some word) : (first ++ second).head? ≠ some word := by
  cases first with
  | nil => exact inSecond
  | cons other first => exact inFirst

/-- The words behind a group begin with a keyword of their own. -/
theorem head?_modifierWords {clauses : Clauses} (written : modifierWords clauses = .ok words) :
    words.head? ≠ some "WHERE" := by
  have condition : ∀ keyword conditions, keyword ≠ "WHERE" → (conditionWords keyword conditions).head? ≠ some "WHERE" := by
    intro keyword conditions other
    unfold conditionWords
    split <;> simp [other]
  have bound : ∀ keyword value parts, (∀ number : String, keyword ++ " " ++ number ≠ "WHERE") →
      boundWords keyword value = .ok parts → parts.head? ≠ some "WHERE" := by
    intro keyword value parts other written
    unfold boundWords at written
    split at written
    · cases written
      simp
    · split at written <;> cases written
      simpa using other _
  simp only [modifierWords, bind_eq_ok, pure_eq_ok] at written
  rcases written with ⟨offset, isOffset, limit, isLimit, rfl⟩
  refine head?_append_ne (head?_append_ne (head?_append_ne ?_ ?_) ?_) ?_
  · exact condition _ _ (by decide)
  · exact condition _ _ (by decide)
  · exact bound _ _ _ (fun number same => by simpa using congrArg (·.toList.head?) same) isOffset
  · exact bound _ _ _ (fun number same => by simpa using congrArg (·.toList.head?) same) isLimit

/-- How the text of a description is made. The word WHERE and the group stand behind its names and graphs, unless the
group is left out, and then a text with both would have nothing else in addition. -/
def IsDescribed (tree : QueryTree) (text : String) (omitsGroup : Bool) : Prop :=
  ∃ names group behind, tree.groupWords = .ok group ∧ (∀ name ∈ names, name ≠ "WHERE") ∧
    behind.head? ≠ some "WHERE" ∧
    let front := prologueWords tree.clauses ++ "DESCRIBE" :: names
    let whole := spaced (front ++ "WHERE" :: group ++ behind)
    (omitsGroup = false → text = whole) ∧
    (omitsGroup = true → text = spaced (front ++ behind) ∧
      ∃ rest, text = spaced front ++ rest ∧ whole = spaced front ++ " WHERE \x7b \x7d" ++ rest)

theorem isDescribed_of_render (isDescription : tree.clauses.form = .describe)
    (written : tree.render = .ok text) : tree.IsDescribed text tree.hasEmptyGroup := by
  simp only [render, textAround_eq_map, wordsAround, headWords, isDescription, map_eq_ok, bind_eq_ok,
    pure_eq_ok] at written
  rcases written with ⟨_, ⟨head, isHead, graphs, areGraphs, condition, isCondition, behind, isBehind, rfl⟩, rfl⟩
  have notWhere : ∀ name ∈ head ++ graphs, name ≠ "WHERE" := by
    rintro _ mem rfl
    rcases List.mem_append.mp mem with inHead | inGraphs
    · rcases head_of_mem_projection isHead _ inHead with ⟨c, rest, isWord, starts⟩
      cases isWord
      cases starts
    · rcases exists_of_mem_mapM areGraphs inGraphs with ⟨iri, _, isGraph⟩
      rcases map_eq_ok.mp isGraph with ⟨name, _, isWord⟩
      simpa using congrArg (·.toList.head?) isWord
  have around : ∀ condition, prologueWords tree.clauses ++ (Form.describe.keyword :: head ++ graphs ++ condition ++ behind) =
      prologueWords tree.clauses ++ "DESCRIBE" :: (head ++ graphs) ++ condition ++ behind := by
    simp [Form.keyword]
  have front : prologueWords tree.clauses ++ "DESCRIBE" :: (head ++ graphs) ≠ [] := by simp
  rw [around]
  by_cases isEmpty : tree.hasEmptyGroup
  · refine ⟨head ++ graphs, _, behind, groupWords_of_hasEmptyGroup isEmpty, notWhere, head?_modifierWords isBehind,
      by simp [isEmpty], fun _ => ?_⟩
    simp only [whereWords, isDescription, isEmpty, decide_true, Bool.and_self, if_true, Except.ok.injEq] at isCondition
    subst isCondition
    rw [List.append_nil]
    have rest : (String.ofList (trailing behind)).toList = trailing behind := String.toList_ofList
    refine ⟨rfl, String.ofList (trailing behind), ?_, ?_⟩
    · apply String.toList_injective
      rw [String.toList_append, toList_spaced_append_trailing front, rest]
    · apply String.toList_injective
      rw [String.toList_append, String.toList_append, rest, List.append_assoc (prologueWords _ ++ _),
        toList_spaced_append_trailing front, List.append_assoc]
      rfl
  · simp only [whereWords, isEmpty, Bool.and_false, Bool.false_eq_true, if_false] at isCondition
    rcases map_eq_ok.mp isCondition with ⟨group, isGroup, rfl⟩
    refine ⟨head ++ graphs, group, behind, isGroup, notWhere, head?_modifierWords isBehind, fun _ => rfl,
      fun omits => absurd omits isEmpty⟩

/-- A description is read as one without a group exactly if it has no content. -/
theorem exists_queryPart (isDescription : tree.clauses.form = .describe) (parts : List Part) :
    ∃ head group tail, tree.queryPart parts = .query head group tail ∧ (group = none ↔ tree.hasEmptyGroup) := by
  have omits : tree.isGroupless = tree.hasEmptyGroup := by simp [isGroupless, isDescription]
  unfold queryPart
  rw [omits]
  split
  · next isEmpty => exact ⟨_, none, _, rfl, by simp [isEmpty]⟩
  · next notEmpty => exact ⟨_, some parts, _, rfl, by simp [notEmpty]⟩

end Description

end QueryTree

/-! ## Queries of a session -/

open Session

namespace Store

variable {store : Store} {index : Nat} {record : QueryRecord} {tree : QueryTree}

/-! ### Queries and their trees -/

theorem isEmpty_of_mapM {α β : Type} {items : List α} {results : List β} {f : α → Option β}
    (done : items.mapM f = some results) : results.isEmpty = items.isEmpty := by
  cases items with
  | nil =>
      cases done
      rfl
  | cons item items =>
      simp only [List.mapM_cons, Option.bind_eq_bind, Option.bind_eq_some_iff, Option.pure_def, Option.some.injEq] at done
      rcases done with ⟨first, _, others, _, rfl⟩
      rfl

/-- The tree of a query has an empty group exactly if the query has. -/
theorem hasEmptyGroup_of_tree (found : store.queries[index]? = some record) (isTree : store.tree index = .ok tree) :
    tree.hasEmptyGroup = isEmptyGroup record := by
  have isTree := tree?_of_tree isTree
  simp only [tree?, found, Option.bind_eq_bind, Option.bind_eq_some_iff, Option.pure_def, Option.some.injEq,
    exists_eq_left'] at isTree
  rcases isTree with ⟨optionals, areOptionals, subqueries, areSubqueries, unions, areUnions, minuses, areMinuses,
    services, areServices, rfl⟩
  simp only [QueryTree.hasEmptyGroup, isEmptyGroup, isEmpty_of_mapM areOptionals, isEmpty_of_mapM areSubqueries,
    isEmpty_of_mapM areUnions, isEmpty_of_mapM areMinuses, isEmpty_of_mapM areServices]

/-- A query with an empty group cannot contain itself. -/
theorem exists_tree_of_isEmptyGroup (found : store.queries[index]? = some record) (isEmpty : isEmptyGroup record) :
    ∃ tree, store.tree index = .ok tree := by
  simp only [isEmptyGroup, Bool.and_eq_true, List.isEmpty_iff] at isEmpty
  refine ⟨.node record.clauses [] [] [] [] [], ?_⟩
  simp [tree, tree?, found, isEmpty]

/-! ### At all times -/

/-- At all times in a session, a query says of itself that its group is empty exactly if the group is written as a pair of
braces. The text of a description has its group behind the word WHERE, unless the group is empty; then it has neither,
and would be the same with both but for a space, the word and the braces. If its terms are single tokens and its raw
texts are plain, the text is read as a query, without a group exactly if the group is empty. -/
theorem emptyGroup_of_session (client : Option Client) (answers : List Answer) (steps : List Step) :
    let start := start client answers
    start.Moves (storeAfter start steps) ∧ ∀ during, start.Moves during →
      ∀ (index : Nat) (record : QueryRecord), during.queries[index]? = some record →
        (isEmptyGroup record ↔
          ∃ words, (during.tree index >>= QueryTree.groupWords) = .ok words ∧ spaced words = "\x7b \x7d") ∧
        (record.clauses.form = .describe → ∀ text, during.render index = .ok text →
          ∃ tree : QueryTree, during.tree index = .ok tree ∧ tree.clauses = record.clauses ∧
            tree.IsDescribed text (isEmptyGroup record) ∧
            ((∀ part ∈ tree.within, part.IsReadable) → ∃ head group tail,
              (∀ parts, ReadsAs (spaced ["\x7b", text, "\x7d"]) parts ↔ parts = [.query head group tail]) ∧
              (group = none ↔ isEmptyGroup record))) := by
  intro start
  refine ⟨moves_storeAfter (start_closed client answers) steps, fun during moves index record found => ?_⟩
  have initially : start.WellFormed := by constructor <;> simp [start, Store.start]
  have wellFormed : during.WellFormed := Evolves.wellFormed (Moves.evolves moves) initially
  constructor
  · rcases isTree : during.tree index with failure | tree
    -- Without a tree something that is attached hangs on itself, so there is content and no text.
    · have notEmpty : ¬ isEmptyGroup record := by
        intro isEmpty
        rcases exists_tree_of_isEmptyGroup found isEmpty with ⟨tree, hasTree⟩
        cases isTree.symm.trans hasTree
      simp only [notEmpty, bind, Except.bind, reduceCtorEq, false_and, exists_false]
    · have hasBranches := wellFormed.hasBranches isTree tree tree.mem_within
      rw [← hasEmptyGroup_of_tree found isTree]
      exact QueryTree.hasEmptyGroup_iff hasBranches
  · intro isDescription text written
    rcases tree_of_render written with ⟨tree, isTree, rendered⟩
    have sameGroup := hasEmptyGroup_of_tree found isTree
    rcases clauses_of_tree isTree with ⟨same, isSame, sameClauses⟩
    cases found.symm.trans isSame
    have describes : tree.clauses.form = .describe := by rw [sameClauses, isDescription]
    refine ⟨tree, isTree, sameClauses, sameGroup ▸ QueryTree.isDescribed_of_render describes rendered, ?_⟩
    intro readable
    rcases QueryTree.exists_queryPart describes tree.groupParts with ⟨head, group, tail, isQuery, omits⟩
    refine ⟨head, group, tail, ?_, sameGroup ▸ omits⟩
    rw [← isQuery]
    exact QueryTree.text_readsAs_iff (wellFormed.isLegible isTree readable) rendered

end Store

/-- A description of a variable, and one with inline data that has no rows. -/
def descriptionSession : List Step := [
  .call .queries "describe" [.constant (.text "x")] [] none (some "p"),
  .call (.register "p") "limit" [.constant (.int 3)] [] none none,
  .call .queries "describe" [.constant (.text "x")] [] none (some "q"),
  .call (.register "q") "values" [.constant (.text "x")] [] none none]

/-- Inline data without rows are content, so only the first description is without a group. -/
theorem emptyGroup_of_descriptionSession :
    let store := storeAfter (Store.start none []) descriptionSession
    (∃ words, (store.tree 0 >>= QueryTree.groupWords) = .ok words ∧ spaced words = "\x7b \x7d") ∧
    (∃ tree : QueryTree, store.tree 0 = .ok tree ∧ tree.IsDescribed "DESCRIBE ?x LIMIT 3" true) ∧
    (¬ ∃ words, (store.tree 1 >>= QueryTree.groupWords) = .ok words ∧ spaced words = "\x7b \x7d") ∧
    ∃ tree : QueryTree, store.tree 1 = .ok tree ∧
      tree.IsDescribed "DESCRIBE ?x WHERE \x7b VALUES (?x) \x7b \x7d \x7d" false := by
  intro store
  rcases Store.emptyGroup_of_session none [] descriptionSession with ⟨moves, during⟩
  have shown : ∀ index text empty,
      ((store.queries[index]?.map fun record => (isEmptyGroup record, record.clauses.form)) = some (empty, .describe)) →
      (store.render index).toOption = some text →
      (empty = true ↔ ∃ words, (store.tree index >>= QueryTree.groupWords) = .ok words ∧ spaced words = "\x7b \x7d") ∧
      ∃ tree : QueryTree, store.tree index = .ok tree ∧ tree.IsDescribed text empty := by
    intro index text empty isRecord isText
    rcases Option.map_eq_some_iff.mp isRecord with ⟨record, found, same⟩
    simp only [Prod.mk.injEq] at same
    rcases same with ⟨rfl, isDescription⟩
    rcases during store moves index record found with ⟨isEmpty, description⟩
    have written : store.render index = .ok text := by
      cases outcome : store.render index with
      | error failure => simp [outcome, Except.toOption] at isText
      | ok other => simpa [outcome, Except.toOption] using isText
    rcases description isDescription text written with ⟨tree, isTree, _, isDescribed, _⟩
    exact ⟨isEmpty, tree, isTree, isDescribed⟩
  rcases shown 0 "DESCRIBE ?x LIMIT 3" true (by decide +kernel) (by decide +kernel) with ⟨isPair, first⟩
  rcases shown 1 "DESCRIBE ?x WHERE \x7b VALUES (?x) \x7b \x7d \x7d" false (by decide +kernel) (by decide +kernel) with
    ⟨isNoPair, second⟩
  exact ⟨isPair.mp rfl, first, fun isPair => Bool.false_ne_true (isNoPair.mpr isPair), second⟩

end Sparql
