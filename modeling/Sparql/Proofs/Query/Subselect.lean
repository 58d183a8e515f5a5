import Mathlib.Data.List.Infix
import Sparql.Proofs.Exchange.Prologue
import Sparql.Proofs.Query.Spelling

/-!
# Sub-queries inside a text

The text of a query holds the whole text of each of its sub-queries between braces, however deep the sub-query
hangs. What stands between the braces is a legal sub-select if the sub-query selects and names no graphs and
no prefixes of its own.
-/

namespace Sparql

open Outcome

/-! ## Words of projections -/

section Projection

variable {clauses : Clauses} {words : List String}

/-- Whether counts are all that a query projects. -/
def Clauses.onlyCounts (clauses : Clauses) : Bool := clauses.projection.isEmpty && !clauses.counts.isEmpty

/-- What a name in a projection begins with. -/
def startsName (c : Char) : Bool := ['*', '?', '<', '"', '_'].contains c

theorem Term.startsName_sign (term : Term) : startsName term.sign = true := by
  cases term <;> rfl

theorem startsName_of_render {term : Term} {text : String} (written : term.render = .ok text) :
    ∃ c rest, text.toList = c :: rest ∧ startsName c = true := by
  rcases Term.exists_toList_of_render written with ⟨behind, isText⟩
  exact ⟨term.sign, behind, isText, term.startsName_sign⟩

theorem projectionWords_eq_ok (written : projectionWords clauses = .ok words) :
    ∃ names, words = (if clauses.distinct && !clauses.onlyCounts then ["DISTINCT"] else [])
        ++ ((if clauses.reduced then ["REDUCED"] else []) ++ names)
        ++ clauses.counts.map (fun count => countText clauses.distinct count.1 count.2) ∧
      ∀ name ∈ names, ∃ c rest, name.toList = c :: rest ∧ startsName c = true := by
  unfold projectionWords at written
  dsimp only at written
  split at written
  · rename_i isEmpty
    simp only [Bool.and_eq_true, List.isEmpty_iff] at isEmpty
    cases written
    refine ⟨["*"], by simp [Clauses.onlyCounts, isEmpty], ?_⟩
    rintro name mem
    cases List.mem_singleton.mp mem
    exact ⟨'*', [], rfl, rfl⟩
  · simp only [bind_eq_ok, pure_eq_ok] at written
    rcases written with ⟨terms, areTerms, rfl⟩
    refine ⟨terms, by simp [Clauses.onlyCounts], ?_⟩
    exact forall_of_mapM areTerms fun _ _ => startsName_of_render

/-- What a word of a projection begins with: a keyword, a name or a count. -/
def startsProjected (c : Char) : Bool := c = 'D' || c = 'R' || c = '(' || startsName c

theorem head_of_mem_projection (written : projectionWords clauses = .ok words) :
    ∀ word ∈ words, ∃ c rest, word.toList = c :: rest ∧ startsProjected c = true := by
  rcases projectionWords_eq_ok written with ⟨names, rfl, areNames⟩
  intro word mem
  simp only [List.mem_append, List.mem_map] at mem
  rcases mem with (isDistinct | isReduced | isName) | ⟨count, _, rfl⟩
  · split at isDistinct
    · cases List.mem_singleton.mp isDistinct
      exact ⟨'D', _, rfl, rfl⟩
    · cases isDistinct
  · split at isReduced
    · cases List.mem_singleton.mp isReduced
      exact ⟨'R', _, rfl, rfl⟩
    · cases isReduced
  · rcases areNames word isName with ⟨c, rest, isWord, isStart⟩
    exact ⟨c, rest, isWord, by simp [startsProjected, isStart]⟩
  · exact ⟨'(', _, by simp [countText]; rfl, rfl⟩

end Projection

namespace QueryTree

/-- The queries attached to a query as sub-queries. -/
def subqueries : QueryTree → List QueryTree
  | node _ _ subqueries _ _ _ => subqueries

/-- All sub-queries of a query and of what hangs on it. -/
def attached (tree : QueryTree) : List QueryTree := tree.within.flatMap subqueries

/-- Whether one of some marks stands in one of some words. -/
def IsShown (isMark : List Char → Prop) (words : List String) : Prop :=
  ∃ mark, isMark mark ∧ ∃ word ∈ words, mark <:+: word.toList

section Shown

variable {words others : List String} {isMark : List Char → Prop}

theorem IsShown.mono (isShown : IsShown isMark words) (subset : words ⊆ others) : IsShown isMark others := by
  rcases isShown with ⟨mark, isMarked, word, mem, isPart⟩
  exact ⟨mark, isMarked, word, subset mem, isPart⟩

/-- A word is a part of the text that it stands in. -/
theorem infix_spaced {word : String} (mem : word ∈ words) : word.toList <:+: (spaced words).toList := by
  induction words with
  | nil => cases mem
  | cons first words ih =>
      cases words with
      | nil =>
          simp only [List.mem_singleton] at mem
          simp [mem, spaced]
      | cons second words =>
          rw [toList_spaced_cons (by simp)]
          rcases List.mem_cons.mp mem with rfl | mem
          · exact List.infix_append_of_infix_left (List.infix_refl _)
          · exact (ih mem).trans ⟨first.toList ++ [' '], [], by simp⟩

theorem infix_subqueryText (text : String) : text.toList <:+: (subqueryText text).toList :=
  ⟨"\x7b ".toList, " \x7d .".toList, by simp [subqueryText]⟩

theorem IsShown.subqueryText (isShown : IsShown isMark words) : IsShown isMark (words.map subqueryText) := by
  rcases isShown with ⟨mark, isMarked, word, mem, isPart⟩
  exact ⟨mark, isMarked, Sparql.subqueryText word, List.mem_map_of_mem mem, isPart.trans (infix_subqueryText word)⟩

end Shown

/-! ## Words of groups -/

section Words

variable {clauses : Clauses} {optionals : List OptionalGroup} {words : List String}

/-- The words of the inline data, if there is any. -/
def valuesWords (clauses : Clauses) : Written := (clauses.values.map ValuesBlock.words).getD (.ok [])

theorem innerWords_eq (texts : Written) (services : WrittenParts) : innerWords clauses optionals texts services = (do
    let texts ← texts
    let patterns ← Pattern.renderAll clauses.patterns
    let optionals ← optionals.mapM OptionalGroup.words
    let services ← services
    let values ← valuesWords clauses
    return texts.map subqueryText ++ patterns ++ optionals.flatten ++ clauses.filters.map filterText
      ++ services.flatten ++ values) := by
  unfold innerWords valuesWords
  cases clauses.values <;> rfl

theorem innerWords_eq_ok {subqueries : Written} {services : WrittenParts}
    (written : innerWords clauses optionals subqueries services = .ok words) :
    ∃ texts parts, subqueries = .ok texts ∧ services = .ok parts ∧
      texts.map subqueryText ⊆ words ∧ parts.flatten ⊆ words := by
  simp only [innerWords_eq, bind_eq_ok, pure_eq_ok] at written
  rcases written with ⟨texts, isTexts, patterns, _, groups, _, parts, isParts, values, _, rfl⟩
  refine ⟨texts, parts, isTexts, isParts, ?_, ?_⟩
  all_goals
    intro word mem
    simp only [List.mem_append]
    tauto

theorem enclosedWords_eq_ok {graph : Option Term} {inner : Written}
    (written : enclosedWords graph inner = .ok words) : ∃ enclosed, inner = .ok enclosed ∧ enclosed ⊆ words := by
  cases graph with
  | none => exact ⟨words, written, List.Subset.refl _⟩
  | some term =>
      simp only [enclosedWords, bind_eq_ok, pure_eq_ok] at written
      rcases written with ⟨name, _, enclosed, isEnclosed, rfl⟩
      refine ⟨enclosed, isEnclosed, ?_⟩
      intro word mem
      simp [mem]

theorem ownGroupWords_eq_ok {subqueries : Written} {services minuses : WrittenParts}
    (written : ownGroupWords clauses optionals subqueries services minuses = .ok words) :
    ∃ texts parts groups, subqueries = .ok texts ∧ services = .ok parts ∧ minuses = .ok groups ∧
      texts.map subqueryText ⊆ words ∧ parts.flatten ⊆ words ∧ groups.flatten ⊆ words := by
  simp only [ownGroupWords, bind_eq_ok, pure_eq_ok] at written
  rcases written with ⟨enclosed, isEnclosed, groups, isGroups, bindUnions, _, rfl⟩
  rcases enclosedWords_eq_ok isEnclosed with ⟨inner, isInner, isWithin⟩
  rcases innerWords_eq_ok isInner with ⟨texts, parts, isTexts, isParts, hasTexts, hasParts⟩
  have behind : inner ⊆
      "\x7b" :: enclosed ++ (groups.map ("MINUS" :: ·)).flatten ++ bindUnions.flatten ++ ["\x7d"] := by
    intro word mem
    simp [isWithin mem]
  refine ⟨texts, parts, groups, isTexts, isParts, isGroups, List.Subset.trans hasTexts behind,
    List.Subset.trans hasParts behind, ?_⟩
  intro word mem
  rcases List.mem_flatten.mp mem with ⟨group, isGroup, isWord⟩
  have inMinus : word ∈ (groups.map ("MINUS" :: ·)).flatten :=
    List.mem_flatten.mpr ⟨"MINUS" :: group, List.mem_map_of_mem isGroup, List.mem_cons_of_mem _ isWord⟩
  simp only [List.mem_append]
  tauto

theorem subset_joinWith {word : String} {parts : List (List String)} : parts.flatten ⊆ joinWith word parts := by
  induction parts with
  | nil => simp
  | cons part parts ih =>
      cases parts with
      | nil => simp [joinWith]
      | cons second parts =>
          intro other mem
          rw [List.flatten_cons, List.mem_append] at mem
          simp only [joinWith, List.mem_append, List.mem_cons]
          rcases mem with mem | mem
          · exact .inl mem
          · exact .inr (.inr (ih mem))

theorem subset_unionWords (own : List String) (unions : List (List String)) :
    own ⊆ unionWords own unions ∧ unions.flatten ⊆ unionWords own unions := by
  unfold unionWords
  split
  · next isEmpty => simp [List.isEmpty_iff.mp isEmpty]
  · have joined : (own :: unions).flatten ⊆ joinWith "UNION" (own :: unions) := subset_joinWith
    rw [List.flatten_cons, List.append_subset] at joined
    constructor
    · intro word mem
      simp [joined.1 mem]
    · intro word mem
      simp [joined.2 mem]

/-- A description with an empty group has nothing hanging on it. -/
theorem within_of_hasEmptyGroup {tree : QueryTree} (isEmpty : tree.hasEmptyGroup) : tree.within = [tree] := by
  cases tree
  simp only [hasEmptyGroup, Bool.and_eq_true, List.isEmpty_iff] at isEmpty
  rcases isEmpty with ⟨⟨⟨⟨⟨⟨⟨⟨⟨_, rfl⟩, _⟩, _⟩, rfl⟩, _⟩, rfl⟩, rfl⟩, _⟩, _⟩
  rfl

/-- The condition of a query, given its group. -/
def whereWords (tree : QueryTree) (group : Written) : Written :=
  if tree.clauses.form = .describe && tree.hasEmptyGroup then .ok [] else group.map ("WHERE" :: ·)

/-- The words of a query behind its declarations, given its group. -/
def wordsAround (tree : QueryTree) (group : Written) : Written := do
  let head ← headWords tree.clauses
  let graphs ← tree.clauses.fromGraphs.mapM fun graph => graph.render.map ("FROM " ++ ·)
  let condition ← tree.whereWords group
  let modifiers ← modifierWords tree.clauses
  return tree.clauses.form.keyword :: head ++ graphs ++ condition ++ modifiers

theorem textAround_eq_map (tree : QueryTree) (group : Written) :
    tree.textAround group =
      (tree.wordsAround group).map fun words => spaced (prologueWords tree.clauses ++ words) := by
  simp only [textAround, wordsAround, whereWords]
  generalize tree.clauses.fromGraphs.mapM (fun graph => graph.render.map ("FROM " ++ ·)) = graphs
  cases headWords tree.clauses <;> cases graphs <;> split <;> cases group <;> cases modifierWords tree.clauses
  all_goals simp [Except.map, bind, Except.bind, pure, Except.pure]

theorem wordsAround_ne_nil {tree : QueryTree} {group : Written} {words : List String}
    (written : tree.wordsAround group = .ok words) : words ≠ [] := by
  simp only [wordsAround, bind_eq_ok, pure_eq_ok] at written
  rcases written with ⟨head, _, graphs, _, condition, _, modifiers, _, rfl⟩
  simp

/-- A query that is written has words for its group, unless the group is left out because it is empty. -/
theorem textAround_eq_ok {tree : QueryTree} {group : Written} {text : String}
    (written : tree.textAround group = .ok text) :
    tree.hasEmptyGroup ∨ ∃ words, group = .ok words ∧ ∀ word ∈ words, word.toList <:+: text.toList := by
  simp only [textAround_eq_map, map_eq_ok, wordsAround, bind_eq_ok, pure_eq_ok] at written
  rcases written with ⟨_, ⟨head, _, graphs, _, condition, isCondition, modifiers, _, rfl⟩, rfl⟩
  unfold whereWords at isCondition
  split at isCondition
  · next isGroupless =>
      simp only [Bool.and_eq_true] at isGroupless
      exact .inl isGroupless.2
  · rcases map_eq_ok.mp isCondition with ⟨words, isGroup, rfl⟩
    refine .inr ⟨words, isGroup, ?_⟩
    intro word mem
    apply infix_spaced
    simp [mem]

end Words

/-! ## What a part shows is shown by the whole -/

section Parts

/-- Marked queries, each of which has a group that shows a mark. -/
structure Marks (marked : QueryTree → Prop) (isMark : List Char → Prop) : Prop where
  shows : ∀ part words, marked part → part.groupWords = .ok words → IsShown isMark words
  notEmpty : ∀ part, marked part → part.hasEmptyGroup = false

variable {isMark : List Char → Prop} {marked : QueryTree → Prop}

/-- A text shows what its group shows. A group that is left out has nothing marked in it. -/
theorem isShown_of_textAround (marks : Marks marked isMark) {tree part : QueryTree} {group : Written} {text : String}
    (written : tree.textAround group = .ok text) (mem : part ∈ tree.within) (isMarked : marked part)
    (inGroup : ∀ words, group = .ok words → IsShown isMark words) : IsShown isMark [text] := by
  rcases textAround_eq_ok written with isEmpty | ⟨words, isGroup, areParts⟩
  · rw [within_of_hasEmptyGroup isEmpty, List.mem_singleton] at mem
    rw [← mem, marks.notEmpty part isMarked] at isEmpty
    cases isEmpty
  · rcases inGroup words isGroup with ⟨mark, isMark, word, isWord, isPart⟩
    exact ⟨mark, isMark, text, .head _, isPart.trans (areParts word isWord)⟩

mutual

theorem isShown_of_group (marks : Marks marked isMark) (tree : QueryTree) {words : List String}
    (written : tree.groupWords = .ok words) :
    ∀ part ∈ tree.within, marked part → IsShown isMark words := by
  cases tree with
  | node clauses optionals subqueries unions minuses services =>
      intro part mem isMarked
      rcases List.mem_cons.mp mem with rfl | mem
      · exact marks.shows _ words isMarked written
      simp only [groupWords, bind_eq_ok, pure_eq_ok] at written
      rcases written with ⟨own, isOwn, branches, areBranches, rfl⟩
      rcases subset_unionWords own branches with ⟨hasOwn, hasBranches⟩
      rcases ownGroupWords_eq_ok isOwn with
        ⟨written, parts, groups, areTexts, areParts, areGroups, hasTexts, hasParts, hasGroups⟩
      simp only [List.mem_append] at mem
      rcases mem with ((inSubqueries | inUnions) | inMinuses) | inServices
      · exact ((isShown_of_texts marks subqueries areTexts part inSubqueries isMarked).subqueryText).mono
          (List.Subset.trans hasTexts hasOwn)
      · exact (isShown_of_groups marks unions areBranches part inUnions isMarked).mono hasBranches
      · exact (isShown_of_groups marks minuses areGroups part inMinuses isMarked).mono
          (List.Subset.trans hasGroups hasOwn)
      · exact (isShown_of_services marks services areParts part inServices isMarked).mono
          (List.Subset.trans hasParts hasOwn)

theorem isShown_of_groups (marks : Marks marked isMark) (trees : List QueryTree) {parts : List (List String)}
    (written : groups trees = .ok parts) :
    ∀ part ∈ withinAll trees, marked part → IsShown isMark parts.flatten := by
  cases trees with
  | nil => simp [withinAll]
  | cons tree rest =>
      simp only [groups, bind_eq_ok, pure_eq_ok] at written
      rcases written with ⟨group, isGroup, others, areOthers, rfl⟩
      intro part mem isMarked
      rw [List.flatten_cons]
      rcases List.mem_append.mp mem with inTree | inRest
      · exact (isShown_of_group marks tree isGroup part inTree isMarked).mono (List.subset_append_left _ _)
      · exact (isShown_of_groups marks rest areOthers part inRest isMarked).mono (List.subset_append_right _ _)

theorem isShown_of_services (marks : Marks marked isMark) (services : List (ServiceSite × QueryTree))
    {parts : List (List String)} (written : serviceGroups services = .ok parts) :
    ∀ part ∈ withinServices services, marked part → IsShown isMark parts.flatten := by
  cases services with
  | nil => simp [withinServices]
  | cons service rest =>
      rcases service with ⟨site, tree⟩
      simp only [serviceGroups, serviceWords, bind_eq_ok, pure_eq_ok] at written
      rcases written with ⟨_, ⟨endpoint, _, group, isGroup, rfl⟩, others, areOthers, rfl⟩
      intro part mem isMarked
      rw [List.flatten_cons]
      rcases List.mem_append.mp mem with inTree | inRest
      · apply (isShown_of_group marks tree isGroup part inTree isMarked).mono
        intro word isWord
        simp [isWord]
      · exact (isShown_of_services marks rest areOthers part inRest isMarked).mono (List.subset_append_right _ _)

theorem isShown_of_texts (marks : Marks marked isMark) (trees : List QueryTree) {words : List String}
    (written : texts trees = .ok words) :
    ∀ part ∈ withinAll trees, marked part → IsShown isMark words := by
  cases trees with
  | nil => simp [withinAll]
  | cons tree rest =>
      simp only [texts, bind_eq_ok, pure_eq_ok] at written
      rcases written with ⟨text, isText, others, areOthers, rfl⟩
      intro part mem isMarked
      rcases List.mem_append.mp mem with inTree | inRest
      · exact (isShown_of_textAround marks isText inTree isMarked fun _ isGroup =>
          isShown_of_group marks tree isGroup part inTree isMarked).mono (by simp)
      · exact (isShown_of_texts marks rest areOthers part inRest isMarked).mono (by simp)

end

/-- A text shows what the group of a part of it shows. -/
theorem isShown_of_render (marks : Marks marked isMark) {tree part : QueryTree} {text : String}
    (written : tree.render = .ok text) (mem : part ∈ tree.within) (isMarked : marked part) :
    ∃ mark, isMark mark ∧ mark <:+: text.toList := by
  rcases isShown_of_textAround marks written mem isMarked fun _ isGroup =>
    isShown_of_group marks tree isGroup part mem isMarked with ⟨mark, isMark, word, isWord, isPart⟩
  cases List.mem_singleton.mp isWord
  exact ⟨mark, isMark, isPart⟩

end Parts

/-! ## Every sub-query is shown -/

theorem exists_of_mem_texts {sub : QueryTree} {trees : List QueryTree} {words : List String}
    (written : texts trees = .ok words) (mem : sub ∈ trees) : ∃ text ∈ words, sub.render = .ok text := by
  induction trees generalizing words with
  | nil => cases mem
  | cons tree rest ih =>
      simp only [texts, bind_eq_ok, pure_eq_ok] at written
      rcases written with ⟨text, isText, others, areOthers, rfl⟩
      rcases List.mem_cons.mp mem with rfl | mem
      · exact ⟨text, .head _, isText⟩
      · rcases ih areOthers mem with ⟨other, isOther, isSub⟩
        exact ⟨other, .tail _ isOther, isSub⟩

/-- The text of a query holds those of all its sub-queries between braces. -/
theorem infix_of_render {tree : QueryTree} {text : String} (written : tree.render = .ok text) :
    ∀ sub ∈ tree.attached, ∃ subText, sub.render = .ok subText ∧
      (subqueryText subText).toList <:+: text.toList := by
  intro sub mem
  rcases List.mem_flatMap.mp mem with ⟨part, isPart, isAttached⟩
  let isMark (mark : List Char) : Prop := ∃ subText, sub.render = .ok subText ∧ mark = (subqueryText subText).toList
  have marks : Marks (sub ∈ subqueries ·) isMark := by
    constructor
    · rintro ⟨clauses, optionals, attached, unions, minuses, services⟩ words isAttached written
      simp only [groupWords, bind_eq_ok, pure_eq_ok] at written
      rcases written with ⟨own, isOwn, branches, _, rfl⟩
      rcases ownGroupWords_eq_ok isOwn with ⟨subTexts, _, _, areTexts, _, _, hasTexts, _, _⟩
      rcases exists_of_mem_texts areTexts isAttached with ⟨subText, isText, isSub⟩
      exact ⟨_, ⟨subText, isSub, rfl⟩, subqueryText subText,
        (subset_unionWords own branches).1 (hasTexts (List.mem_map_of_mem isText)), List.infix_refl _⟩
    · rintro ⟨clauses, optionals, attached, unions, minuses, services⟩ isAttached
      have notEmpty : attached ≠ [] := List.ne_nil_of_mem isAttached
      simp [hasEmptyGroup, notEmpty]
  rcases isShown_of_render marks written isPart isAttached with ⟨_, ⟨subText, isSub, rfl⟩, isShown⟩
  exact ⟨subText, isSub, isShown⟩

/-! ## Legal sub-selects -/

/-- A text of a query that is its keyword and its projection, then its group, then its modifiers. -/
def IsSubselect (sub : QueryTree) (text : String) : Prop :=
  ∃ projection group modifiers, projectionWords sub.clauses = .ok projection ∧ sub.groupWords = .ok group ∧
    modifierWords sub.clauses = .ok modifiers ∧
    text = spaced ("SELECT" :: projection ++ "WHERE" :: group ++ modifiers) ∧
    ∀ word ∈ projection, ∀ keyword ∈ ["PREFIX", "FROM"], ¬ keyword.toList <+: word.toList

/-- No word of a projection begins as a declaration or a graph does. -/
theorem not_prefix_of_mem_projection {clauses : Clauses} {projection : List String}
    (written : projectionWords clauses = .ok projection) :
    ∀ word ∈ projection, ∀ keyword ∈ ["PREFIX", "FROM"], ¬ keyword.toList <+: word.toList := by
  intro word mem keyword isKeyword isPrefix
  rcases head_of_mem_projection written word mem with ⟨c, rest, isWord, isHead⟩
  rw [isWord] at isPrefix
  simp only [List.mem_cons, List.not_mem_nil, or_false] at isKeyword
  rcases isKeyword with rfl | rfl
  · cases (List.cons_prefix_cons.mp isPrefix).1
    cases isHead
  · cases (List.cons_prefix_cons.mp isPrefix).1
    cases isHead

theorem isSubselect_of_render {sub : QueryTree} {text : String} (isSelect : sub.clauses.form = .select)
    (noDeclarations : sub.clauses.prologue = []) (noGraphs : sub.clauses.fromGraphs = [])
    (written : sub.render = .ok text) : sub.IsSubselect text := by
  simp only [render, textAround_eq_map, wordsAround, whereWords, headWords, isSelect, noGraphs, List.mapM_nil,
    prologueWords, noDeclarations, List.map_nil, reduceCtorEq, decide_false, Bool.false_and, Bool.false_eq_true,
    if_false, map_eq_ok, bind_eq_ok, pure_eq_ok] at written
  rcases written with
    ⟨_, ⟨projection, isProjection, _, rfl, _, ⟨group, isGroup, rfl⟩, modifiers, areModifiers, rfl⟩, rfl⟩
  refine ⟨projection, group, modifiers, isProjection, isGroup, areModifiers, ?_,
    not_prefix_of_mem_projection isProjection⟩
  simp [Form.keyword]

/-! ## Declarations -/

mutual

/-- A query without the declarations that it and all that hangs on it make. -/
def undeclared : QueryTree → QueryTree
  | node clauses optionals subqueries unions minuses services =>
    node { clauses with prologue := [] } optionals (undeclaredAll subqueries) (undeclaredAll unions)
      (undeclaredAll minuses) (undeclaredServices services)

/-- Several queries without declarations. -/
def undeclaredAll : List QueryTree → List QueryTree
  | [] => []
  | tree :: rest => undeclared tree :: undeclaredAll rest

/-- The queries of several services without declarations. -/
def undeclaredServices : List (ServiceSite × QueryTree) → List (ServiceSite × QueryTree)
  | [] => []
  | (site, tree) :: rest => (site, undeclared tree) :: undeclaredServices rest

end

theorem clauses_undeclared (tree : QueryTree) : tree.undeclared.clauses = { tree.clauses with prologue := [] } := by
  cases tree
  rfl

theorem hasEmptyGroup_undeclared (tree : QueryTree) : tree.undeclared.hasEmptyGroup = tree.hasEmptyGroup := by
  cases tree with
  | node clauses optionals subqueries unions minuses services =>
      cases subqueries <;> cases unions <;> cases minuses <;> cases services <;> rfl

/-- Nothing behind the declarations depends on them. -/
theorem wordsAround_undeclared (tree : QueryTree) (group : Written) :
    tree.undeclared.wordsAround group = tree.wordsAround group := by
  simp only [wordsAround, whereWords, clauses_undeclared, hasEmptyGroup_undeclared]
  rfl

mutual

theorem groupWords_undeclared (tree : QueryTree) (noDeclarations : ∀ sub ∈ tree.attached, sub.clauses.prologue = []) :
    tree.undeclared.groupWords = tree.groupWords := by
  cases tree with
  | node clauses optionals subqueries unions minuses services =>
      simp only [attached, within, List.flatMap_cons, List.flatMap_append, List.forall_mem_append] at noDeclarations
      rcases noDeclarations with ⟨itself, ⟨⟨inSubqueries, inUnions⟩, inMinuses⟩, inServices⟩
      simp only [undeclared, groupWords, texts_undeclared subqueries itself inSubqueries,
        groups_undeclared unions inUnions, groups_undeclared minuses inMinuses,
        serviceGroups_undeclared services inServices]
      rfl

theorem groups_undeclared (trees : List QueryTree)
    (noDeclarations : ∀ sub ∈ (withinAll trees).flatMap subqueries, sub.clauses.prologue = []) :
    groups (undeclaredAll trees) = groups trees := by
  cases trees with
  | nil => rfl
  | cons tree rest =>
      simp only [withinAll, List.flatMap_append, List.forall_mem_append] at noDeclarations
      simp only [undeclaredAll, groups, groupWords_undeclared tree noDeclarations.1,
        groups_undeclared rest noDeclarations.2]

theorem serviceGroups_undeclared (services : List (ServiceSite × QueryTree))
    (noDeclarations : ∀ sub ∈ (withinServices services).flatMap subqueries, sub.clauses.prologue = []) :
    serviceGroups (undeclaredServices services) = serviceGroups services := by
  cases services with
  | nil => rfl
  | cons service rest =>
      rcases service with ⟨site, tree⟩
      simp only [withinServices, List.flatMap_append, List.forall_mem_append] at noDeclarations
      simp only [undeclaredServices, serviceGroups, groupWords_undeclared tree noDeclarations.1,
        serviceGroups_undeclared rest noDeclarations.2]

/-- Sub-queries without declarations of their own keep their texts. -/
theorem texts_undeclared (trees : List QueryTree) (direct : ∀ sub ∈ trees, sub.clauses.prologue = [])
    (noDeclarations : ∀ sub ∈ (withinAll trees).flatMap subqueries, sub.clauses.prologue = []) :
    texts (undeclaredAll trees) = texts trees := by
  cases trees with
  | nil => rfl
  | cons tree rest =>
      simp only [withinAll, List.flatMap_append, List.forall_mem_append] at noDeclarations
      simp only [List.forall_mem_cons] at direct
      have samePrologue : prologueWords tree.undeclared.clauses = prologueWords tree.clauses := by
        simp [clauses_undeclared, prologueWords, direct.1]
      simp only [undeclaredAll, texts, textAround_eq_map, wordsAround_undeclared, samePrologue,
        groupWords_undeclared tree noDeclarations.1, texts_undeclared rest direct.2 noDeclarations.2]

end

/-- Words behind others are written as their text is. -/
theorem spaced_append_spaced (front : List String) {behind : List String} (notEmpty : behind ≠ []) :
    spaced (front ++ [spaced behind]) = spaced (front ++ behind) := by
  induction front with
  | nil => simp [spaced]
  | cons word front ih =>
      apply String.toList_injective
      rw [List.cons_append, List.cons_append, toList_spaced_cons (by simp), toList_spaced_cons (by simp [notEmpty]), ih]

/-- If no sub-query makes declarations, all those of a text stand in front of it. -/
theorem render_undeclared {tree : QueryTree} {text : String}
    (noDeclarations : ∀ sub ∈ tree.attached, sub.clauses.prologue = []) (written : tree.render = .ok text) :
    ∃ rest, tree.undeclared.render = .ok rest ∧ text = spaced (prologueWords tree.clauses ++ [rest]) := by
  simp only [render, textAround_eq_map, map_eq_ok] at written
  rcases written with ⟨words, areWords, rfl⟩
  refine ⟨spaced words, ?_, (spaced_append_spaced _ (wordsAround_ne_nil areWords)).symm⟩
  simp only [render, textAround_eq_map, groupWords_undeclared tree noDeclarations, wordsAround_undeclared, areWords,
    clauses_undeclared]
  rfl

end QueryTree

end Sparql
