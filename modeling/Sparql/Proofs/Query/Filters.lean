import Sparql.Proofs.Query.ReadBack
import Sparql.Proofs.Query.Subselect

/-!
# Filters in texts

What stands between the parentheses of the filters in a text. The filters of a query and of its optional parts are
never blank, but a branch of a tagged union may test a variable for no IRIs at all: this test is written with nothing
between its parentheses, and every filter that encloses nothing comes from such a test, in the words of a text as in
its reading.
-/

namespace Sparql

open Outcome Syntax Text

/-! ## Tests for nothing -/

/-- Whether a branch tests a variable for none of the IRIs. -/
def BindBranch.HasEmptyTest (branch : BindBranch) : Prop := ∃ filter ∈ branch.filters, filter.2 = []

namespace QueryTree

/-- Whether a tagged union of the query itself has a branch with an empty test. -/
def HasEmptyTest (tree : QueryTree) : Prop :=
  ∃ block ∈ tree.clauses.bindUnions, ∃ branch ∈ block.branches, branch.HasEmptyTest

/-- No filter of a query or of its optional parts is blank. -/
structure FiltersSpeak (tree : QueryTree) : Prop where
  clauses : ∀ filter ∈ tree.clauses.filters, isAllBlank filter.toList = false
  optionals : ∀ group ∈ tree.optionals, ∀ filter ∈ group.filters, isAllBlank filter.text.toList = false

end QueryTree

/-! ## Words that are filters -/

/-- A word that begins as a filter does is one. What its parentheses enclose is not blank, or it is nothing, where
that is allowed. -/
def MayStand (mayBeEmpty : Prop) (word : String) : Prop :=
  word.toList.head? = some 'F' →
    ∃ body, word = filterText body ∧ (isAllBlank body.toList = false ∨ body = "" ∧ mayBeEmpty)

section Words

variable {mayBeEmpty : Prop} {word : String} {words : List String}

theorem MayStand.mono {other : Prop} (mayStand : MayStand mayBeEmpty word) (allowed : mayBeEmpty → other) :
    MayStand other word := by
  intro isFilter
  rcases mayStand isFilter with ⟨body, isWord, notBlank | ⟨isEmpty, mayBe⟩⟩
  · exact ⟨body, isWord, .inl notBlank⟩
  · exact ⟨body, isWord, .inr ⟨isEmpty, allowed mayBe⟩⟩

theorem mayStand_of_head (notFilter : word.toList.head? ≠ some 'F') : MayStand mayBeEmpty word :=
  fun isFilter => absurd isFilter notFilter

theorem mayStand_filterText {body : String} (notBlank : isAllBlank body.toList = false) :
    MayStand mayBeEmpty (filterText body) :=
  fun _ => ⟨body, rfl, .inl notBlank⟩

theorem Term.sign_ne (term : Term) : term.sign ≠ 'F' := by
  cases term <;> simp [sign]

theorem mayStand_of_render {term : Term} {text : String} (written : term.render = .ok text) :
    MayStand mayBeEmpty text := by
  rcases Term.exists_toList_of_render written with ⟨behind, isText⟩
  exact mayStand_of_head (by simp [isText, term.sign_ne])

/-- A pattern begins with the sign of its subject. -/
theorem mayStand_patterns {patterns : List Pattern} (written : Pattern.renderAll patterns = .ok words) :
    ∀ word ∈ words, MayStand mayBeEmpty word := by
  refine forall_of_mapM written fun pattern text isText => mayStand_of_head ?_
  simp only [Pattern.render, bind_eq_ok, pure_eq_ok] at isText
  rcases isText with ⟨subject, isSubject, predicate, _, object, _, rfl⟩
  rcases Term.exists_toList_of_render isSubject with ⟨behind, isText⟩
  simp [isText, pattern.subject.sign_ne]

theorem mem_joinWith {α : Type} {separator item : α} {parts : List (List α)}
    (mem : item ∈ joinWith separator parts) : item = separator ∨ ∃ part ∈ parts, item ∈ part := by
  induction parts with
  | nil => cases mem
  | cons part rest ih =>
      cases rest with
      | nil => exact .inr ⟨part, .head _, mem⟩
      | cons second rest =>
          simp only [joinWith, List.mem_append, List.mem_cons] at mem
          rcases mem with isFirst | isSeparator | isOther
          · exact .inr ⟨part, .head _, isFirst⟩
          · exact .inl isSeparator
          · rcases ih isOther with isSeparator | ⟨other, isPart, isItem⟩
            · exact .inl isSeparator
            · exact .inr ⟨other, .tail _ isPart, isItem⟩

theorem mayStand_joinWith {separator : String} {parts : List (List String)} (separates : MayStand mayBeEmpty separator)
    (each : ∀ part ∈ parts, ∀ word ∈ part, MayStand mayBeEmpty word) :
    ∀ word ∈ joinWith separator parts, MayStand mayBeEmpty word := by
  intro word mem
  rcases mem_joinWith mem with rfl | ⟨part, isPart, isWord⟩
  · exact separates
  · exact each part isPart word isWord

theorem mayStand_enclosing {opening : String} (notFilter : opening.toList.head? ≠ some 'F')
    (inside : ∀ word ∈ words, MayStand mayBeEmpty word) :
    ∀ word ∈ opening :: words ++ ["\x7d"], MayStand mayBeEmpty word := by
  have isClosing : MayStand mayBeEmpty "\x7d" := mayStand_of_head (by decide)
  simp only [List.forall_mem_append, List.forall_mem_cons]
  exact ⟨⟨mayStand_of_head notFilter, inside⟩, isClosing, List.forall_mem_nil _⟩

/-! ### Clauses -/

theorem mayStand_optional {group : OptionalGroup}
    (speaks : ∀ filter ∈ group.filters, isAllBlank filter.text.toList = false) (written : group.words = .ok words) :
    ∀ word ∈ words, MayStand mayBeEmpty word := by
  simp only [OptionalGroup.words, bind_eq_ok, pure_eq_ok] at written
  rcases written with ⟨patterns, arePatterns, rfl⟩
  refine mayStand_enclosing (by decide) (List.forall_mem_append.mpr ⟨mayStand_patterns arePatterns, ?_⟩)
  exact List.forall_mem_map.mpr fun filter isFilter => mayStand_filterText (speaks filter isFilter)

/-- A test for some IRIs begins with its variable. -/
theorem testText_eq_ok {name body : String} {iris : List String} (written : BindBranch.testText name iris = .ok body) :
    isAllBlank body.toList = false ∨ body = "" ∧ iris = [] := by
  simp only [BindBranch.testText, bind_eq_ok, pure_eq_ok] at written
  rcases written with ⟨tests, areTests, rfl⟩
  cases iris with
  | nil =>
      cases areTests
      exact .inr ⟨rfl, rfl⟩
  | cons iri iris =>
      simp only [List.mapM_cons, bind_eq_ok, pure_eq_ok, map_eq_ok] at areTests
      rcases areTests with ⟨_, ⟨text, _, rfl⟩, rest, _, rfl⟩
      have notBlank : isBlank '?' = false := by decide
      left
      rw [String.toList_intercalate]
      cases rest <;> simp [variableText, isAllBlank, notBlank]

theorem mayStand_branch {branch : BindBranch} (written : branch.words = .ok words) :
    ∀ word ∈ words, MayStand branch.HasEmptyTest word := by
  simp only [BindBranch.words, bind_eq_ok, pure_eq_ok] at written
  rcases written with ⟨patterns, arePatterns, tests, areTests, rfl⟩
  have filters : ∀ body ∈ tests, MayStand branch.HasEmptyTest (filterText body) := by
    intro body isTest
    rcases exists_of_mem_mapM areTests isTest with ⟨filter, isFilter, isBody⟩
    exact fun _ => ⟨body, rfl, (testText_eq_ok isBody).imp_right (.imp_right fun noIris => ⟨filter, isFilter, noIris⟩)⟩
  have binds : ∀ binding ∈ branch.binds, MayStand branch.HasEmptyTest (BindBranch.bindText binding.1 binding.2) :=
    fun binding _ => mayStand_of_head (by simp [BindBranch.bindText])
  refine mayStand_enclosing (by decide) (List.forall_mem_append.mpr ⟨List.forall_mem_append.mpr ⟨?_, ?_⟩, ?_⟩)
  · exact mayStand_patterns arePatterns
  · exact List.forall_mem_map.mpr filters
  · exact List.forall_mem_map.mpr binds

theorem mayStand_bindUnion {block : BindUnion} (written : block.words = .ok words) :
    ∀ word ∈ words, MayStand (∃ branch ∈ block.branches, branch.HasEmptyTest) word := by
  simp only [BindUnion.words, bind_eq_ok, pure_eq_ok] at written
  rcases written with ⟨branches, areBranches, rfl⟩
  have body : ∀ word ∈ joinWith "UNION" branches, MayStand (∃ branch ∈ block.branches, branch.HasEmptyTest) word := by
    apply mayStand_joinWith (mayStand_of_head (by decide))
    intro part isPart word mem
    rcases exists_of_mem_mapM areBranches isPart with ⟨branch, isBranch, isWritten⟩
    exact (mayStand_branch isWritten word mem).mono fun isEmpty => ⟨branch, isBranch, isEmpty⟩
  split
  · exact mayStand_enclosing (by decide) body
  · exact body

theorem head_of_cellText {cell : Option Term} {text : String} (written : cellText cell = .ok text) :
    ∃ c behind, text.toList = c :: behind ∧ c ≠ 'F' := by
  cases cell with
  | none =>
      cases written
      exact ⟨'U', "NDEF".toList, rfl, by decide⟩
  | some term =>
      rcases Term.exists_toList_of_render written with ⟨behind, isText⟩
      exact ⟨term.sign, behind, isText, term.sign_ne⟩

theorem mayStand_row {row : List (Option Term)} (written : rowWords row = .ok words) :
    ∀ word ∈ words, MayStand mayBeEmpty word := by
  simp only [rowWords, bind_eq_ok, pure_eq_ok] at written
  rcases written with ⟨cells, areCells, rfl⟩
  have inside : MayStand mayBeEmpty (spaced cells) := by
    apply mayStand_of_head
    cases cells with
    | nil => decide
    | cons first rest =>
        rcases exists_of_mem_mapM areCells (.head _) with ⟨cell, _, isCell⟩
        rcases head_of_cellText isCell with ⟨c, behind, isFirst, notFilter⟩
        cases rest with
        | nil => simp [spaced, isFirst, notFilter]
        | cons second rest => simp [toList_spaced_cons, isFirst, notFilter]
  simp only [List.forall_mem_cons]
  exact ⟨mayStand_of_head (by decide), inside, mayStand_of_head (by decide), List.forall_mem_nil _⟩

theorem mayStand_values {block : ValuesBlock} (written : block.words = .ok words) :
    ∀ word ∈ words, MayStand mayBeEmpty word := by
  simp only [ValuesBlock.words, bind_eq_ok, pure_eq_ok] at written
  rcases written with ⟨rows, areRows, rfl⟩
  refine mayStand_enclosing (by simp) (List.forall_mem_flatten.mpr ?_)
  exact forall_of_mapM areRows fun _ _ => mayStand_row

/-! ### Groups -/

variable {clauses : Clauses} {optionals : List OptionalGroup}

theorem mayStand_inlineData (written : QueryTree.valuesWords clauses = .ok words) :
    ∀ word ∈ words, MayStand mayBeEmpty word := by
  unfold QueryTree.valuesWords at written
  cases isValues : clauses.values with
  | none =>
      rw [isValues] at written
      cases written
      exact List.forall_mem_nil _
  | some block =>
      rw [isValues] at written
      exact mayStand_values written

theorem mayStand_inner {subqueries : Written} {services : WrittenParts}
    (clausesSpeak : ∀ filter ∈ clauses.filters, isAllBlank filter.toList = false)
    (optionalsSpeak : ∀ group ∈ optionals, ∀ filter ∈ group.filters, isAllBlank filter.text.toList = false)
    (inServices : ∀ parts, services = .ok parts → ∀ word ∈ parts.flatten, MayStand mayBeEmpty word)
    (written : innerWords clauses optionals subqueries services = .ok words) :
    ∀ word ∈ words, MayStand mayBeEmpty word := by
  simp only [QueryTree.innerWords_eq, bind_eq_ok, pure_eq_ok] at written
  rcases written with
    ⟨texts, areTexts, patterns, arePatterns, groups, areGroups, parts, areParts, values, areValues, rfl⟩
  have inTexts : ∀ text ∈ texts, MayStand mayBeEmpty (subqueryText text) :=
    fun text _ => mayStand_of_head (by simp [subqueryText])
  have inOptionals : ∀ part ∈ groups, ∀ word ∈ part, MayStand mayBeEmpty word := by
    intro part isPart
    rcases exists_of_mem_mapM areGroups isPart with ⟨group, isGroup, isWritten⟩
    exact mayStand_optional (optionalsSpeak group isGroup) isWritten
  have inFilters : ∀ filter ∈ clauses.filters, MayStand mayBeEmpty (filterText filter) :=
    fun filter isFilter => mayStand_filterText (clausesSpeak filter isFilter)
  simp only [List.forall_mem_append, List.forall_mem_map]
  exact ⟨⟨⟨⟨⟨inTexts, mayStand_patterns arePatterns⟩, List.forall_mem_flatten.mpr inOptionals⟩, inFilters⟩,
    inServices parts areParts⟩, mayStand_inlineData areValues⟩

theorem mayStand_enclosed {graph : Option Term} {inner : Written}
    (inside : ∀ enclosed, inner = .ok enclosed → ∀ word ∈ enclosed, MayStand mayBeEmpty word)
    (written : enclosedWords graph inner = .ok words) : ∀ word ∈ words, MayStand mayBeEmpty word := by
  cases graph with
  | none => exact inside words written
  | some term =>
      simp only [enclosedWords, bind_eq_ok, pure_eq_ok] at written
      rcases written with ⟨name, _, enclosed, isEnclosed, rfl⟩
      have isName : MayStand mayBeEmpty ("GRAPH " ++ name) := mayStand_of_head (by simp)
      exact List.forall_mem_cons.mpr ⟨isName, mayStand_enclosing (by decide) (inside enclosed isEnclosed)⟩

theorem mayStand_own {subqueries : Written} {services minuses : WrittenParts}
    (inner : ∀ enclosed, innerWords clauses optionals subqueries services = .ok enclosed →
      ∀ word ∈ enclosed, MayStand mayBeEmpty word)
    (inMinuses : ∀ parts, minuses = .ok parts → ∀ word ∈ parts.flatten, MayStand mayBeEmpty word)
    (mayTest : (∃ block ∈ clauses.bindUnions, ∃ branch ∈ block.branches, branch.HasEmptyTest) → mayBeEmpty)
    (written : ownGroupWords clauses optionals subqueries services minuses = .ok words) :
    ∀ word ∈ words, MayStand mayBeEmpty word := by
  simp only [ownGroupWords, bind_eq_ok, pure_eq_ok] at written
  rcases written with ⟨enclosed, isEnclosed, groups, areGroups, blocks, areBlocks, rfl⟩
  have isMinus : MayStand mayBeEmpty "MINUS" := mayStand_of_head (by decide)
  have removed : ∀ part ∈ groups.map ("MINUS" :: ·), ∀ word ∈ part, MayStand mayBeEmpty word :=
    List.forall_mem_map.mpr fun group isGroup => List.forall_mem_cons.mpr
      ⟨isMinus, List.forall_mem_flatten.mp (inMinuses groups areGroups) group isGroup⟩
  have tagged : ∀ part ∈ blocks, ∀ word ∈ part, MayStand mayBeEmpty word := by
    intro part isPart word isWord
    rcases exists_of_mem_mapM areBlocks isPart with ⟨block, isBlock, isWritten⟩
    exact (mayStand_bindUnion isWritten word isWord).mono fun isEmpty => mayTest ⟨block, isBlock, isEmpty⟩
  refine mayStand_enclosing (by decide) (List.forall_mem_append.mpr ⟨List.forall_mem_append.mpr ⟨?_, ?_⟩, ?_⟩)
  · exact mayStand_enclosed inner isEnclosed
  · exact List.forall_mem_flatten.mpr removed
  · exact List.forall_mem_flatten.mpr tagged

theorem mayStand_union {own : List String} {unions : List (List String)}
    (inOwn : ∀ word ∈ own, MayStand mayBeEmpty word) (inUnions : ∀ word ∈ unions.flatten, MayStand mayBeEmpty word) :
    ∀ word ∈ unionWords own unions, MayStand mayBeEmpty word := by
  have joined : ∀ word ∈ joinWith "UNION" (own :: unions), MayStand mayBeEmpty word :=
    mayStand_joinWith (mayStand_of_head (by decide))
      (List.forall_mem_cons.mpr ⟨inOwn, List.forall_mem_flatten.mp inUnions⟩)
  unfold unionWords
  split
  · exact inOwn
  · exact mayStand_enclosing (by decide) joined

theorem mayStand_service {site : ServiceSite} {group : Written}
    (inGroup : ∀ inner, group = .ok inner → ∀ word ∈ inner, MayStand mayBeEmpty word)
    (written : serviceWords site group = .ok words) : ∀ word ∈ words, MayStand mayBeEmpty word := by
  simp only [serviceWords, bind_eq_ok, pure_eq_ok] at written
  rcases written with ⟨endpoint, isEndpoint, inner, isInner, rfl⟩
  have isService : MayStand mayBeEmpty "SERVICE" := mayStand_of_head (by decide)
  have isSilent : ∀ word ∈ if site.silent then ["SILENT"] else [], MayStand mayBeEmpty word := by
    cases site.silent
    · exact List.forall_mem_nil _
    · exact List.forall_mem_singleton.mpr (mayStand_of_head (by decide))
  simp only [List.forall_mem_cons, List.forall_mem_append]
  exact ⟨⟨isService, isSilent⟩, mayStand_of_render isEndpoint, inGroup inner isInner⟩

end Words

namespace QueryTree

variable {mayBeEmpty : Prop} {words : List String}

mutual

/-- The words of a group that are filters say something, but for the empty tests in it. -/
theorem mayStand_of_group (tree : QueryTree) (speaks : ∀ part ∈ tree.within, part.FiltersSpeak)
    (mayTest : ∀ part ∈ tree.within, part.HasEmptyTest → mayBeEmpty) {words : List String}
    (written : tree.groupWords = .ok words) : ∀ word ∈ words, MayStand mayBeEmpty word := by
  cases tree with
  | node clauses optionals subqueries unions minuses services =>
      simp only [within, List.forall_mem_cons, List.forall_mem_append] at speaks mayTest
      rcases speaks with ⟨itself, ⟨⟨_, inUnions⟩, inMinuses⟩, inServices⟩
      rcases mayTest with ⟨ofItself, ⟨⟨_, ofUnions⟩, ofMinuses⟩, ofServices⟩
      simp only [groupWords, bind_eq_ok, pure_eq_ok] at written
      rcases written with ⟨own, isOwn, branches, areBranches, rfl⟩
      have enclosed : ∀ inner, innerWords clauses optionals (texts subqueries) (serviceGroups services) = .ok inner →
          ∀ word ∈ inner, MayStand mayBeEmpty word := fun _ isInner =>
        mayStand_inner itself.clauses itself.optionals
          (fun _ areParts => mayStand_of_services services inServices ofServices areParts) isInner
      have removed : ∀ parts, groups minuses = .ok parts → ∀ word ∈ parts.flatten, MayStand mayBeEmpty word :=
        fun _ areParts => mayStand_of_groups minuses inMinuses ofMinuses areParts
      exact mayStand_union (mayStand_own enclosed removed ofItself isOwn)
        (mayStand_of_groups unions inUnions ofUnions areBranches)

theorem mayStand_of_groups (trees : List QueryTree) (speaks : ∀ part ∈ withinAll trees, part.FiltersSpeak)
    (mayTest : ∀ part ∈ withinAll trees, part.HasEmptyTest → mayBeEmpty) {parts : List (List String)}
    (written : groups trees = .ok parts) : ∀ word ∈ parts.flatten, MayStand mayBeEmpty word := by
  cases trees with
  | nil =>
      simp only [groups, Except.ok.injEq] at written
      simp [← written]
  | cons tree rest =>
      simp only [withinAll, List.forall_mem_append] at speaks mayTest
      simp only [groups, bind_eq_ok, pure_eq_ok] at written
      rcases written with ⟨group, isGroup, others, areOthers, rfl⟩
      rw [List.flatten_cons, List.forall_mem_append]
      exact ⟨mayStand_of_group tree speaks.1 mayTest.1 isGroup,
        mayStand_of_groups rest speaks.2 mayTest.2 areOthers⟩

theorem mayStand_of_services (services : List (ServiceSite × QueryTree))
    (speaks : ∀ part ∈ withinServices services, part.FiltersSpeak)
    (mayTest : ∀ part ∈ withinServices services, part.HasEmptyTest → mayBeEmpty) {parts : List (List String)}
    (written : serviceGroups services = .ok parts) : ∀ word ∈ parts.flatten, MayStand mayBeEmpty word := by
  cases services with
  | nil =>
      simp only [serviceGroups, Except.ok.injEq] at written
      simp [← written]
  | cons service rest =>
      rcases service with ⟨site, tree⟩
      simp only [withinServices, List.forall_mem_append] at speaks mayTest
      simp only [serviceGroups, bind_eq_ok, pure_eq_ok] at written
      rcases written with ⟨part, isPart, others, areOthers, rfl⟩
      rw [List.flatten_cons, List.forall_mem_append]
      exact ⟨mayStand_service (fun _ isGroup => mayStand_of_group tree speaks.1 mayTest.1 isGroup) isPart,
        mayStand_of_services rest speaks.2 mayTest.2 areOthers⟩

end

/-! ## Empty tests are shown -/

/-- The spelling of an empty test is that of a filter with nothing between its parentheses. -/
theorem mem_of_hasEmptyTest {branch : BindBranch} (isEmpty : branch.HasEmptyTest) (written : branch.words = .ok words) :
    filterText "" ∈ words := by
  simp only [BindBranch.words, bind_eq_ok, pure_eq_ok] at written
  rcases written with ⟨patterns, _, tests, areTests, rfl⟩
  rcases isEmpty with ⟨⟨name, iris⟩, isFilter, rfl⟩
  rcases exists_of_mapM_mem areTests isFilter with ⟨body, isTest, isBody⟩
  cases isBody
  simp only [List.mem_append, List.mem_map]
  exact .inl (.inl (.inr ⟨"", isTest, rfl⟩))

theorem mem_of_bindUnion {block : BindUnion} {branch : BindBranch} (isBranch : branch ∈ block.branches)
    (isEmpty : branch.HasEmptyTest) (written : block.words = .ok words) : filterText "" ∈ words := by
  simp only [BindUnion.words, bind_eq_ok, pure_eq_ok] at written
  rcases written with ⟨branches, areBranches, rfl⟩
  rcases exists_of_mapM_mem areBranches isBranch with ⟨part, isPart, isWritten⟩
  have joined : filterText "" ∈ joinWith "UNION" branches :=
    subset_joinWith (List.mem_flatten.mpr ⟨part, isPart, mem_of_hasEmptyTest isEmpty isWritten⟩)
  split
  · simp [joined]
  · exact joined

theorem marks_hasEmptyTest : Marks HasEmptyTest (· = (filterText "").toList) := by
  constructor
  · rintro ⟨clauses, optionals, subqueries, unions, minuses, services⟩ words ⟨block, isBlock, branch, isBranch, isEmpty⟩
      written
    simp only [groupWords, ownGroupWords, bind_eq_ok, pure_eq_ok] at written
    rcases written with ⟨_, ⟨enclosed, _, groups, _, blocks, areBlocks, rfl⟩, branches, _, rfl⟩
    rcases exists_of_mapM_mem areBlocks isBlock with ⟨part, isPart, isWritten⟩
    have inBlocks : filterText "" ∈ blocks.flatten :=
      List.mem_flatten.mpr ⟨part, isPart, mem_of_bindUnion isBranch isEmpty isWritten⟩
    refine ⟨_, rfl, filterText "", (subset_unionWords _ branches).1 ?_, List.infix_refl _⟩
    simp [inBlocks]
  · rintro ⟨clauses, optionals, subqueries, unions, minuses, services⟩ ⟨block, isBlock, _⟩
    have notEmpty : clauses.bindUnions ≠ [] := List.ne_nil_of_mem isBlock
    simp [hasEmptyGroup, notEmpty]

end QueryTree

/-! ## Parts at any depth -/

namespace Syntax

/-- The parts that stand directly in a part. -/
def Part.children : Part → List Part
  | .union branches => branches.flatten
  | .optional group | .minus group | .graph _ group | .service _ _ group | .existence _ group => group
  | .query _ group _ => group.getD []
  | .triples _ _ | .filter _ _ | .bind _ _ | .values _ _ => []

/-- A part that stands somewhere in a group. -/
inductive Stands (part : Part) : List Part → Prop
  | here {group : List Part} : part ∈ group → Stands part group
  | inside {group : List Part} {other : Part} : other ∈ group → Stands part other.children → Stands part group

section Stands

variable {part : Part}

@[simp] theorem not_stands_nil : ¬ Stands part [] := by
  rintro (isHere | ⟨isOther, _⟩)
  · cases isHere
  · cases isOther

@[simp] theorem stands_cons {other : Part} {group : List Part} :
    Stands part (other :: group) ↔ part = other ∨ Stands part other.children ∨ Stands part group := by
  constructor
  · rintro (isHere | ⟨isInside, stands⟩)
    · exact (List.mem_cons.mp isHere).imp_right fun isHere => .inr (.here isHere)
    · rcases List.mem_cons.mp isInside with rfl | isInside
      · exact .inr (.inl stands)
      · exact .inr (.inr (.inside isInside stands))
  · rintro (rfl | stands | (isHere | ⟨isInside, stands⟩))
    · exact .here (.head _)
    · exact .inside (.head _) stands
    · exact .here (.tail _ isHere)
    · exact .inside (.tail _ isInside) stands

@[simp] theorem stands_append {first second : List Part} :
    Stands part (first ++ second) ↔ Stands part first ∨ Stands part second := by
  induction first with
  | nil => simp
  | cons other rest ih => simp [ih, or_assoc]

theorem stands_flatten {groups : List (List Part)} :
    Stands part groups.flatten ↔ ∃ group ∈ groups, Stands part group := by
  induction groups with
  | nil => simp
  | cons group rest ih => simp [ih]

theorem stands_map {α : Type} {items : List α} {parts : α → Part} :
    Stands part (items.map parts) ↔ ∃ item ∈ items, part = parts item ∨ Stands part (parts item).children := by
  induction items with
  | nil => simp
  | cons item rest ih => simp [ih, or_assoc]

end Stands

/-- A filter with nothing between its parentheses. -/
def emptyFilter : Part := .filter none []

/-- A text without comments of which nothing is read is blank. -/
theorem isAllBlank_of_lex {text : List Char} (noComment : '#' ∉ text) (isNothing : lex text = some []) :
    isAllBlank text = true := by
  induction text using text_induction with
  | nil => rfl
  | space c text isSpace ih =>
      rw [lex_space isSpace] at isNothing
      have blank : isBlank c = true := by
        simp only [Syntax.isSpace, Bool.or_eq_true, decide_eq_true_eq] at isSpace
        rcases isSpace with ((rfl | rfl) | rfl) | rfl <;> decide
      have rest : isAllBlank text = true := ih (fun mem => noComment (.tail _ mem)) isNothing
      simp only [isAllBlank, List.all_cons, blank, Bool.true_and]
      exact rest
  | comment text => exact absurd (.head _) noComment
  | token c text starts ih =>
      rcases isRead : readToken? (c :: text) with _ | ⟨token, rest⟩
      · rw [lex_broken starts isRead] at isNothing
        cases isNothing
      · rw [lex_token starts isRead] at isNothing
        rcases Option.map_eq_some_iff.mp isNothing with ⟨_, _, isCons⟩
        cases isCons

end Syntax

theorem rawTokens_ne_nil {text : String} (plain : IsPlain text) (notBlank : isAllBlank text.toList = false) :
    rawTokens text ≠ [] := by
  intro isEmpty
  have isNothing := exists_rawTokens plain.notStructural
  rw [isEmpty] at isNothing
  have noComment : '#' ∉ text.toList := fun mem => by cases plain.notStructural '#' mem
  rw [isAllBlank_of_lex noComment isNothing] at notBlank
  cases notBlank

/-- The only test that has no tokens is the one for no IRIs. -/
theorem BindBranch.testTokens_eq_nil {name : String} {iris : List String} : testTokens name iris = [] ↔ iris = [] := by
  unfold testTokens
  cases iris with
  | nil => simp
  | cons iri rest => cases rest <;> simp

theorem not_stands_patterns (patterns : List Pattern) : ¬ Stands emptyFilter (patterns.map Pattern.part) := by
  simp [stands_map, emptyFilter, Pattern.part, Part.triple, Part.children]

theorem not_stands_optional {group : OptionalGroup}
    (speaks : ∀ filter ∈ group.filters, isAllBlank filter.text.toList = false)
    (arePlain : ∀ filter ∈ group.filters, IsPlain filter.text) : ¬ Stands emptyFilter [group.part] := by
  have noFilter : ∀ filter ∈ group.filters, [] ≠ rawTokens filter.text := fun filter mem =>
    (rawTokens_ne_nil (arePlain filter mem) (speaks filter mem)).symm
  have noPattern := not_stands_patterns group.patterns
  simp only [OptionalGroup.part, stands_cons, Part.children, stands_append, noPattern]
  simpa [stands_map, emptyFilter, Part.children] using noFilter

theorem stands_branch {branch : BindBranch} : Stands emptyFilter branch.parts ↔ branch.HasEmptyTest := by
  have noPattern := not_stands_patterns branch.patterns
  simp only [BindBranch.parts, stands_append, noPattern, false_or]
  simp [stands_map, emptyFilter, Part.children, BindBranch.HasEmptyTest, eq_comm (a := []),
    BindBranch.testTokens_eq_nil]

theorem stands_bindUnion {block : BindUnion} :
    Stands emptyFilter [block.part] ↔ ∃ branch ∈ block.branches, branch.HasEmptyTest := by
  have inBranches : Stands emptyFilter (block.branches.map BindBranch.parts).flatten ↔
      ∃ branch ∈ block.branches, branch.HasEmptyTest := by
    simp [stands_flatten, stands_branch]
  rw [← inBranches]
  unfold BindUnion.part
  cases block.optional <;> simp [emptyFilter, Part.children]

theorem not_stands_values (blocks : List ValuesBlock) : ¬ Stands emptyFilter (blocks.map ValuesBlock.part) := by
  simp [stands_map, emptyFilter, ValuesBlock.part, Part.children]

section Groups

variable {clauses : Clauses} {optionals : List OptionalGroup} {queries services : List Part}
  {minuses unions : List (List Part)}

theorem stands_inner (clausesSpeak : ∀ filter ∈ clauses.filters, isAllBlank filter.toList = false)
    (optionalsSpeak : ∀ group ∈ optionals, ∀ filter ∈ group.filters, isAllBlank filter.text.toList = false)
    (clausesPlain : ∀ filter ∈ clauses.filters, IsPlain filter)
    (optionalsPlain : ∀ group ∈ optionals, ∀ filter ∈ group.filters, IsPlain filter.text) :
    Stands emptyFilter (innerParts clauses optionals queries services) ↔
      Stands emptyFilter queries ∨ Stands emptyFilter services := by
  have noOptional : ¬ Stands emptyFilter (optionals.map OptionalGroup.part) := by
    have each : ∀ group ∈ optionals, ¬ Stands emptyFilter [group.part] := fun group mem =>
      not_stands_optional (optionalsSpeak group mem) (optionalsPlain group mem)
    simpa [stands_map] using each
  have noFilter : ¬ Stands emptyFilter (clauses.filters.map fun filter => .filter none (rawTokens filter)) := by
    have each : ∀ filter ∈ clauses.filters, [] ≠ rawTokens filter := fun filter mem =>
      (rawTokens_ne_nil (clausesPlain filter mem) (clausesSpeak filter mem)).symm
    simpa [stands_map, emptyFilter, Part.children] using each
  have ofQueries : Stands emptyFilter (queries.map subqueryPart) ↔ Stands emptyFilter queries := by
    induction queries with
    | nil => rfl
    | cons query rest ih =>
        have notUnion : emptyFilter ≠ subqueryPart query := nofun
        have inside : (subqueryPart query).children = [query] := rfl
        simp [ih, notUnion, inside, or_assoc]
  simp only [innerParts, stands_append, ofQueries, not_stands_patterns, noOptional, noFilter, not_stands_values,
    or_false]

theorem stands_enclosed {graph : Option Term} {inner : List Part} :
    Stands emptyFilter (enclosedParts graph inner) ↔ Stands emptyFilter inner := by
  cases graph <;> simp [enclosedParts, emptyFilter, Part.children]

theorem stands_own :
    Stands emptyFilter (ownParts clauses optionals queries services minuses) ↔
      Stands emptyFilter (innerParts clauses optionals queries services) ∨ Stands emptyFilter minuses.flatten ∨
        ∃ block ∈ clauses.bindUnions, ∃ branch ∈ block.branches, branch.HasEmptyTest := by
  have inMinuses : Stands emptyFilter (minuses.map .minus) ↔ Stands emptyFilter minuses.flatten := by
    simp [stands_map, stands_flatten, emptyFilter, Part.children]
  have inBlocks : Stands emptyFilter (clauses.bindUnions.map BindUnion.part) ↔
      ∃ block ∈ clauses.bindUnions, ∃ branch ∈ block.branches, branch.HasEmptyTest := by
    simp only [← stands_bindUnion]
    simp [stands_map]
  simp only [ownParts, stands_append, stands_enclosed, inMinuses, inBlocks, or_assoc]

theorem stands_union {own : List Part} :
    Stands emptyFilter (unionParts own unions) ↔ Stands emptyFilter own ∨ Stands emptyFilter unions.flatten := by
  cases unions <;> simp [unionParts, emptyFilter, Part.children]

end Groups

namespace QueryTree

theorem groupParts_of_hasEmptyGroup {tree : QueryTree} (isEmpty : tree.hasEmptyGroup) : tree.groupParts = [] := by
  rcases tree with ⟨clauses, optionals, subqueries, unions, minuses, services⟩
  simp only [hasEmptyGroup, Bool.and_eq_true, List.isEmpty_iff, Option.isNone_iff_eq_none] at isEmpty
  rcases isEmpty with ⟨⟨⟨⟨⟨⟨⟨⟨⟨noPatterns, rfl⟩, rfl⟩, noFilters⟩, rfl⟩, noValues⟩, rfl⟩, rfl⟩, noBlocks⟩, noGraph⟩
  simp [groupParts, groupsParts, queryParts, serviceParts, unionParts, ownParts, enclosedParts, innerParts,
    noPatterns, noFilters, noValues, noBlocks, noGraph]

/-- The group of a query may be left out only if it is empty. -/
theorem stands_query (tree : QueryTree) :
    Stands emptyFilter [tree.queryPart tree.groupParts] ↔ Stands emptyFilter tree.groupParts := by
  unfold queryPart
  split
  · rename_i isGroupless
    have isEmpty : tree.hasEmptyGroup := (Bool.and_eq_true_iff.mp isGroupless).2
    simp [emptyFilter, Part.children, groupParts_of_hasEmptyGroup isEmpty]
  · simp [emptyFilter, Part.children]

mutual

/-- A group that is read holds a filter with nothing between its parentheses exactly if there is an empty test in
it. -/
theorem stands_group (tree : QueryTree) (readable : ∀ part ∈ tree.within, part.IsReadable)
    (speaks : ∀ part ∈ tree.within, part.FiltersSpeak) :
    Stands emptyFilter tree.groupParts ↔ ∃ part ∈ tree.within, part.HasEmptyTest := by
  cases tree with
  | node clauses optionals subqueries unions minuses services =>
      simp only [within, List.forall_mem_cons, List.forall_mem_append] at readable speaks
      rcases readable with ⟨itself, ⟨⟨inSubqueries, inUnions⟩, inMinuses⟩, inServices⟩
      rcases speaks with ⟨own, ⟨⟨ofSubqueries, ofUnions⟩, ofMinuses⟩, ofServices⟩
      have filtersPlain : ∀ filter ∈ clauses.filters, IsPlain filter := fun filter mem =>
        itself.clauses_rawTexts filter (List.mem_append_left _ (List.mem_append_left _ mem))
      have inner : Stands emptyFilter (innerParts clauses optionals (queryParts subqueries) (serviceParts services)) ↔
          Stands emptyFilter (queryParts subqueries) ∨ Stands emptyFilter (serviceParts services) :=
        stands_inner own.clauses own.optionals filtersPlain itself.optionals_filters
      have itsOwn : HasEmptyTest (node clauses optionals subqueries unions minuses services) ↔
          ∃ block ∈ clauses.bindUnions, ∃ branch ∈ block.branches, branch.HasEmptyTest := Iff.rfl
      rw [groupParts, stands_union, stands_own, inner, ← itsOwn, stands_queries subqueries inSubqueries ofSubqueries,
        stands_services services inServices ofServices, stands_groups minuses inMinuses ofMinuses,
        stands_groups unions inUnions ofUnions]
      simp only [within, List.mem_cons, List.mem_append, or_and_right, exists_or, exists_eq_left]
      -- the services stand before the minuses in the group, and behind all else in the tree
      simp only [or_assoc, or_comm, or_left_comm]

theorem stands_groups (trees : List QueryTree) (readable : ∀ part ∈ withinAll trees, part.IsReadable)
    (speaks : ∀ part ∈ withinAll trees, part.FiltersSpeak) :
    Stands emptyFilter (groupsParts trees).flatten ↔ ∃ part ∈ withinAll trees, part.HasEmptyTest := by
  cases trees with
  | nil => simp [groupsParts, withinAll]
  | cons tree rest =>
      simp only [withinAll, List.forall_mem_append] at readable speaks
      simp only [groupsParts, List.flatten_cons, stands_append, stands_group tree readable.1 speaks.1,
        stands_groups rest readable.2 speaks.2, withinAll, List.mem_append, or_and_right, exists_or]

theorem stands_services (services : List (ServiceSite × QueryTree))
    (readable : ∀ part ∈ withinServices services, part.IsReadable)
    (speaks : ∀ part ∈ withinServices services, part.FiltersSpeak) :
    Stands emptyFilter (serviceParts services) ↔ ∃ part ∈ withinServices services, part.HasEmptyTest := by
  cases services with
  | nil => simp [serviceParts, withinServices]
  | cons service rest =>
      rcases service with ⟨site, tree⟩
      simp only [withinServices, List.forall_mem_append] at readable speaks
      have notService : emptyFilter ≠ .service site.silent site.endpoint.token tree.groupParts := nofun
      simp only [serviceParts, stands_cons, notService, Part.children, stands_group tree readable.1 speaks.1,
        stands_services rest readable.2 speaks.2, withinServices, List.mem_append, or_and_right, exists_or,
        false_or]

theorem stands_queries (trees : List QueryTree) (readable : ∀ part ∈ withinAll trees, part.IsReadable)
    (speaks : ∀ part ∈ withinAll trees, part.FiltersSpeak) :
    Stands emptyFilter (queryParts trees) ↔ ∃ part ∈ withinAll trees, part.HasEmptyTest := by
  cases trees with
  | nil => simp [queryParts, withinAll]
  | cons tree rest =>
      simp only [withinAll, List.forall_mem_append] at readable speaks
      have first := (stands_query tree).trans (stands_group tree readable.1 speaks.1)
      rw [queryParts, ← List.singleton_append, stands_append, first, stands_queries rest readable.2 speaks.2]
      simp only [withinAll, List.mem_append, or_and_right, exists_or]

end

end QueryTree

end Sparql
