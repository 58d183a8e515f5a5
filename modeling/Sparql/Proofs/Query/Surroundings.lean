import Sparql.Proofs.Query.Subselect

/-!
# What stands around a sub-query

The text of a query holds the text of each of its sub-queries between braces. What stands in front of these braces
and behind them comes from everything else in the query, and not from the sub-query. The modifiers of the query are
the last of it.
-/

namespace Sparql

open Outcome

namespace QueryTree

/-- What is written with a sub-query has the braces of the sub-query between words that are the same whatever the
sub-query comes to, unless the sub-query cannot be written. -/
def Surrounds (written : Except RenderError String → Written) : Prop :=
  ∃ front back, ∀ sub, written sub = sub.map fun text => front ++ subqueryText text :: back

variable {clauses : Clauses} {optionals : List OptionalGroup} {text : String} {words : List String}
variable {subqueries : Except RenderError String → Written} {services minuses : WrittenParts}

/-! ## From the inside out -/

theorem surrounds_inner {before behind : List String}
    (written : innerWords clauses optionals (.ok (before ++ text :: behind)) services = .ok words) :
    Surrounds fun sub => innerWords clauses optionals (sub.map fun text => before ++ text :: behind) services := by
  simp only [innerWords_eq, bind_eq_ok, pure_eq_ok] at written
  rcases written with ⟨_, _, patterns, arePatterns, groups, areGroups, parts, areParts, values, areValues, _⟩
  refine ⟨before.map subqueryText, behind.map subqueryText ++ patterns ++ groups.flatten
    ++ clauses.filters.map filterText ++ parts.flatten ++ values, fun sub => ?_⟩
  simp only [innerWords_eq, arePatterns, areGroups, areParts, areValues]
  cases sub with
  | error cause => rfl
  | ok text => simp [Except.map, bind, Except.bind, pure, Except.pure]

theorem Surrounds.enclosed {graph : Option Term} (surrounds : Surrounds subqueries)
    (written : enclosedWords graph (subqueries (.ok text)) = .ok words) :
    Surrounds fun sub => enclosedWords graph (subqueries sub) := by
  rcases surrounds with ⟨front, back, around⟩
  cases graph with
  | none => exact ⟨front, back, around⟩
  | some term =>
      simp only [enclosedWords, bind_eq_ok] at written
      rcases written with ⟨name, isName, _⟩
      refine ⟨("GRAPH " ++ name) :: "\x7b" :: front, back ++ ["\x7d"], fun sub => ?_⟩
      simp only [enclosedWords, isName, around]
      cases sub with
      | error cause => rfl
      | ok text => simp [Except.map, bind, Except.bind, pure, Except.pure]

theorem Surrounds.ownGroup {texts : Except RenderError String → Written}
    (surrounds : Surrounds fun sub => innerWords clauses optionals (texts sub) services)
    (written : ownGroupWords clauses optionals (texts (.ok text)) services minuses = .ok words) :
    Surrounds fun sub => ownGroupWords clauses optionals (texts sub) services minuses := by
  simp only [ownGroupWords, bind_eq_ok] at written
  rcases written with ⟨enclosed, isEnclosed, groups, areGroups, bindUnions, areBindUnions, _⟩
  rcases surrounds.enclosed isEnclosed with ⟨front, back, around⟩
  refine ⟨"\x7b" :: front, back ++ (groups.map ("MINUS" :: ·)).flatten ++ bindUnions.flatten ++ ["\x7d"], fun sub => ?_⟩
  simp only [ownGroupWords, areGroups, areBindUnions, around]
  cases sub with
  | error cause => rfl
  | ok text => simp [Except.map, bind, Except.bind, pure, Except.pure]

theorem Surrounds.union (surrounds : Surrounds subqueries) (unions : List (List String)) :
    Surrounds fun sub => (subqueries sub).map fun own => unionWords own unions := by
  rcases surrounds with ⟨front, back, around⟩
  cases unions with
  | nil =>
      refine ⟨front, back, fun sub => ?_⟩
      simp only [around, unionWords]
      cases sub <;> rfl
  | cons branch rest =>
      refine ⟨"\x7b" :: front, back ++ "UNION" :: joinWith "UNION" (branch :: rest) ++ ["\x7d"], fun sub => ?_⟩
      simp only [around, unionWords]
      cases sub with
      | error cause => rfl
      | ok text => simp [Except.map, joinWith]

/-! ## The text around a sub-query -/

variable {before behind unions minusTrees : List QueryTree} {serviceTrees : List (ServiceSite × QueryTree)}
variable {sub : QueryTree}

theorem texts_append_cons {front back : List String} (isBefore : texts before = .ok front)
    (isBehind : texts behind = .ok back) (sub : QueryTree) :
    texts (before ++ sub :: behind) = sub.render.map fun text => front ++ text :: back := by
  induction before generalizing front with
  | nil =>
      cases isBefore
      rw [List.nil_append, texts, isBehind, ← render]
      cases sub.render <;> rfl
  | cons tree rest ih =>
      simp only [texts, bind_eq_ok, pure_eq_ok] at isBefore
      rcases isBefore with ⟨text, isText, others, areOthers, rfl⟩
      rw [List.cons_append, texts, isText, ih areOthers]
      cases sub.render <;> rfl

theorem texts_append_cons_eq_ok (written : texts (before ++ sub :: behind) = .ok words) :
    ∃ front text back, texts before = .ok front ∧ sub.render = .ok text ∧ texts behind = .ok back ∧
      words = front ++ text :: back := by
  induction before generalizing words with
  | nil =>
      simp only [List.nil_append, texts, bind_eq_ok, pure_eq_ok] at written
      rcases written with ⟨text, isText, back, isBehind, rfl⟩
      exact ⟨[], text, back, rfl, isText, isBehind, rfl⟩
  | cons tree rest ih =>
      simp only [List.cons_append, texts, bind_eq_ok, pure_eq_ok] at written
      rcases written with ⟨first, isFirst, others, areOthers, rfl⟩
      rcases ih areOthers with ⟨front, text, back, isRest, isText, isBehind, rfl⟩
      refine ⟨first :: front, text, back, ?_, isText, isBehind, rfl⟩
      rw [texts, isFirst, isRest]
      rfl

/-- The group of a query around one of its sub-queries. -/
theorem groupWords_replaced
    (written : (node clauses optionals (before ++ sub :: behind) unions minusTrees serviceTrees).groupWords = .ok words) :
    ∃ front back, ∀ other : QueryTree,
      (node clauses optionals (before ++ other :: behind) unions minusTrees serviceTrees).groupWords =
        other.render.map fun text => front ++ subqueryText text :: back := by
  simp only [groupWords, bind_eq_ok] at written
  rcases written with ⟨own, isOwn, branches, areBranches, _⟩
  have isGroup := isOwn
  simp only [ownGroupWords, bind_eq_ok] at isGroup
  rcases isGroup with ⟨enclosed, isEnclosed, _⟩
  rcases enclosedWords_eq_ok isEnclosed with ⟨inner, isInner, _⟩
  rcases innerWords_eq_ok isInner with ⟨written, _, areTexts, _⟩
  rcases texts_append_cons_eq_ok areTexts with ⟨front, text, back, isBefore, _, isBehind, rfl⟩
  rw [areTexts] at isInner isOwn
  rcases ((surrounds_inner isInner).ownGroup isOwn).union branches with ⟨front', back', around⟩
  refine ⟨front', back', fun other => ?_⟩
  rw [← around, groupWords, texts_append_cons isBefore isBehind, areBranches]
  simp only
  generalize ownGroupWords _ _ _ _ _ = group
  cases group <;> rfl

/-- The text of a query that does not leave its group out, around the words of the group. -/
theorem render_eq_of_words {tree : QueryTree} {head graphs modifiers : List String}
    (hasContent : tree.hasEmptyGroup = false) (isHead : headWords tree.clauses = .ok head)
    (areGraphs : (tree.clauses.fromGraphs.mapM fun graph => graph.render.map ("FROM " ++ ·)) = .ok graphs)
    (areModifiers : modifierWords tree.clauses = .ok modifiers) :
    tree.render = tree.groupWords.map fun group =>
      spaced (prologueWords tree.clauses ++
        (tree.clauses.form.keyword :: head ++ graphs ++ "WHERE" :: group ++ modifiers)) := by
  rw [render, textAround_eq_map, wordsAround, whereWords, hasContent, Bool.and_false, if_neg Bool.false_ne_true, isHead,
    areGraphs, areModifiers]
  cases tree.groupWords <;> rfl

/-- Of the text of a query nothing but what stands between the braces of a sub-query comes from the sub-query. -/
theorem render_replaced
    (written : (node clauses optionals (before ++ sub :: behind) unions minusTrees serviceTrees).render = .ok text) :
    ∃ inner front back modifiers, sub.render = .ok inner ∧ modifierWords clauses = .ok modifiers ∧
      text = spaced (front ++ subqueryText inner :: back ++ modifiers) ∧
      ∀ other : QueryTree, (node clauses optionals (before ++ other :: behind) unions minusTrees serviceTrees).render =
        other.render.map fun inner => spaced (front ++ subqueryText inner :: back ++ modifiers) := by
  have hasContent (other : QueryTree) :
      (node clauses optionals (before ++ other :: behind) unions minusTrees serviceTrees).hasEmptyGroup = false := by
    simp [hasEmptyGroup]
  have isWritten := written
  simp only [render, textAround_eq_map, wordsAround, whereWords, hasContent, Bool.and_false, Bool.false_eq_true,
    if_false, map_eq_ok, bind_eq_ok] at isWritten
  rcases isWritten with ⟨_, ⟨head, isHead, graphs, areGraphs, _, ⟨group, isGroup, _⟩, modifiers, areModifiers, _⟩, _⟩
  rcases groupWords_replaced isGroup with ⟨front, back, around⟩
  have replaced (other : QueryTree) :
      (node clauses optionals (before ++ other :: behind) unions minusTrees serviceTrees).render =
        other.render.map fun inner => spaced (prologueWords clauses ++ clauses.form.keyword :: head ++ graphs
          ++ "WHERE" :: front ++ subqueryText inner :: back ++ modifiers) := by
    rw [render_eq_of_words (hasContent other) isHead areGraphs areModifiers, around]
    cases other.render with
    | error cause => rfl
    | ok text => simp [Except.map, QueryTree.clauses]
  rw [replaced, map_eq_ok] at written
  rcases written with ⟨inner, isInner, rfl⟩
  exact ⟨inner, _, back, modifiers, isInner, areModifiers, rfl, replaced⟩

end QueryTree

end Sparql
