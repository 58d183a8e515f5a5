import Sparql.Proofs.Query.Surroundings

/-!
# Texts that differ in one query

A query can hang on another one at any number of places and at any depth, as a sub-query or as a branch. When it
comes to something else, the text of the other one changes at these places and nowhere else.
-/

namespace Sparql

open Outcome

namespace QueryTree

/-- Words that differ in one query alone, which comes first to one tree and then to another. What differs is the
text of the query between the braces of a sub-query, or the group of the query where it is a branch, or stands in
this way inside another sub-query. -/
inductive Alike (old new : Except RenderError QueryTree) : List String → List String → Prop
  | nil : Alike old new [] []
  | same (word : String) {words others : List String} (rest : Alike old new words others) :
      Alike old new (word :: words) (word :: others)
  | braces {text later : String} {words others : List String} (isText : (old >>= render) = .ok text)
      (isLater : (new >>= render) = .ok later) (rest : Alike old new words others) :
      Alike old new (subqueryText text :: words) (subqueryText later :: others)
  | branch {group later words others : List String} (isGroup : (old >>= groupWords) = .ok group)
      (isLater : (new >>= groupWords) = .ok later) (rest : Alike old new words others) :
      Alike old new (group ++ words) (later ++ others)
  | within {inner later words others : List String} (inside : Alike old new inner later)
      (rest : Alike old new words others) :
      Alike old new (subqueryText (spaced inner) :: words) (subqueryText (spaced later) :: others)

variable {old new : Except RenderError QueryTree} {words others more further : List String}

namespace Alike

theorem refl (words : List String) : Alike old new words words := by
  induction words with
  | nil => exact .nil
  | cons word words ih => exact .same word ih

theorem append (first : Alike old new words others) (second : Alike old new more further) :
    Alike old new (words ++ more) (others ++ further) := by
  induction first with
  | nil => exact second
  | same word _ ih => exact .same word ih
  | braces isText isLater _ ih => exact .braces isText isLater ih
  | branch isGroup isLater _ ih =>
      rw [List.append_assoc, List.append_assoc]
      exact .branch isGroup isLater ih
  | within inside _ _ ih => exact .within inside ih

theorem flatten {parts later : List (List String)} (alike : List.Forall₂ (Alike old new) parts later) :
    Alike old new parts.flatten later.flatten := by
  induction alike with
  | nil => exact .nil
  | cons first _ ih => exact first.append ih

theorem joinWith (word : String) {parts later : List (List String)}
    (alike : List.Forall₂ (Alike old new) parts later) :
    Alike old new (Sparql.joinWith word parts) (Sparql.joinWith word later) := by
  induction alike with
  | nil => exact .nil
  | cons first rest ih =>
      cases rest with
      | nil => exact first
      | cons second rest => exact first.append (.same word ih)

theorem keyword (keyword : String) {parts later : List (List String)}
    (alike : List.Forall₂ (Alike old new) parts later) :
    Alike old new (parts.map (keyword :: ·)).flatten (later.map (keyword :: ·)).flatten := by
  apply flatten
  rw [List.forall₂_map_left_iff, List.forall₂_map_right_iff]
  exact alike.imp fun _ _ alike => .same keyword alike

theorem union (own : Alike old new words others) {unions later : List (List String)}
    (alike : List.Forall₂ (Alike old new) unions later) :
    Alike old new (unionWords words unions) (unionWords others later) := by
  cases alike with
  | nil => exact own
  | cons first rest =>
      have joined := joinWith "UNION" (.cons own (.cons first rest))
      exact .same "\x7b" (joined.append (refl ["\x7d"]))

end Alike

/-! ## Trees that differ in one query -/

/-- Trees whose texts differ in one query alone, where both can be written. -/
structure AlikeTrees (old new : Except RenderError QueryTree) (tree later : QueryTree) : Prop where
  group : ∀ words others, tree.groupWords = .ok words → later.groupWords = .ok others → Alike old new words others
  braces : ∀ text other, tree.render = .ok text → later.render = .ok other →
    Alike old new [subqueryText text] [subqueryText other]

/-- The query itself. -/
theorem alikeTrees_itself {tree later : QueryTree} : AlikeTrees (.ok tree) (.ok later) tree later where
  group words others isGroup isLater := by
    have alike : Alike (.ok tree) (.ok later) (words ++ []) (others ++ []) := .branch isGroup isLater .nil
    rwa [List.append_nil, List.append_nil] at alike
  braces _ _ isText isLater := .braces isText isLater .nil

variable {trees laters : List QueryTree}

theorem alike_groups (alike : List.Forall₂ (AlikeTrees old new) trees laters) {parts later : List (List String)}
    (written : groups trees = .ok parts) (writtenLater : groups laters = .ok later) :
    List.Forall₂ (Alike old new) parts later := by
  induction alike generalizing parts later with
  | nil =>
      cases written
      cases writtenLater
      exact .nil
  | cons first _ ih =>
      simp only [groups, bind_eq_ok, pure_eq_ok] at written writtenLater
      rcases written with ⟨group, isGroup, rest, areRest, rfl⟩
      rcases writtenLater with ⟨groupLater, isGroupLater, restLater, areRestLater, rfl⟩
      exact .cons (first.group group groupLater isGroup isGroupLater) (ih areRest areRestLater)

theorem alike_texts (alike : List.Forall₂ (AlikeTrees old new) trees laters) (written : texts trees = .ok words)
    (writtenLater : texts laters = .ok others) :
    Alike old new (words.map subqueryText) (others.map subqueryText) := by
  induction alike generalizing words others with
  | nil =>
      cases written
      cases writtenLater
      exact .nil
  | cons first _ ih =>
      simp only [texts, bind_eq_ok, pure_eq_ok] at written writtenLater
      rcases written with ⟨text, isText, rest, areRest, rfl⟩
      rcases writtenLater with ⟨textLater, isTextLater, restLater, areRestLater, rfl⟩
      exact (first.braces text textLater isText isTextLater).append (ih areRest areRestLater)

/-- Services that are evaluated at the same places. -/
def AlikeServices (old new : Except RenderError QueryTree) (service later : ServiceSite × QueryTree) : Prop :=
  service.1 = later.1 ∧ AlikeTrees old new service.2 later.2

theorem alike_services {services laters : List (ServiceSite × QueryTree)}
    (alike : List.Forall₂ (AlikeServices old new) services laters) {parts later : List (List String)}
    (written : serviceGroups services = .ok parts) (writtenLater : serviceGroups laters = .ok later) :
    List.Forall₂ (Alike old new) parts later := by
  induction alike generalizing parts later with
  | nil =>
      cases written
      cases writtenLater
      exact .nil
  | @cons service other _ _ first _ ih =>
      rcases service with ⟨site, tree⟩
      rcases other with ⟨_, other⟩
      rcases first with ⟨rfl, first⟩
      simp only [serviceGroups, serviceWords, bind_eq_ok, pure_eq_ok] at written writtenLater
      rcases written with ⟨_, ⟨endpoint, isEndpoint, group, isGroup, rfl⟩, rest, areRest, rfl⟩
      rcases writtenLater with ⟨_, ⟨_, isEndpointLater, groupLater, isGroupLater, rfl⟩, restLater, areRestLater, rfl⟩
      cases isEndpoint.symm.trans isEndpointLater
      have alike := first.group group groupLater isGroup isGroupLater
      refine .cons ?_ (ih areRest areRestLater)
      exact .same "SERVICE" ((Alike.refl _).append (.same endpoint alike))

/-! ## Groups and texts -/

variable {clauses : Clauses} {optionals : List OptionalGroup} {subqueries later : Written}
variable {services servicesLater minuses minusesLater : WrittenParts}

theorem alike_inner
    (texts : ∀ given other, subqueries = .ok given → later = .ok other →
      Alike old new (given.map subqueryText) (other.map subqueryText))
    (parts : ∀ given other, services = .ok given → servicesLater = .ok other → List.Forall₂ (Alike old new) given other)
    (written : innerWords clauses optionals subqueries services = .ok words)
    (writtenLater : innerWords clauses optionals later servicesLater = .ok others) : Alike old new words others := by
  simp only [innerWords_eq, bind_eq_ok, pure_eq_ok] at written writtenLater
  rcases written with
    ⟨given, areGiven, patterns, arePatterns, groups, areGroups, places, arePlaces, values, areValues, rfl⟩
  rcases writtenLater with
    ⟨other, areOther, _, samePatterns, _, sameGroups, placesLater, arePlacesLater, _, sameValues, rfl⟩
  cases arePatterns.symm.trans samePatterns
  cases areGroups.symm.trans sameGroups
  cases areValues.symm.trans sameValues
  have places := Alike.flatten (parts places placesLater arePlaces arePlacesLater)
  exact ((((texts given other areGiven areOther).append (.refl _)).append (.refl _)).append (.refl _)).append places
    |>.append (.refl values)

theorem alike_enclosed {graph : Option Term} {inner innerLater : Written}
    (alike : ∀ given other, inner = .ok given → innerLater = .ok other → Alike old new given other)
    (written : enclosedWords graph inner = .ok words) (writtenLater : enclosedWords graph innerLater = .ok others) :
    Alike old new words others := by
  cases graph with
  | none => exact alike words others written writtenLater
  | some term =>
      simp only [enclosedWords, bind_eq_ok, pure_eq_ok] at written writtenLater
      rcases written with ⟨name, isName, given, areGiven, rfl⟩
      rcases writtenLater with ⟨_, sameName, other, areOther, rfl⟩
      cases isName.symm.trans sameName
      exact .same _ (.same _ ((alike given other areGiven areOther).append (.refl _)))

theorem alike_ownGroup
    (texts : ∀ given other, subqueries = .ok given → later = .ok other →
      Alike old new (given.map subqueryText) (other.map subqueryText))
    (parts : ∀ given other, services = .ok given → servicesLater = .ok other → List.Forall₂ (Alike old new) given other)
    (taken : ∀ given other, minuses = .ok given → minusesLater = .ok other → List.Forall₂ (Alike old new) given other)
    (written : ownGroupWords clauses optionals subqueries services minuses = .ok words)
    (writtenLater : ownGroupWords clauses optionals later servicesLater minusesLater = .ok others) :
    Alike old new words others := by
  simp only [ownGroupWords, bind_eq_ok, pure_eq_ok] at written writtenLater
  rcases written with ⟨enclosed, isEnclosed, groups, areGroups, bindUnions, areBindUnions, rfl⟩
  rcases writtenLater with ⟨enclosedLater, isEnclosedLater, groupsLater, areGroupsLater, _, sameBindUnions, rfl⟩
  cases areBindUnions.symm.trans sameBindUnions
  have enclosed : Alike old new enclosed enclosedLater :=
    alike_enclosed (fun _ _ => alike_inner texts parts) isEnclosed isEnclosedLater
  have taken := Alike.keyword "MINUS" (taken groups groupsLater areGroups areGroupsLater)
  exact ((enclosed.append taken).append (.refl _)).append (.refl _) |>.same "\x7b"

/-- Trees that have the same clauses and optional parts, and whose other parts differ in one query alone. -/
inductive AlikeParts (old new : Except RenderError QueryTree) : QueryTree → QueryTree → Prop
  | node {clauses : Clauses} {optionals : List OptionalGroup}
      {subs subsLater unions unionsLater minuses minusesLater : List QueryTree}
      {places placesLater : List (ServiceSite × QueryTree)}
      (subqueries : List.Forall₂ (AlikeTrees old new) subs subsLater)
      (branches : List.Forall₂ (AlikeTrees old new) unions unionsLater)
      (taken : List.Forall₂ (AlikeTrees old new) minuses minusesLater)
      (services : List.Forall₂ (AlikeServices old new) places placesLater) :
      AlikeParts old new (.node clauses optionals subs unions minuses places)
        (.node clauses optionals subsLater unionsLater minusesLater placesLater)

namespace AlikeParts

variable {tree after : QueryTree} (alike : AlikeParts old new tree after)
include alike

theorem clauses_eq : after.clauses = tree.clauses := by
  cases alike
  rfl

theorem hasEmptyGroup_eq : after.hasEmptyGroup = tree.hasEmptyGroup := by
  have sameEmpty {α β : Type} {related : α → β → Prop} {items : List α} {others : List β}
      (alike : List.Forall₂ related items others) : others.isEmpty = items.isEmpty := by
    cases alike <;> rfl
  cases alike with
  | node subqueries branches taken services =>
      simp only [hasEmptyGroup, sameEmpty subqueries, sameEmpty branches, sameEmpty taken, sameEmpty services]

theorem groupWords (written : tree.groupWords = .ok words) (writtenLater : after.groupWords = .ok others) :
    Alike old new words others := by
  cases alike with
  | node subqueries branches taken services =>
      simp only [QueryTree.groupWords, bind_eq_ok, pure_eq_ok] at written writtenLater
      rcases written with ⟨own, isOwn, unions, areUnions, rfl⟩
      rcases writtenLater with ⟨ownLater, isOwnLater, unionsLater, areUnionsLater, rfl⟩
      have ownAlike : Alike old new own ownLater :=
        alike_ownGroup (fun _ _ => alike_texts subqueries) (fun _ _ => alike_services services)
          (fun _ _ => alike_groups taken) isOwn isOwnLater
      exact ownAlike.union (alike_groups branches areUnions areUnionsLater)

/-- The modifiers of a query stand behind all that differs. -/
theorem render {text other : String} (written : tree.render = .ok text) (writtenLater : after.render = .ok other) :
    ∃ front back modifiers, modifierWords tree.clauses = .ok modifiers ∧ text = spaced (front ++ modifiers) ∧
      other = spaced (back ++ modifiers) ∧ Alike old new front back := by
  simp only [QueryTree.render, textAround_eq_map, wordsAround, alike.clauses_eq, map_eq_ok, bind_eq_ok, pure_eq_ok]
    at written writtenLater
  rcases written with
    ⟨_, ⟨head, isHead, graphs, areGraphs, condition, isCondition, modifiers, areModifiers, rfl⟩, rfl⟩
  rcases writtenLater with
    ⟨_, ⟨_, sameHead, _, sameGraphs, conditionLater, isConditionLater, _, sameModifiers, rfl⟩, rfl⟩
  cases isHead.symm.trans sameHead
  cases areGraphs.symm.trans sameGraphs
  cases areModifiers.symm.trans sameModifiers
  have conditions : Alike old new condition conditionLater := by
    rw [whereWords, alike.clauses_eq, alike.hasEmptyGroup_eq] at isConditionLater
    rw [whereWords] at isCondition
    split at isCondition
    · next isGroupless =>
        rw [if_pos isGroupless] at isConditionLater
        cases isCondition
        cases isConditionLater
        exact .nil
    · next hasGroup =>
        rw [if_neg hasGroup] at isConditionLater
        rcases map_eq_ok.mp isCondition with ⟨group, isGroup, rfl⟩
        rcases map_eq_ok.mp isConditionLater with ⟨groupLater, isGroupLater, rfl⟩
        exact .same "WHERE" (alike.groupWords isGroup isGroupLater)
  refine ⟨prologueWords tree.clauses ++ (tree.clauses.form.keyword :: head ++ graphs) ++ condition,
    prologueWords tree.clauses ++ (tree.clauses.form.keyword :: head ++ graphs) ++ conditionLater,
    modifiers, areModifiers, ?_, ?_, (Alike.refl _).append conditions⟩
  all_goals simp only [List.append_assoc, List.cons_append]

theorem alikeTrees : AlikeTrees old new tree after where
  group _ _ := alike.groupWords
  braces text other written writtenLater := by
    rcases alike.render written writtenLater with ⟨front, back, modifiers, _, rfl, rfl, inside⟩
    exact .within (inside.append (.refl modifiers)) .nil

end AlikeParts

end QueryTree

end Sparql
