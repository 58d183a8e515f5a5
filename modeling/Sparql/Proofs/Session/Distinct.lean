import Sparql.Proofs.Query.Subselect
import Sparql.Proofs.Session.Frozen

/-!
# Where a selection is distinct

The two places of the keyword DISTINCT. The one behind SELECT is left free if counts are all that a query projects,
but the one inside the counts never is: a selection of variables and counts says DISTINCT in both places.
-/

namespace Sparql

open Outcome Session Syntax

/-! ## The words of a projection -/

variable {clauses : Clauses} {words : List String}

/-- A count, and whether it is distinct. -/
structure IsCountWord (distinct : Bool) (word : String) : Prop where
  opening : "(COUNT(".toList <+: word.toList
  distinct : "(COUNT(DISTINCT ".toList <+: word.toList ↔ distinct = true

theorem isCountWord_countText (distinct : Bool) (target : CountTarget) (result : String) :
    IsCountWord distinct (countText distinct target result) := by
  constructor
  · exact ⟨_, by simp [countText]; rfl⟩
  · cases distinct <;> cases target <;> simp [countText, variableText]

/-- The places where the words of a projection say DISTINCT: in front, unless there are only counts, and in every
count. -/
structure Clauses.PlacesDistinct (clauses : Clauses) (words : List String) : Prop where
  front : words.head? = some "DISTINCT" ↔ clauses.distinct = true ∧ clauses.onlyCounts = false
  behind : "DISTINCT" ∉ words.tail
  counts : ∃ others counted, words = others ++ counted ∧ (∀ word ∈ others, ¬ "(COUNT(".toList <+: word.toList) ∧
    counted.length = clauses.counts.length ∧ ∀ word ∈ counted, IsCountWord clauses.distinct word

theorem isKeyword_of_mem {present : Bool} {keyword word : String} (mem : word ∈ if present then [keyword] else []) :
    word = keyword := by
  cases present with
  | false => cases mem
  | true => exact List.mem_singleton.mp mem

/-- A word that starts as a name does is neither the keyword nor a count. -/
theorem isOtherWord_of_startsName {word : String} {c : Char} {rest : List Char} (isWord : word.toList = c :: rest)
    (isStart : startsName c = true) : word ≠ "DISTINCT" ∧ ¬ "(COUNT(".toList <+: word.toList := by
  constructor
  · rintro rfl
    cases isWord
    cases isStart
  · rw [isWord]
    intro isPrefix
    cases (List.cons_prefix_cons.mp isPrefix).1
    cases isStart

/-- The places of the keyword in words that stand behind it, of which only the counts may name it. -/
theorem Clauses.placesDistinct_of_parts {others counted : List String}
    (areOthers : ∀ word ∈ others, word ≠ "DISTINCT" ∧ ¬ "(COUNT(".toList <+: word.toList)
    (areCounts : ∀ word ∈ counted, IsCountWord clauses.distinct word)
    (sameLength : counted.length = clauses.counts.length) :
    clauses.PlacesDistinct
      ((if clauses.distinct && !clauses.onlyCounts then ["DISTINCT"] else []) ++ others ++ counted) := by
  have noOther : "DISTINCT" ∉ others ++ counted := by
    intro mem
    rcases List.mem_append.mp mem with isOther | isCount
    · exact (areOthers _ isOther).1 rfl
    · exact absurd (areCounts _ isCount).opening (by decide)
  constructor
  · rw [← Bool.not_eq_true', ← Bool.and_eq_true]
    cases clauses.distinct && !clauses.onlyCounts with
    | true => simp
    | false => exact iff_of_false (fun isHead => noOther (List.mem_of_mem_head? isHead)) (by simp)
  · cases clauses.distinct && !clauses.onlyCounts with
    | true => simpa using noOther
    | false => exact fun mem => noOther (List.mem_of_mem_tail mem)
  · refine ⟨_, counted, rfl, fun word mem => ?_, sameLength, areCounts⟩
    rcases List.mem_append.mp mem with isKeyword | isOther
    · rw [isKeyword_of_mem isKeyword]
      decide
    · exact (areOthers word isOther).2

theorem placesDistinct_of_projectionWords (written : projectionWords clauses = .ok words) :
    clauses.PlacesDistinct words := by
  rcases projectionWords_eq_ok written with ⟨names, rfl, areNames⟩
  apply Clauses.placesDistinct_of_parts
  · intro word mem
    rcases List.mem_append.mp mem with isReduced | isName
    · rw [isKeyword_of_mem isReduced]
      decide
    · rcases areNames word isName with ⟨_, _, isWord, isStart⟩
      exact isOtherWord_of_startsName isWord isStart
  · intro word mem
    rcases List.mem_map.mp mem with ⟨count, _, rfl⟩
    exact isCountWord_countText _ _ _
  · exact List.length_map _

/-! ## The tokens of a projection -/

/-- The terms that a projection names. -/
def Clauses.projectionTerms (clauses : Clauses) : List Term :=
  clauses.projection ++ clauses.counts.flatMap fun count => countTerms count.1 count.2

/-- How often a projection says DISTINCT. -/
def Clauses.distinctCount (clauses : Clauses) : Nat :=
  if clauses.distinct then (if clauses.onlyCounts then 0 else 1) + clauses.counts.length else 0

theorem count_countTokens (distinct : Bool) (target : CountTarget) (result : String) :
    (countTokens distinct target result).count (.word "DISTINCT".toList) = if distinct then 1 else 0 := by
  cases distinct <;> cases target <;> simp [countTokens, bracketed, Term.token]

theorem Term.token_ne_word (term : Term) (word : List Char) : term.token ≠ .word word := by
  cases term <;> rintro ⟨⟩

theorem count_projectionTokens (clauses : Clauses) :
    (projectionTokens clauses).count (.word "DISTINCT".toList) = clauses.distinctCount := by
  have terms : (clauses.projection.map Term.token).count (.word "DISTINCT".toList) = 0 := by
    rw [List.count_eq_zero]
    intro mem
    rcases List.mem_map.mp mem with ⟨term, _, isWord⟩
    exact term.token_ne_word _ isWord
  have counts : (clauses.counts.flatMap fun count => countTokens clauses.distinct count.1 count.2).count
      (.word "DISTINCT".toList) = clauses.counts.length * if clauses.distinct then 1 else 0 := by
    simp only [List.count_flatMap, Function.comp_def, count_countTokens, List.map_const',
      List.sum_replicate_nat]
  unfold projectionTokens Clauses.distinctCount Clauses.onlyCounts
  dsimp only
  split
  · rename_i isEmpty
    simp only [Bool.and_eq_true, List.isEmpty_iff] at isEmpty
    cases clauses.distinct <;> cases clauses.reduced <;> simp [isEmpty]
  · simp only [List.count_append, terms, counts]
    cases clauses.distinct <;> cases clauses.reduced <;>
      cases clauses.projection.isEmpty && !clauses.counts.isEmpty <;> simp

theorem lex_of_projectionWords (areTokens : ∀ term ∈ clauses.projectionTerms, term.IsToken)
    (written : projectionWords clauses = .ok words) :
    lex (spaced words).toList = some (projectionTokens clauses) := by
  -- the other clauses, whose terms may be anything, do not stand in the projection
  let projecting : Clauses :=
    { form := clauses.form, projection := clauses.projection, counts := clauses.counts,
      distinct := clauses.distinct, reduced := clauses.reduced }
  have sameTerms : projecting.terms = clauses.projectionTerms := by
    simp [Clauses.terms, Clauses.projectionTerms, projecting]
  have spells : SpellWords words (projectionTokens projecting) :=
    spellWords_projection (sameTerms ▸ areTokens) written
  exact spells.spaced.lex_eq

/-! ## Selections -/

/-- The words between SELECT and the graphs or the condition. Behind them stands the first word that begins as
these do. -/
def IsSelectClause (declarations : List String) (text : String) (words : List String) : Prop :=
  ∃ rest, text = spaced (declarations ++ "SELECT" :: words ++ rest) ∧
    (∃ first ∈ rest.head?, "FROM ".toList <+: first.toList ∨ first = "WHERE") ∧
    ∀ word ∈ words, ¬ "FROM ".toList <+: word.toList ∧ word ≠ "WHERE"

/-- A text whose projection says DISTINCT where it is placed, and nowhere else if the names in it are tokens. -/
def Clauses.SelectsDistinct (clauses : Clauses) (text : String) : Prop :=
  ∃ words, IsSelectClause (prologueWords clauses) text words ∧ clauses.PlacesDistinct words ∧
    ((∀ term ∈ clauses.projectionTerms, term.IsToken) →
      ∃ tokens, lex (spaced words).toList = some tokens ∧
        tokens.count (.word "DISTINCT".toList) = clauses.distinctCount)

/-- No word of a projection begins as the words behind it do. -/
theorem not_behind_of_mem_projection (written : projectionWords clauses = .ok words) :
    ∀ word ∈ words, ¬ "FROM ".toList <+: word.toList ∧ word ≠ "WHERE" := by
  intro word mem
  rcases head_of_mem_projection written word mem with ⟨c, rest, isWord, isHead⟩
  constructor
  · rw [isWord]
    intro isPrefix
    cases (List.cons_prefix_cons.mp isPrefix).1
    cases isHead
  · rintro rfl
    cases isWord
    cases isHead

theorem QueryTree.selectsDistinct {tree : QueryTree} {text : String} (isSelect : tree.clauses.form = .select)
    (written : tree.render = .ok text) : tree.clauses.SelectsDistinct text := by
  simp only [render, textAround_eq_map, wordsAround, whereWords, headWords, isSelect, reduceCtorEq, decide_false,
    Bool.false_and, Bool.false_eq_true, if_false, map_eq_ok, bind_eq_ok, pure_eq_ok] at written
  rcases written with
    ⟨_, ⟨words, areWords, graphs, areGraphs, _, ⟨group, _, rfl⟩, modifiers, _, rfl⟩, rfl⟩
  refine ⟨words, ⟨graphs ++ "WHERE" :: group ++ modifiers, by simp [Form.keyword], ?_,
    not_behind_of_mem_projection areWords⟩, placesDistinct_of_projectionWords areWords, ?_⟩
  · cases graphs with
    | nil => exact ⟨"WHERE", rfl, .inr rfl⟩
    | cons first others =>
        have isGraph : ∀ graph ∈ first :: others, "FROM ".toList <+: graph.toList :=
          forall_of_mapM areGraphs fun iri graph isGraph => by
            rcases map_eq_ok.mp isGraph with ⟨name, _, rfl⟩
            exact ⟨name.toList, by simp⟩
        exact ⟨first, rfl, .inl (isGraph first (.head _))⟩
  · intro areTokens
    exact ⟨_, lex_of_projectionWords areTokens areWords, count_projectionTokens _⟩

/-! ## Selections of a session -/

namespace Store

/-- At all times in a session, the text of a query is that of a tree, and of the one that the query has unless it keeps
the text. The text of every selection in the tree says DISTINCT where its clauses place it: behind SELECT unless there
are only counts, and inside of every count. -/
theorem distinct_of_session (client : Option Client) (answers : List Answer) (steps : List Step) :
    let start := start client answers
    start.Moves (storeAfter start steps) ∧ ∀ during, start.Moves during →
      ∀ (index : Nat) (record : QueryRecord) (text : String), during.queries[index]? = some record →
        during.text index = .ok text →
        ∃ tree : QueryTree, tree.render = .ok text ∧ tree.clauses.form = record.clauses.form ∧
          (record.frozen = none → during.tree index = .ok tree ∧ tree.clauses = record.clauses) ∧
          ∀ part ∈ tree.within, part.clauses.form = .select →
            ∀ partText, part.render = .ok partText → part.clauses.SelectsDistinct partText := by
  intro start
  refine ⟨moves_storeAfter (start_closed client answers) steps, fun during moves index record text found isText => ?_⟩
  rcases (keepsTexts_of_session client answers moves).exists_tree found isText with
    ⟨tree, written, isExtended, unlessFrozen⟩
  exact ⟨tree, written, isExtended.form.symm, unlessFrozen, fun part _ isSelect _ isPart =>
    part.selectsDistinct isSelect isPart⟩

end Store

/-! ## A selection that is distinct twice -/

/-- A distinct selection of a variable and a count. -/
def mixedSelection : List Step := [
  .call .queries "select" [.constant (.text "s")] [("count", .map [(.constant (.text "o"), .constant (.text "c"))])]
    none (some "q"),
  .call (.register "q") "distinct" [] [] none none]

/-- The count is not all that is projected, and says DISTINCT all the same. -/
theorem text_of_mixedSelection :
    ((storeAfter (Store.start none []) mixedSelection).queries[0]?.map fun record =>
      (record.clauses.distinct, record.clauses.onlyCounts)) = some (true, false) ∧
    ((storeAfter (Store.start none []) mixedSelection).text 0).toOption =
      some "SELECT DISTINCT ?s (COUNT(DISTINCT ?o) AS ?c) WHERE \x7b \x7d" := by
  decide +kernel

end Sparql
