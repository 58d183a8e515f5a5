import Sparql.Proofs.Query.ReadBack
import Sparql.Proofs.Query.Readable
import Sparql.Proofs.Session.Order
import Sparql.Proofs.Session.Tree
import Sparql.Proofs.Session.WellFormed

/-!
# Queries of a session read back

Every query of a session that does not contain itself is a tree of the session's own clauses. Tagged unions of
a session have branches, so the group of such a query reads as the query, and as nothing else. What stands around
the group of a sub-query and inside the parentheses of a filter is read as tokens only.
-/

namespace Sparql

open Relation Session Syntax

namespace Store

variable {store : Store}

/-! ## The clauses of a tree -/

theorem exists_of_mem_mapM {α β : Type} {items : List α} {results : List β} {f : α → Option β} {result : β}
    (done : items.mapM f = some results) (mem : result ∈ results) : ∃ item ∈ items, f item = some result := by
  rcases exists_left_of_forall₂ (forall₂_eq_some_of_mapM done) mem with ⟨item, isItem, same⟩
  exact ⟨item, isItem, same⟩

theorem mem_withinAll {part : QueryTree} {trees : List QueryTree} :
    part ∈ QueryTree.withinAll trees ↔ ∃ tree ∈ trees, part ∈ tree.within := by
  induction trees with
  | nil => simp [QueryTree.withinAll]
  | cons tree rest ih => simp [QueryTree.withinAll, ih]

theorem mem_withinServices {part : QueryTree} {services : List (ServiceSite × QueryTree)} :
    part ∈ QueryTree.withinServices services ↔ ∃ service ∈ services, part ∈ service.2.within := by
  induction services with
  | nil => simp [QueryTree.withinServices]
  | cons service rest ih => simp [QueryTree.withinServices, ih]

/-- What is within a tree is itself the tree of a query that hangs on the tree's query, or of this one. -/
theorem tree?_of_mem_within {depth index : Nat} {tree part : QueryTree}
    (isTree : store.tree? depth index = some tree) (mem : part ∈ tree.within) :
    ∃ depth inner, ReflTransGen store.Nests index inner ∧ store.tree? depth inner = some part := by
  induction depth generalizing index tree with
  | zero => cases isTree
  | succ depth ih =>
      have isWhole := isTree
      simp only [tree?, Option.bind_eq_bind, Option.bind_eq_some_iff, Option.pure_def,
        Option.some.injEq] at isTree
      rcases isTree with ⟨record, found, optionals, _, subqueries, areSubqueries, unions, areUnions, minuses,
        areMinuses, services, areServices, rfl⟩
      have below {given : Nat} {tree : QueryTree} (isGiven : given ∈ record.nested)
          (isTree : store.tree? depth given = some tree) (mem : part ∈ tree.within) :
          ∃ depth inner, ReflTransGen store.Nests index inner ∧ store.tree? depth inner = some part := by
        rcases ih isTree mem with ⟨lesser, inner, reaches, isPart⟩
        exact ⟨lesser, inner, .head ⟨record, found, isGiven⟩ reaches, isPart⟩
      simp only [QueryTree.within, List.mem_cons, List.mem_append, mem_withinAll, mem_withinServices] at mem
      rcases mem with rfl | ((⟨tree, isPart, mem⟩ | ⟨tree, isPart, mem⟩) | ⟨tree, isPart, mem⟩) |
        ⟨service, isPart, mem⟩
      · exact ⟨depth + 1, index, .refl, isWhole⟩
      · rcases exists_of_mem_mapM areSubqueries isPart with ⟨given, isGiven, isTree⟩
        exact below (by simp [QueryRecord.nested, isGiven]) isTree mem
      · rcases exists_of_mem_mapM areUnions isPart with ⟨given, isGiven, isTree⟩
        exact below (by simp [QueryRecord.nested, isGiven]) isTree mem
      · rcases exists_of_mem_mapM areMinuses isPart with ⟨given, isGiven, isTree⟩
        exact below (by simp [QueryRecord.nested, isGiven]) isTree mem
      · rcases exists_of_mem_mapM areServices isPart with ⟨given, isGiven, isService⟩
        rcases Option.map_eq_some_iff.mp isService with ⟨tree, isTree, rfl⟩
        have isNested : given.2 ∈ record.services.map Prod.snd := List.mem_map_of_mem isGiven
        exact below (List.mem_append_right _ isNested) isTree mem

/-- A tree begins with the clauses of a query in the store, and its optional parts are in the store too. -/
theorem own_of_tree? {depth index : Nat} {tree : QueryTree} (isTree : store.tree? depth index = some tree) :
    (∃ record ∈ store.queries, tree.clauses = record.clauses) ∧ ∀ group ∈ tree.optionals, group ∈ store.groups := by
  cases depth with
  | zero => cases isTree
  | succ depth =>
      simp only [tree?, Option.bind_eq_bind, Option.bind_eq_some_iff, Option.pure_def,
        Option.some.injEq] at isTree
      rcases isTree with ⟨record, found, optionals, areOptionals, _, _, _, _, _, _, _, _, rfl⟩
      refine ⟨⟨record, List.mem_of_getElem? found, rfl⟩, fun group mem => ?_⟩
      rcases exists_of_mem_mapM areOptionals mem with ⟨_, _, isGroup⟩
      exact List.mem_of_getElem? isGroup

/-- The clauses that a tree shows are those of queries in the store. -/
theorem exists_record_of_mem_within {index : Nat} {tree part : QueryTree} (isTree : store.tree index = .ok tree)
    (mem : part ∈ tree.within) : ∃ record ∈ store.queries, part.clauses = record.clauses := by
  rcases tree?_of_mem_within (tree?_of_tree isTree) mem with ⟨_, _, _, isPart⟩
  exact (own_of_tree? isPart).1

theorem WellFormed.hasBranches (wellFormed : store.WellFormed) {index : Nat} {tree : QueryTree}
    (isTree : store.tree index = .ok tree) : ∀ part ∈ tree.within, part.HasBranches := by
  intro part mem
  rcases exists_record_of_mem_within isTree mem with ⟨record, isRecord, same⟩
  unfold QueryTree.HasBranches
  rw [same]
  exact (wellFormed.queries record isRecord).bindUnions

theorem WellFormed.isLegible (wellFormed : store.WellFormed) {index : Nat} {tree : QueryTree}
    (isTree : store.tree index = .ok tree) (readable : ∀ part ∈ tree.within, part.IsReadable) :
    ∀ part ∈ tree.within, part.IsLegible := by
  intro part mem
  rcases exists_record_of_mem_within isTree mem with ⟨record, isRecord, same⟩
  have clauses := wellFormed.queries record isRecord
  rw [← same] at clauses
  refine { readable part mem with
    branches := wellFormed.hasBranches isTree part mem, directions := fun name direction isEntry => ?_ }
  rcases List.mem_append.mp isEntry with isGroup | isOrder
  · exact clauses.groupBy _ isGroup direction rfl
  · exact clauses.orderBy _ isOrder direction rfl

/-- In every session, a query that does not contain itself is a tree of the clauses of its own record and of the
records that hang on it, each behind those of its kind that were added before it. If the terms in the tree are single
tokens, its predicates are IRIs or variables and its raw texts are plain, its group has a text unless the bound of a
sub-query is too long, and this text reads as the parts of the tree and in no other way. -/
theorem group_readsAs_iff_of_session (client : Option Client) (answers : List Answer) (steps : List Step)
    {index : Nat} (known : index < (storeAfter (start client answers) steps).queries.length)
    (acyclic : (storeAfter (start client answers) steps).Acyclic index) :
    let store := storeAfter (start client answers) steps
    (∀ earlier later, steps = earlier ++ later →
      (storeAfter (start client answers) earlier).GrowsInto store) ∧
    ∃ tree, store.tree index = .ok tree ∧ store.IsTree index tree ∧ ((∀ part ∈ tree.within, part.IsReadable) →
      (tree.groupWords.isOk ↔
        ∀ value : Int, .number value ∈ tree.groupIngredients → Number.isLong value = false) ∧
      ∀ words, tree.groupWords = .ok words →
        ∀ parts, ReadsAs (spaced words) parts ↔ parts = tree.groupParts) := by
  intro store
  have ordered : ∀ earlier later, steps = earlier ++ later →
      (storeAfter (start client answers) earlier).GrowsInto store := by
    rintro earlier later rfl
    exact growsInto_of_session client answers earlier later
  have closed := closed_of_session client answers steps
  have wellFormed : store.WellFormed := wellFormed_storeAfter client answers steps
  obtain ⟨tree, isTree⟩ := (closed.tree_isOk_iff known).mpr acyclic
  refine ⟨ordered, tree, isTree, isTree_of_tree isTree, fun readable => ?_⟩
  have legible := wellFormed.isLegible isTree readable
  exact ⟨QueryTree.groupWords_isOk_iff readable, fun words rendered parts =>
    QueryTree.readsAs_iff legible rendered parts⟩

end Store

/-- A session that hangs one query on another in three ways. -/
def nestedSession : List Step :=
  [.call .queries "select" [] [] none (some "inner"),
    .call (.register "inner") "where" [.list [.variable "s", .constant (.term (.iri "http://p")), .variable "o"]] []
      none none,
    .call (.register "inner") "limit" [.constant (.int 3)] [] none none,
    .call .queries "select" [] [] none (some "outer"),
    .call (.register "outer") "where" [.register "inner"] [] none none,
    .call (.register "outer") "filter" [.constant (.text "?o > 1")] [] none none,
    .call (.register "outer") "graph" [.variable "g"] [] none none,
    .call (.register "outer") "minus" [.register "inner"] [] none none,
    .call (.register "outer") "union" [.register "inner"] [] none none]

/-- The tree of the outer query. -/
def nestedTree : QueryTree :=
  let pattern : Pattern := ⟨.variable "s", .iri "http://p", .variable "o"⟩
  let inner : QueryTree := .node { form := .select, patterns := [pattern], limit := some 3 } [] [] [] [] []
  .node { form := .select, filters := ["?o > 1"], graph := some (.variable "g") } [] [inner] [inner] [inner] []

/-- The text of its group. -/
def nestedText : String :=
  "\x7b \x7b GRAPH ?g \x7b \x7b SELECT * WHERE \x7b ?s <http://p> ?o . \x7d LIMIT 3 \x7d . FILTER(?o > 1) \x7d "
    ++ "MINUS \x7b ?s <http://p> ?o . \x7d \x7d UNION \x7b ?s <http://p> ?o . \x7d \x7d"

/-- What its group reads as. -/
def nestedParts : List Part :=
  let pattern : Part := .triple (.variable "?s".toList) (.iri "<http://p>".toList) (.variable "?o".toList)
  let subquery : Part := .query [.keyword .select, .mark '*'] (some [pattern]) [.word "LIMIT".toList, .word ['3']]
  let filter : Part := .filter none [.variable "?o".toList, .mark '>', .word ['1']]
  [.union [[.graph (.variable "?g".toList) [.union [[subquery]], filter], .minus [pattern]], [pattern]]]

/-- The outer query does not contain itself, its tree is readable, and its group reads back. -/
theorem group_readsAs_iff_of_nestedSession :
    let store := storeAfter (Store.start none []) nestedSession
    1 < store.queries.length ∧ store.Acyclic 1 ∧ store.tree 1 = .ok nestedTree ∧
      (∀ part ∈ nestedTree.within, part.IsReadable) ∧
      ∀ parts, ReadsAs nestedText parts ↔ parts = nestedParts := by
  intro store
  have known : 1 < store.queries.length := by decide
  have isTree : store.tree 1 = .ok nestedTree := rfl
  have acyclic : store.Acyclic 1 :=
    ((Store.closed_of_session none [] nestedSession).tree_isOk_iff known).mp ⟨nestedTree, isTree⟩
  have readable : ∀ part ∈ nestedTree.within, part.IsReadable := by decide +kernel
  obtain ⟨words, rendered, isText⟩ : ∃ words, nestedTree.groupWords = .ok words ∧ spaced words = nestedText :=
    ⟨_, rfl, by decide +kernel⟩
  have isParts : nestedTree.groupParts = nestedParts := rfl
  rcases (Store.group_readsAs_iff_of_session none [] nestedSession known acyclic).2 with ⟨tree, same, _, reads⟩
  cases isTree.symm.trans same
  refine ⟨known, acyclic, isTree, readable, ?_⟩
  rw [← isText, ← isParts]
  exact (reads readable).2 words rendered

/-! ## Texts that read otherwise -/

/-- A text without quotes, hash signs and braces, whose parentheses are balanced if those inside IRIs count too. -/
structure IsEven (text : String) : Prop where
  notStructural : ∀ c ∈ text.toList, isStructural c = false
  balanced : IsBalanced '(' ')' (text.toList.map Token.mark)

instance (text : String) : Decidable (IsEven text) :=
  decidable_of_iff (text.toList.any isStructural = false ∧ IsBalanced '(' ')' (text.toList.map Token.mark))
    ⟨fun both => ⟨by simpa using both.1, both.2⟩, fun even => ⟨by simpa using even.1, even.2⟩⟩

/-- A query with a tagged union of two tests, one with a raw condition that looks like both and an empty union branch, and
one with a pattern that has a literal for its predicate. -/
def ambiguousSession : List Step :=
  let tests : Expression := .map [(.constant (.text "v"), .list [.constant (.text "http://h/(")]),
    (.constant (.text "w"), .list [.constant (.text "http://h/)")])]
  let pattern : Pattern := ⟨.variable "s", .literal (.plain "p"), .variable "o"⟩
  [.call .queries "select" [] [] none (some "tagged"),
    .call (.register "tagged") "union_with_bind"
      [.tuple [.list [], .map [], tests], .tuple [.list [], .map [], .map []]] [] none none,
    .call .queries "select" [] [] none (some "raw"),
    .call (.register "raw") "filter" [.constant (.text "?v = <http://h/(>) FILTER(?w = <http://h/)>")] [] none none,
    .call .queries "select" [] [] none (some "empty"),
    .call (.register "raw") "union" [.register "empty"] [] none none,
    .call .queries "select" [] [] none (some "relation"),
    .call (.register "relation") "where" [.constant (.pattern pattern)] [] none none]

/-- The store after these steps. -/
def ambiguousStore : Store := storeAfter (Store.start none []) ambiguousSession

/-- The terms in these queries are single tokens, and their raw texts have balanced parentheses, each of which counts.
Yet the condition of the second one reads as the tests of the first one, and the group of the last one does not read at
all. -/
theorem readings_of_ambiguousSession :
    ∃ tagged raw relation, ambiguousStore.tree 0 = .ok tagged ∧ ambiguousStore.tree 1 = .ok raw ∧
      ambiguousStore.tree 3 = .ok relation ∧
      (∀ tree ∈ [tagged, raw, relation], ∀ part ∈ tree.within,
        (∀ term ∈ part.terms, term.IsToken) ∧ ∀ text ∈ part.rawTexts, IsEven text) ∧
      (∃ text, raw.groupWords.map spaced = .ok text ∧ raw.groupParts ≠ tagged.groupParts ∧
        ∀ parts, ReadsAs text parts ↔ parts = tagged.groupParts) ∧
      ∃ text, relation.groupWords.map spaced = .ok text ∧ ∀ parts, ¬ReadsAs text parts := by
  refine ⟨_, _, _, rfl, rfl, rfl, by decide +kernel, ⟨_, rfl, ?_, fun parts => ?_⟩, _, rfl, fun parts => ?_⟩
  · rintro ⟨⟩
  · have wellFormed : ambiguousStore.WellFormed := Store.wellFormed_storeAfter none [] ambiguousSession
    obtain ⟨tagged, isTree, readable, words, rendered, same⟩ :
        ∃ tagged, ambiguousStore.tree 0 = .ok tagged ∧ (∀ part ∈ tagged.within, part.IsReadable) ∧
          ∃ words, tagged.groupWords = .ok words ∧
            spaced words = "\x7b \x7b FILTER(?v = <http://h/(>) FILTER(?w = <http://h/)>) \x7d UNION \x7b \x7d \x7d" :=
      ⟨_, rfl, by decide +kernel, _, rfl, by decide +kernel⟩
    have reads := QueryTree.readsAs_iff (wellFormed.isLegible isTree readable) rendered parts
    rw [same] at reads
    cases isTree
    exact reads
  · have isTokens : lex "\x7b ?s \"p\" ?o . \x7d".toList = some
        [.mark '\x7b', .variable "?s".toList, .literal "\"p\"".toList, .variable "?o".toList, .mark '.', .mark '\x7d'] := by
      decide +kernel
    rintro ⟨tokens, areTokens, reads⟩
    cases isTokens.symm.trans areTokens
    exact not_readsGroup_literal rfl reads

end Sparql
