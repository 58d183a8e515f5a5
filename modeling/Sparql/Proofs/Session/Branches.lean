import Sparql.Proofs.Session.Refusal
import Sparql.Proofs.Session.Script

/-!
# Three ways to give a branch

A union, a federated part and what is taken away are given their branches by one rule. Values that are no queries make
one branch. The same branch can be made first and be given as a query, and it can be filled by a block. In each of these
ways the call fails, or it leaves the same store. Queries that are given together are added as if one by one.
-/

namespace Sparql

namespace Value

variable {value : Value} {failure : Failure}

theorem isPatternLike_of_asPattern (isPattern : value.asPattern.isOk) : value.isPatternLike := by
  unfold asPattern at isPattern
  split at isPattern
  · rfl
  · rfl
  · rfl
  · cases isPattern

theorem isPatternLike_of_isQuery (isQuery : value.isQuery) : value.isPatternLike = false := by
  unfold Value.isQuery at isQuery
  split at isQuery
  · rfl
  · cases isQuery

theorem asResource_eq_error (failed : value.asResource = .error failure) :
    failure = .ofRefusal (.notResource value) := by
  unfold asResource at failed
  split at failed
  · split at failed <;> cases failed
    rfl
  · cases failed
  · split at failed
    · cases failed
    split at failed <;> cases failed
    rfl
  · cases failed
    rfl

end Value

namespace Session

variable {store : Store} {index : Nat} {values : List Value} {block : Option Block}

/-! ## The branches of a clause -/

/-- A new selection that has the patterns. -/
def newGroup (values : List Value) : Session Nat := do
  let query ← addQuery selectAll
  addPatterns query values
  return query

theorem isSome_newGroup (noQueries : ∀ value ∈ values, value.isQuery = false) :
    (perform? (newGroup values) store).isSome = values.all fun value => value.asPattern.isOk := by
  rw [← Outcome.isOk_mapM]
  unfold newGroup addPatterns Value.asPatterns
  rw [filter_notQuery noQueries]
  cases values.mapM Value.asPattern <;> rfl

/-- Values that look like no patterns are refused before a query is made, and others that are none after it. -/
theorem perform?_branches (clause : BranchClause) (isNonempty : values ≠ [])
    (noQueries : ∀ value ∈ values, value.isQuery = false) :
    perform? (branches clause values none) store = perform? (do return [← newGroup values]) store := by
  have notEmpty : values.isEmpty = false := by simpa using isNonempty
  have notQueries : values.all Value.isQuery = false := by
    rcases List.exists_mem_of_ne_nil values isNonempty with ⟨value, mem⟩
    exact List.all_eq_false.mpr ⟨value, mem, by simp [noQueries value mem]⟩
  unfold branches
  simp only [notEmpty, notQueries, Bool.false_eq_true, if_false]
  cases patternLike : values.all Value.isPatternLike with
  | true => simp [newGroup]
  | false =>
      -- What does not look like a pattern is none, so the query would not have been made either.
      rcases List.all_eq_false.mp patternLike with ⟨value, mem, isOther⟩
      have refused : perform? (newGroup values) store = none := by
        rw [← Option.not_isSome_iff_eq_none, isSome_newGroup noQueries, Bool.not_eq_true]
        exact List.all_eq_false.mpr ⟨value, mem, fun isPattern => isOther (Value.isPatternLike_of_asPattern isPattern)⟩
      rw [perform?_bind (newGroup values), refused]
      rfl

theorem replyCall_where :
    replyCall (.query index) "where" { positional := values } none = (do
      addPatterns index values
      return .query index) := rfl

theorem branches_block (clause : BranchClause) :
    branches clause [] (some fun object => do
      let _ ← replyCall (replyOf object) "where" { positional := values } none) = (do return [← newGroup values]) := by
  simp [branches, newGroup, replyOf, replyCall_where]

theorem branches_queries {queries : List Nat} (clause : BranchClause) (store : Store) (isNonempty : queries ≠ []) :
    branches clause (queries.map fun query => store.valueOf (.query query)) none = pure queries := by
  have notEmpty : (queries.map fun query => store.valueOf (.query query)).isEmpty = false := by simpa using isNonempty
  have areQueries : (queries.map fun query => store.valueOf (.query query)).all Value.isQuery := by
    simp [Store.valueOf, Value.isQuery]
  have theirIndices : (queries.map fun query => store.valueOf (.query query)).filterMap queryIndex? = queries := by
    simp [List.filterMap_map, Store.valueOf, queryIndex?, Function.comp_def]
  simp only [branches, notEmpty, areQueries, theirIndices, Bool.false_eq_true, if_false, if_true]

/-- What no clause takes: nothing at all, values together with a block, and queries together with other values. -/
inductive IsMisused : List Value → Option Block → Prop
  | nothing : IsMisused [] none
  | both {values : List Value} (block : Block) (isNonempty : values ≠ []) : IsMisused values (some block)
  | mixed {values : List Value} (query : ∃ value ∈ values, value.isQuery)
      (other : ∃ value ∈ values, value.isQuery = false) : IsMisused values none

theorem IsMisused.perform_branches (misused : IsMisused values block) (clause : BranchClause) (store : Store) :
    ∃ cause, perform (branches clause values block) store = (.error (.construction cause), store) := by
  cases misused with
  | nothing => exact ⟨.noBranches clause, rfl⟩
  | both block isNonempty =>
      have notEmpty : values.isEmpty = false := by simpa using isNonempty
      refine ⟨.branchesAndBlock clause, ?_⟩
      simp only [branches, notEmpty, Bool.not_false, if_true]
      rfl
  | mixed query other =>
      rcases query with ⟨value, mem, isQuery⟩
      have notEmpty : values.isEmpty = false := List.isEmpty_eq_false_iff.mpr (List.ne_nil_of_mem mem)
      have notQueries : values.all Value.isQuery = false := by simpa using other
      have notPatterns : values.all Value.isPatternLike = false :=
        List.all_eq_false.mpr ⟨value, mem, by simp [Value.isPatternLike_of_isQuery isQuery]⟩
      refine ⟨.mixedBranches clause, ?_⟩
      simp only [branches, notEmpty, notQueries, notPatterns, Bool.not_false, Bool.false_eq_true, if_true, if_false]
      rfl

/-! ## Calls that add branches -/

/-- A clause that is given branches, with what else the call is given. -/
inductive BranchCall where
  | union
  | minus
  | service (endpoint : Value) (silent : Option Value)

namespace BranchCall

variable {call : BranchCall}

def clause : BranchCall → BranchClause
  | union => .union
  | minus => .minus
  | service .. => .service

def method : BranchCall → String
  | union => "union"
  | minus => "minus"
  | service .. => "service"

/-- The arguments that give the call some values. -/
def arguments (call : BranchCall) (values : List Value) : Arguments :=
  match call with
  | union | minus => { positional := values }
  | service endpoint silent => ⟨endpoint :: values, (silent.map fun silent => ("silent", silent)).toList⟩

/-- The call on a query. -/
def run (call : BranchCall) (index : Nat) (values : List Value) (block : Option Block) : Session Reply :=
  queryCall index call.method (call.arguments values) block

/-- The site of a federated part, if the call adds one. -/
def site (call : BranchCall) : Outcome (Option ServiceSite) :=
  match call with
  | union | minus => .ok none
  | service endpoint silent =>
    endpoint.asResource.map fun endpoint => some ⟨endpoint, (silent.getD (.bool false)).truth⟩

/-- What becomes of a query that is given the branches. -/
def attach (call : BranchCall) (site : Option ServiceSite) (added : List Nat) : Outcome (QueryRecord → QueryRecord) :=
  match call, site, added with
  | union, _, _ => .ok fun record => { record with unions := record.unions ++ added }
  | minus, _, _ => .ok fun record => { record with minuses := record.minuses ++ added }
  | service .., some site, [branch] => .ok fun record => { record with services := record.services ++ [(site, branch)] }
  | service .., _, _ => .error (.construction .manyServiceQueries)

/-- Gives the branches to a query. -/
def add (call : BranchCall) (index : Nat) (site : Option ServiceSite) (added : List Nat) : Session Reply := do
  let change ← ofOutcome (call.attach site added)
  changeQuery index change
  return .query index

/-- The three calls check the endpoint, make the branches and add them, in this order. -/
theorem run_eq (call : BranchCall) (index : Nat) (values : List Value) (block : Option Block) :
    call.run index values block = (do
      let site ← ofOutcome call.site
      let added ← branches call.clause values block
      call.add index site added) := by
  cases call with
  | union => cases block <;> rfl
  | minus => cases block <;> rfl
  | service endpoint silent =>
      have isCall : BranchCall.run (.service endpoint silent) index values block = (do
          let target ← ofOutcome endpoint.asResource
          let added ← branches .service values block
          (service endpoint silent).add index (some ⟨target, (silent.getD (.bool false)).truth⟩) added) := by
        cases silent <;> cases block <;>
        · apply bind_congr (x := ofOutcome endpoint.asResource)
          intro target
          apply bind_congr (x := branches .service values _)
          intro added
          rcases added with _ | ⟨_, _ | _⟩ <;> rfl
      rw [isCall, site]
      cases endpoint.asResource <;> rfl

theorem perform_add {site : Option ServiceSite} {added : List Nat} {change : QueryRecord → QueryRecord}
    (isChange : call.attach site added = .ok change) :
    perform (call.add index site added) store =
      (.ok (.query index), { store with queries := store.queries.modify index change }) := by
  rw [add, isChange]
  rfl

theorem exists_attach {site : Option ServiceSite} (isSite : call.site = .ok site) (branch : Nat) :
    ∃ change, call.attach site [branch] = .ok change := by
  cases call with
  | union => exact ⟨_, rfl⟩
  | minus => exact ⟨_, rfl⟩
  | service endpoint silent =>
      rcases Outcome.map_eq_ok.mp isSite with ⟨target, -, rfl⟩
      exact ⟨_, rfl⟩

theorem isSome_add {site : Option ServiceSite} {branch : Nat} (isSite : call.site = .ok site) :
    (perform? (call.add index site [branch]) store).isSome := by
  rcases exists_attach isSite branch with ⟨change, isChange⟩
  rw [perform?, perform_add isChange]
  rfl

theorem run_query (call : BranchCall) (index : Nat) (store : Store) (branch : Nat) :
    call.run index [store.valueOf (.query branch)] none = (do
      let site ← ofOutcome call.site
      call.add index site [branch]) := by
  have isBranch := branches_queries call.clause store (List.cons_ne_nil branch [])
  rw [List.map_singleton] at isBranch
  rw [run_eq, isBranch]
  rfl

theorem perform?_run :
    perform? (call.run index values block) store = call.site.toOption.bind fun site =>
      (perform? (branches call.clause values block) store).bind fun done =>
        perform? (call.add index site done.1) done.2 := by
  rw [run_eq, perform?_bind, perform?_ofOutcome, Option.bind_map]
  apply congrArg (call.site.toOption.bind ·)
  funext site
  exact perform?_bind _ _ _

/-! ## One branch -/

/-- The branch is made first, and the call is given the query. -/
def onQuery (call : BranchCall) (index : Nat) (values : List Value) : Session Reply := do
  let made ← receiverCall .queries "select" {} none
  let _ ← replyCall made "where" { positional := values } none
  let store ← get
  call.run index [store.valueOf made] none

/-- The call is given a block that fills the branch. -/
def onBlock (call : BranchCall) (index : Nat) (values : List Value) : Session Reply :=
  call.run index [] (some fun object => do
    let _ ← replyCall (replyOf object) "where" { positional := values } none)

/-- The branch is made, and then it is added unless the endpoint is refused. -/
def onGroup (call : BranchCall) (index : Nat) (values : List Value) : Session Reply := do
  let query ← newGroup values
  let site ← ofOutcome call.site
  call.add index site [query]

theorem perform?_onGroup :
    perform? (call.onGroup index values) store = (perform? (newGroup values) store).bind fun done =>
      call.site.toOption.bind fun site => perform? (call.add index site [done.1]) done.2 := by
  rw [onGroup, perform?_bind]
  apply congrArg ((perform? (newGroup values) store).bind ·)
  funext done
  rw [perform?_bind, perform?_ofOutcome, Option.bind_map]
  rfl

/-- Whether the endpoint or the branch is looked at first makes no difference to a call that succeeds. -/
theorem perform?_run_eq_onGroup {given : List Value}
    (isGroup : perform? (branches call.clause given block) store = perform? (do return [← newGroup values]) store) :
    perform? (call.run index given block) store = perform? (call.onGroup index values) store := by
  rw [perform?_run, isGroup, perform?_onGroup, Option.bind_comm, perform?_bind, Option.bind_assoc]
  simp only [perform?_pure, Option.bind_some]

theorem onQuery_eq :
    call.onQuery index values = (do
      let query ← newGroup values
      call.run index [(← get).valueOf (.query query)] none) := by
  have made : receiverCall .queries "select" {} none = (do return .query (← addQuery selectAll)) := rfl
  simp [onQuery, made, newGroup, replyCall_where]

theorem perform?_onQuery :
    perform? (call.onQuery index values) store = perform? (call.onGroup index values) store := by
  rw [onQuery_eq, perform?_bind, perform?_onGroup]
  apply congrArg ((perform? (newGroup values) store).bind ·)
  funext done
  rw [perform?_bind, perform?_get, Option.bind_some, run_query, perform?_bind, perform?_ofOutcome, Option.bind_map]
  rfl

theorem isSome_onGroup (noQueries : ∀ value ∈ values, value.isQuery = false) :
    (perform? (call.onGroup index values) store).isSome =
      (call.site.isOk && values.all fun value => value.asPattern.isOk) := by
  rw [perform?_onGroup, ← isSome_newGroup noQueries]
  cases perform? (newGroup values) store with
  | none => simp
  | some done =>
      cases isSite : call.site with
      | error => rfl
      | ok site => exact isSome_add isSite

/-! ## Several queries -/

/-- The call takes any number of queries. -/
def IsPlain (call : BranchCall) : Prop := call = .union ∨ call = .minus

theorem IsPlain.site_eq (plain : call.IsPlain) : call.site = .ok none := by
  rcases plain with rfl | rfl <;> rfl

theorem IsPlain.run_queries {queries : List Nat} (plain : call.IsPlain) (index : Nat) (store : Store)
    (isNonempty : queries ≠ []) :
    call.run index (queries.map fun query => store.valueOf (.query query)) none = call.add index none queries := by
  rw [run_eq, plain.site_eq, branches_queries call.clause store isNonempty]
  rfl

theorem IsPlain.exists_perform_add (plain : call.IsPlain) (index : Nat) (store : Store) (queries : List Nat) :
    ∃ after, perform (call.add index none queries) store = (.ok (.query index), after) := by
  rcases plain with rfl | rfl <;> exact ⟨_, perform_add rfl⟩

theorem IsPlain.perform_add_nil (plain : call.IsPlain) :
    perform (call.add index none []) store = (.ok (.query index), store) := by
  rcases plain with rfl | rfl <;>
    · rw [perform_add rfl]
      simp only [List.append_nil]
      exact congrArg (fun queries => (_, { store with queries })) (List.modify_id ..)

theorem IsPlain.perform_add_cons (plain : call.IsPlain) (query : Nat) (rest : List Nat) :
    perform (call.add index none (query :: rest)) store =
      perform (call.add index none rest) (perform (call.add index none [query]) store).2 := by
  rcases plain with rfl | rfl <;>
    · rw [perform_add rfl, perform_add rfl, perform_add rfl]
      simp only [List.modify_modify_eq, Function.comp_def, List.append_assoc, List.singleton_append]

/-- The call on each query in turn. -/
def each (call : BranchCall) (index : Nat) (queries : List Nat) : Session Unit :=
  queries.forM fun query => do
    let _ ← call.run index [(← get).valueOf (.query query)] none

theorem each_cons (call : BranchCall) (index query : Nat) (rest : List Nat) :
    call.each index (query :: rest) = (do
      let _ ← call.run index [(← get).valueOf (.query query)] none
      call.each index rest) := by
  simp [each]

theorem IsPlain.perform_each {queries : List Nat} (plain : call.IsPlain) :
    perform (call.each index queries) store = (.ok (), (perform (call.add index none queries) store).2) := by
  -- Each call leaves another store, in which the queries that are given next have other values.
  induction queries generalizing store with
  | nil =>
      rw [plain.perform_add_nil]
      rfl
  | cons query rest ih =>
      have isAdd : call.run index [store.valueOf (.query query)] none = call.add index none [query] := by
        rw [run_query, plain.site_eq]
        rfl
      rw [each_cons, perform_bind_ok (perform_get store), isAdd, plain.perform_add_cons query rest]
      rcases plain.exists_perform_add index store [query] with ⟨after, added⟩
      rw [perform_bind_ok added, ih, added]

/-! ## Misuse -/

/-- The endpoint, if the call has one, is accepted or can be shown in a message. -/
def CanTell : BranchCall → Prop
  | union | minus => True
  | service endpoint _ => endpoint.asResource.isOk ∨ endpoint.displayFault? = none

theorem isConstruction_iff_canTell {failure : Failure} (failed : call.site = .error failure) :
    (∃ cause, failure = .construction cause) ↔ call.CanTell := by
  cases call with
  | union => cases failed
  | minus => cases failed
  | service endpoint silent =>
      have isRefused : endpoint.asResource = .error failure := Outcome.map_eq_error.mp failed
      rw [Value.asResource_eq_error isRefused, CanTell, isRefused]
      cases shown : endpoint.displayFault? <;>
        simp [Failure.ofRefusal, ConstructionError.shown?, shown, Except.isOk, Except.toBool]

theorem canTell_of_site {site : Option ServiceSite} (isSite : call.site = .ok site) : call.CanTell := by
  cases call with
  | union => trivial
  | minus => trivial
  | service endpoint silent =>
      rcases Outcome.map_eq_ok.mp isSite with ⟨target, isRead, -⟩
      rw [CanTell, isRead]
      exact .inl rfl

theorem perform_run_misused (misused : IsMisused values block) :
    ∃ failure, perform (call.run index values block) store = (.error failure, store) ∧
      ((∃ cause, failure = .construction cause) ↔ call.CanTell) := by
  rw [run_eq]
  cases isSite : call.site with
  | error failure => exact ⟨failure, rfl, isConstruction_iff_canTell isSite⟩
  | ok site =>
      rcases misused.perform_branches call.clause store with ⟨cause, isRefused⟩
      refine ⟨.construction cause, ?_, iff_of_true ⟨cause, rfl⟩ (canTell_of_site isSite)⟩
      rw [perform_bind_ok (perform_ofOutcome (.ok site) store)]
      exact perform_bind_error isRefused

/-! ## How the ways agree -/

/-- A call that is given one branch in any of three ways fails, or it leaves the same store. It succeeds exactly if the
values are patterns and the endpoint is accepted. Queries that are given together are added as if one by one. Misuse
leaves the store as it is. It is refused as such exactly if the call can tell. -/
theorem ways_agree (call : BranchCall) (store : Store) (index : Nat) :
    (∀ values, values ≠ [] → (∀ value ∈ values, value.isQuery = false) →
      perform? (call.onQuery index values) store = perform? (call.run index values none) store ∧
      perform? (call.onBlock index values) store = perform? (call.run index values none) store ∧
      (perform? (call.run index values none) store).isSome =
        (call.site.isOk && values.all fun value => value.asPattern.isOk)) ∧
    (call.IsPlain → ∀ queries, queries ≠ [] → ∃ after,
      perform (call.run index (queries.map fun query => store.valueOf (.query query)) none) store =
        (.ok (.query index), after) ∧
      perform (call.each index queries) store = (.ok (), after)) ∧
    (∀ values block, IsMisused values block → ∃ failure,
      perform (call.run index values block) store = (.error failure, store) ∧
        ((∃ cause, failure = .construction cause) ↔ call.CanTell)) := by
  refine ⟨fun values isNonempty noQueries => ?_, fun plain queries isNonempty => ?_, fun values block misused => ?_⟩
  · have onValues : perform? (call.run index values none) store = perform? (call.onGroup index values) store :=
      perform?_run_eq_onGroup (perform?_branches call.clause isNonempty noQueries)
    have onBlock : perform? (call.onBlock index values) store = perform? (call.onGroup index values) store :=
      perform?_run_eq_onGroup (congrArg (perform? · store) (branches_block call.clause))
    rw [onValues, onBlock, perform?_onQuery]
    exact ⟨rfl, rfl, isSome_onGroup noQueries⟩
  · rcases plain.exists_perform_add index store queries with ⟨after, added⟩
    refine ⟨after, ?_, ?_⟩
    · rw [plain.run_queries index store isNonempty, added]
    · rw [plain.perform_each, added]
  · exact perform_run_misused misused

/-- A union is given a pattern, then two queries, and then a pattern together with a query. -/
theorem ways_agree_threeSelections :
    let store : Store := { queries := [selectAll, selectAll, selectAll] }
    let pattern : Value := .list [.text "s", .text "p", .text "o"]
    let queries := [1, 2].map fun query => store.valueOf (.query query)
    (perform? (BranchCall.union.onQuery 0 [pattern]) store = perform? (BranchCall.union.run 0 [pattern] none) store ∧
      perform? (BranchCall.union.onBlock 0 [pattern]) store = perform? (BranchCall.union.run 0 [pattern] none) store ∧
      (perform? (BranchCall.union.run 0 [pattern] none) store).isSome) ∧
    (∃ after, perform (BranchCall.union.run 0 queries none) store = (.ok (.query 0), after) ∧
      perform (BranchCall.union.each 0 [1, 2]) store = (.ok (), after)) ∧
    IsMisused (pattern :: queries) none ∧
    ∃ cause, perform (BranchCall.union.run 0 (pattern :: queries) none) store =
      (.error (.construction cause), store) := by
  intro store pattern queries
  rcases ways_agree .union store 0 with ⟨one, several, misuse⟩
  rcases one [pattern] (List.cons_ne_nil _ _) (by simp [pattern, Value.isQuery]) with ⟨onQuery, onBlock, isDone⟩
  have misused : IsMisused (pattern :: queries) none :=
    .mixed ⟨store.valueOf (.query 1), by simp [queries], rfl⟩ ⟨pattern, by simp, rfl⟩
  rcases misuse _ none misused with ⟨failure, failed, isTold⟩
  rcases isTold.mpr trivial with ⟨cause, rfl⟩
  exact ⟨⟨onQuery, onBlock, isDone⟩, several (.inl rfl) [1, 2] (List.cons_ne_nil _ _), misused, cause, failed⟩

/-- A selection whose graph cannot be written, so that no message can show the selection, and another one. -/
def unwritableGraph : List Step := [
  .call .queries "select" [] [] none (some "u"),
  .call (.register "u") "from_" [.constant (.text "http://a b")] [] none none,
  .call .queries "select" [] [] none (some "q")]

/-- A federated part that is given the first selection as its endpoint, and no branch, does not say so. -/
theorem service_of_unwritableGraph :
    let store := storeAfter (Store.start none []) unwritableGraph
    let call : BranchCall := .service (store.valueOf (.query 0)) none
    IsMisused [] none ∧
      (perform (call.run 1 [] none) store).1 = misuse (.render (.unwritableIri "http://a b")) :=
  ⟨.nothing, rfl⟩

end BranchCall

end Session

end Sparql
