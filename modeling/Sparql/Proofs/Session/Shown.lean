import Sparql.Proofs.Query.Shown
import Sparql.Proofs.Session.Branches
import Sparql.Proofs.Session.Tree

/-!
# What a query shows of its branches

Two stores mirror each other in some of their queries if the same shows of these and of all that hangs on them. What has
to be the same depends on how a query is used there: all of its clauses where it stands as a whole, and those of its
group where it is a branch. Queries that mirror each other have the same text. So the text of a query depends on nothing
of a branch but its group, whatever becomes of the branch later and whichever branch is given.
-/

namespace Sparql

open Relation QueryTree

section

variable {α β γ δ : Type} {related : α → β → Prop} {leads : γ → δ → Prop}
variable {first : Option α} {second : Option β}

theorem rel_bind {f : α → Option γ} {g : β → Option δ} (isRelated : Option.Rel related first second)
    (leadsTo : ∀ item other, related item other → Option.Rel leads (f item) (g other)) :
    Option.Rel leads (first >>= f) (second >>= g) := by
  cases isRelated with
  | none => exact .none
  | some isRelated => exact leadsTo _ _ isRelated

theorem rel_imp {weaker : α → β → Prop} (isRelated : Option.Rel related first second)
    (isWeaker : ∀ item other, related item other → weaker item other) : Option.Rel weaker first second := by
  cases isRelated with
  | none => exact .none
  | some isRelated => exact .some (isWeaker _ _ isRelated)

theorem rel_map {f : α → γ} {g : β → δ} (isRelated : Option.Rel related first second)
    (leadsTo : ∀ item other, related item other → leads (f item) (g other)) :
    Option.Rel leads (first.map f) (second.map g) := by
  cases isRelated with
  | none => exact .none
  | some isRelated => exact .some (leadsTo _ _ isRelated)

theorem rel_mapM {f : α → Option γ} {g : β → Option δ} {items : List α} {others : List β}
    (areRelated : List.Forall₂ related items others)
    (leadsTo : ∀ item other, related item other → Option.Rel leads (f item) (g other)) :
    Option.Rel (List.Forall₂ leads) (items.mapM f) (others.mapM g) := by
  induction areRelated with
  | nil => exact .some .nil
  | cons isRelated _ ih =>
      rw [List.mapM_cons, List.mapM_cons]
      apply rel_bind (leadsTo _ _ isRelated)
      intro item other isFirst
      apply rel_bind ih
      intro rest others areRest
      exact .some (.cons isFirst areRest)

end

namespace Store

variable {store other : Store} {related : Use → Nat → Nat → Prop} {use : Use} {index number : Nat}

/-- Records of which the same shows: what a query itself shows is the same, and what hangs on it is related. -/
structure Mirrors (store other : Store) (related : Use → Nat → Nat → Prop) (use : Use)
    (record twin : QueryRecord) : Prop where
  clauses : use.SameClauses record.clauses twin.clauses
  optionals : record.optionals.map (store.groups[·]?) = twin.optionals.map (other.groups[·]?)
  subqueries : List.Forall₂ (related .whole) record.subqueries twin.subqueries
  unions : List.Forall₂ (related .branch) record.unions twin.unions
  minuses : List.Forall₂ (related .branch) record.minuses twin.minuses
  services : List.Forall₂ (fun service twin => service.1 = twin.1 ∧ related .branch service.2 twin.2)
    record.services twin.services

/-- Related queries show the same, and so does all that hangs on them. -/
def Mirrored (store other : Store) (related : Use → Nat → Nat → Prop) : Prop :=
  ∀ use index number, related use index number →
    Option.Rel (Mirrors store other related use) store.queries[index]? other.queries[number]?

theorem Mirrored.tree? (mirrored : store.Mirrored other related) (depth : Nat) (isRelated : related use index number) :
    Option.Rel (SameParts use) (store.tree? depth index) (other.tree? depth number) := by
  induction depth generalizing use index number with
  | zero => exact .none
  | succ depth ih =>
      -- Parts have trees with the same words, or both have none.
      have part {use : Use} (index number : Nat) (isRelated : related use index number) :
          Option.Rel (SameWords use) (store.tree? depth index) (other.tree? depth number) :=
        rel_imp (ih isRelated) fun _ _ same => same.sameWords
      have service (place twin : ServiceSite × Nat) (isTwin : place.1 = twin.1 ∧ related .branch place.2 twin.2) :
          Option.Rel SameService ((store.tree? depth place.2).map fun tree => (place.1, tree))
            ((other.tree? depth twin.2).map fun tree => (twin.1, tree)) :=
        rel_map (part place.2 twin.2 isTwin.2) fun _ _ same => ⟨isTwin.1, same⟩
      unfold Store.tree?
      apply rel_bind (mirrored use index number isRelated)
      intro record twin mirrors
      have sameOptionals : (record.optionals.mapM fun group => store.groups[group]?) =
          twin.optionals.mapM fun group => other.groups[group]? := by
        have contents := congrArg (List.mapM id) mirrors.optionals
        rwa [List.mapM_map, List.mapM_map] at contents
      rw [sameOptionals]
      cases twin.optionals.mapM fun group => other.groups[group]? with
      | none => exact .none
      | some optionals =>
          apply rel_bind (rel_mapM mirrors.subqueries part)
          intro _ _ subqueries
          apply rel_bind (rel_mapM mirrors.unions part)
          intro _ _ unions
          apply rel_bind (rel_mapM mirrors.minuses part)
          intro _ _ minuses
          apply rel_bind (rel_mapM mirrors.services service)
          intro _ _ services
          exact .some (.node mirrors.clauses subqueries unions minuses services)

theorem Mirrored.render (mirrored : store.Mirrored other related)
    (sameLength : store.queries.length = other.queries.length) (isRelated : related .whole index number) :
    store.render index = other.render number := by
  have trees := mirrored.tree? (store.queries.length + 1) isRelated
  unfold Store.render Store.tree
  rw [sameLength] at trees ⊢
  generalize store.tree? (other.queries.length + 1) index = tree at trees ⊢
  generalize other.tree? (other.queries.length + 1) number = twin at trees ⊢
  cases trees with
  | none => rfl
  | some same => exact congrArg Outcome.ofRender same.render

theorem Mirrored.text (mirrored : store.Mirrored other related)
    (sameLength : store.queries.length = other.queries.length) (isRelated : related .whole index number)
    (sameFrozen : store.queries[index]?.bind (·.frozen) = other.queries[number]?.bind (·.frozen)) :
    store.text index = other.text number := by
  rw [Store.text, Store.text, sameFrozen, mirrored.render sameLength isRelated]

/-! ## A branch that becomes another query -/

/-- Records whose groups are made of the same. -/
structure SameGroup (store : Store) (record twin : QueryRecord) : Prop where
  clauses : record.clauses.SameGroup twin.clauses
  optionals : record.optionals.map (store.groups[·]?) = twin.optionals.map (store.groups[·]?)
  subqueries : record.subqueries = twin.subqueries
  unions : record.unions = twin.unions
  minuses : record.minuses = twin.minuses
  services : record.services = twin.services

/-- Nothing in a query, and not the query itself, shows another one as a whole. -/
structure ShowsGroup (store : Store) (parent branch : Nat) : Prop where
  isOther : branch ≠ parent
  noSubquery : ∀ above record, ReflTransGen store.Nests parent above → store.queries[above]? = some record →
    branch ∉ record.subqueries

variable {parent branch : Nat} {record twin : QueryRecord}

theorem SameGroup.refl (store : Store) (record : QueryRecord) : store.SameGroup record record :=
  ⟨Clauses.SameGroup.refl record.clauses, rfl, rfl, rfl, rfl, rfl⟩

theorem SameGroup.mirrors (same : store.SameGroup record twin) (shown : use.SameClauses record.clauses twin.clauses)
    (sameGroups : other.groups = store.groups) (subqueries : ∀ part ∈ record.subqueries, related .whole part part)
    (nested : ∀ part ∈ record.nested, related .branch part part) : Mirrors store other related use record twin := by
  simp only [QueryRecord.nested, List.mem_append, List.mem_map] at nested
  constructor
  · exact shown
  · rw [sameGroups]
    exact same.optionals
  · rw [← same.subqueries, List.forall₂_same]
    exact subqueries
  · rw [← same.unions, List.forall₂_same]
    exact fun part mem => nested part (.inl (.inl (.inr mem)))
  · rw [← same.minuses, List.forall₂_same]
    exact fun part mem => nested part (.inl (.inr mem))
  · rw [← same.services, List.forall₂_same]
    exact fun service mem => ⟨rfl, nested service.2 (.inr ⟨service, mem, rfl⟩)⟩

/-- The queries in one query, each used as it is there: those that are used as a whole are not the branch. -/
def UsedIn (store : Store) (parent branch : Nat) (use : Use) (index number : Nat) : Prop :=
  index = number ∧ ReflTransGen store.Nests parent index ∧ (use = .whole → index ≠ branch)

theorem ShowsGroup.mirrors (shows : store.ShowsGroup parent branch) (sameGroups : other.groups = store.groups)
    (reached : ReflTransGen store.Nests parent index) (found : store.queries[index]? = some record)
    (shown : use.SameClauses record.clauses twin.clauses) (same : store.SameGroup record twin) :
    Mirrors store other (store.UsedIn parent branch) use record twin := by
  have isReached (part : Nat) (mem : part ∈ record.nested) : ReflTransGen store.Nests parent part :=
    reached.tail ⟨record, found, mem⟩
  apply same.mirrors shown sameGroups
  · intro part mem
    refine ⟨rfl, isReached part (by simp [QueryRecord.nested, mem]), fun _ isBranch => ?_⟩
    exact shows.noSubquery index record reached found (isBranch ▸ mem)
  · exact fun part mem => ⟨rfl, isReached part mem, by simp⟩

theorem ShowsGroup.text_set (shows : store.ShowsGroup parent branch) (found : store.queries[branch]? = some record)
    (same : store.SameGroup record twin) :
    { store with queries := store.queries.set branch twin }.text parent = store.text parent := by
  generalize isAfter : { store with queries := store.queries.set branch twin } = after
  have sameGroups : after.groups = store.groups := by rw [← isAfter]
  have sameLength : store.queries.length = after.queries.length := by rw [← isAfter, List.length_set]
  have elsewhere (index : Nat) (isOther : index ≠ branch) : after.queries[index]? = store.queries[index]? := by
    rw [← isAfter, List.getElem?_set_ne (Ne.symm isOther)]
  have there : after.queries[branch]? = some twin := by
    rw [← isAfter, List.getElem?_set_self (List.getElem?_eq_some_iff.mp found).1]
  -- Only the branch has changed, and in the parent it is used as a branch.
  have mirrored : store.Mirrored after (store.UsedIn parent branch) := by
    rintro use index _ ⟨rfl, reached, isOther⟩
    by_cases isBranch : index = branch
    · subst isBranch
      rw [found, there]
      cases use with
      | whole => exact absurd rfl (isOther rfl)
      | branch => exact .some (shows.mirrors sameGroups reached found same.clauses same)
    · rw [elsewhere index isBranch]
      cases present : store.queries[index]? with
      | none => exact .none
      | some record =>
          exact .some (shows.mirrors sameGroups reached present (.refl use record.clauses) (.refl store record))
  have isUsed : store.UsedIn parent branch .whole parent parent := ⟨rfl, .refl, fun _ => Ne.symm shows.isOther⟩
  refine (mirrored.text sameLength isUsed ?_).symm
  rw [elsewhere parent (Ne.symm shows.isOther)]

/-! ## One branch or another -/

open Session

/-- Two queries have the same group, part by part and at any depth. The parent is a part of both at the same places, or
it is a part of neither. -/
def SameBranch (store : Store) (parent first second : Nat) : Prop :=
  ∃ related : Use → Nat → Nat → Prop, store.Mirrored store related ∧ related .branch first second ∧
    ∀ use index number, related use index number → (index = parent ↔ number = parent)

variable {call : BranchCall} {site : Option ServiceSite} {change change' : QueryRecord → QueryRecord}
variable {first second : Nat}

theorem Mirrors.refl (isSame : ∀ use index, related use index index) (use : Use) (record : QueryRecord) :
    Mirrors store store related use record record :=
  (SameGroup.refl store record).mirrors (.refl use record.clauses) rfl (fun part _ => isSame .whole part)
    fun part _ => isSame .branch part

theorem Mirrors.imp {weaker : Use → Nat → Nat → Prop} (same : Mirrors store other related use record twin)
    (isWeaker : ∀ use index number, related use index number → weaker use index number) :
    Mirrors store other weaker use record twin where
  clauses := same.clauses
  optionals := same.optionals
  subqueries := same.subqueries.imp (isWeaker .whole)
  unions := same.unions.imp (isWeaker .branch)
  minuses := same.minuses.imp (isWeaker .branch)
  services := same.services.imp fun _ _ isTwin => ⟨isTwin.1, isWeaker .branch _ _ isTwin.2⟩

/-- Records that mirror each other do so when the one is given a branch and the other is given another. -/
theorem Mirrors.attach (same : Mirrors store other related use record twin) (isRelated : related .branch first second)
    (isChange : call.attach site [first] = .ok change) (isTwin : call.attach site [second] = .ok change') :
    Mirrors store other related use (change record) (change' twin) := by
  cases call with
  | union =>
      cases isChange
      cases isTwin
      exact { same with unions := List.rel_append same.unions (.cons isRelated .nil) }
  | minus =>
      cases isChange
      cases isTwin
      exact { same with minuses := List.rel_append same.minuses (.cons isRelated .nil) }
  | service endpoint silent =>
      cases site with
      | none => cases isChange
      | some site =>
          cases isChange
          cases isTwin
          exact { same with services := List.rel_append same.services (.cons ⟨rfl, isRelated⟩ .nil) }

theorem attach_frozen {added : List Nat} (isChange : call.attach site added = .ok change) (record : QueryRecord) :
    (change record).frozen = record.frozen := by
  unfold BranchCall.attach at isChange
  split at isChange <;> cases isChange <;> rfl

/-- Two stores are made of one by changing one query. They mirror each other if the changed records do. -/
theorem Mirrored.modify (mirrored : store.Mirrored store related)
    (sameParent : ∀ use index number, related use index number → (index = parent ↔ number = parent))
    (changed : ∀ use record twin, Mirrors store store related use record twin →
      Mirrors store store related use (change record) (change' twin)) :
    { store with queries := store.queries.modify parent change }.Mirrored
      { store with queries := store.queries.modify parent change' } related := by
  intro use index number isRelated
  have there := sameParent use index number isRelated
  have before := mirrored use index number isRelated
  -- The stores have the same groups, so records mirror each other in these as in the one they are made of.
  have inStore {record twin : QueryRecord} (same : Mirrors store store related use record twin) :
      Mirrors { store with queries := store.queries.modify parent change }
        { store with queries := store.queries.modify parent change' } related use record twin := { same with }
  by_cases isParent : index = parent
  · rw [isParent, there.mp isParent] at before ⊢
    rw [List.getElem?_modify_eq, List.getElem?_modify_eq]
    exact rel_map before fun record twin same => inStore (changed use record twin same)
  · rw [List.getElem?_modify_ne _ _ (Ne.symm isParent), List.getElem?_modify_ne _ _ (Ne.symm (mt there.mpr isParent))]
    exact rel_imp before fun _ _ => inStore

/-- A query is given one branch or another that shows the same. Then it has the same text, and so does any query. -/
theorem SameBranch.text_modify (same : store.SameBranch parent first second)
    (isChange : call.attach site [first] = .ok change) (isTwin : call.attach site [second] = .ok change')
    (index : Nat) :
    { store with queries := store.queries.modify parent change }.text index =
      { store with queries := store.queries.modify parent change' }.text index := by
  rcases same with ⟨related, mirrored, isBranch, sameParent⟩
  -- The parent is given the branches at the same place, so it has to be related to itself as well.
  let orSame (use : Use) (index number : Nat) : Prop := related use index number ∨ index = number
  have isSame (use : Use) (index : Nat) : orSame use index index := .inr rfl
  have before : store.Mirrored store orSame := by
    rintro use index number (isRelated | rfl)
    · exact rel_imp (mirrored use index number isRelated) fun _ _ same => same.imp fun _ _ _ => .inl
    · cases store.queries[index]? with
      | none => exact .none
      | some record => exact .some (.refl isSame use record)
  have after : { store with queries := store.queries.modify parent change }.Mirrored
      { store with queries := store.queries.modify parent change' } orSame := by
    apply before.modify
    · rintro use index number (isRelated | rfl)
      · exact sameParent use index number isRelated
      · rfl
    · exact fun use record twin same => same.attach (.inl isBranch) isChange isTwin
  apply after.text
  · rw [List.length_modify, List.length_modify]
  · exact isSame .whole index
  · by_cases isParent : index = parent
    · rw [isParent, List.getElem?_modify_eq, List.getElem?_modify_eq]
      simp only [Option.map_eq_map, Option.bind_map, Function.comp_def, attach_frozen isChange, attach_frozen isTwin]
    · rw [List.getElem?_modify_ne _ _ (Ne.symm isParent), List.getElem?_modify_ne _ _ (Ne.symm isParent)]

/-- A call that is given one branch or another that shows the same has the same outcome and leaves the same texts. -/
theorem SameBranch.text_run (same : store.SameBranch parent first second) (call : BranchCall) :
    (perform (call.run parent [store.valueOf (.query first)] none) store).1 =
      (perform (call.run parent [store.valueOf (.query second)] none) store).1 ∧
    ∀ index, (perform (call.run parent [store.valueOf (.query first)] none) store).2.text index =
      (perform (call.run parent [store.valueOf (.query second)] none) store).2.text index := by
  rw [call.run_query, call.run_query]
  cases isSite : call.site with
  | error failure => exact ⟨rfl, fun _ => rfl⟩
  | ok site =>
      rcases BranchCall.exists_attach isSite first with ⟨change, isChange⟩
      rcases BranchCall.exists_attach isSite second with ⟨change', isTwin⟩
      have isRead := perform_ofOutcome (.ok site) store
      rw [perform_bind_ok isRead, perform_bind_ok isRead, BranchCall.perform_add isChange,
        BranchCall.perform_add isTwin]
      exact ⟨rfl, same.text_modify isChange isTwin⟩

/-- Of two branches with the same group, and each a part of nothing, either shows the same. -/
theorem SameGroup.sameBranch (same : store.SameGroup record twin) (isFirst : store.queries[first]? = some record)
    (isSecond : store.queries[second]? = some twin) (sameParent : first = parent ↔ second = parent) :
    store.SameBranch parent first second := by
  let related (use : Use) (index number : Nat) : Prop :=
    index = number ∨ use = .branch ∧ index = first ∧ number = second
  have isSame (use : Use) (index : Nat) : related use index index := .inl rfl
  refine ⟨related, ?_, .inr ⟨rfl, rfl, rfl⟩, ?_⟩
  · rintro use index number (rfl | ⟨rfl, rfl, rfl⟩)
    · cases store.queries[index]? with
      | none => exact .none
      | some record => exact .some (.refl isSame use record)
    · rw [isFirst, isSecond]
      exact .some (same.mirrors same.clauses rfl (fun part _ => isSame .whole part) fun part _ => isSame .branch part)
  · rintro use index number (rfl | ⟨-, rfl, rfl⟩)
    · rfl
    · exact sameParent

/-- A union, a minus or a federated part shows its group and nothing else. A query keeps its text when a branch in it,
at any depth, becomes a query with the same group. When a query is given one branch, it and any other query have the
same text as if it were given another branch with the same group. -/
theorem text_of_branch (store : Store) (parent : Nat) :
    (∀ branch record twin, store.ShowsGroup parent branch → store.queries[branch]? = some record →
      store.SameGroup record twin →
      { store with queries := store.queries.set branch twin }.text parent = store.text parent) ∧
    (∀ first second, store.SameBranch parent first second → ∀ call : BranchCall,
      (perform (call.run parent [store.valueOf (.query first)] none) store).1 =
        (perform (call.run parent [store.valueOf (.query second)] none) store).1 ∧
      ∀ index, (perform (call.run parent [store.valueOf (.query first)] none) store).2.text index =
        (perform (call.run parent [store.valueOf (.query second)] none) store).2.text index) :=
  ⟨fun _ _ _ shows found same => shows.text_set found same, fun _ _ same call => same.text_run call⟩

/-- A selection and a question have the same pattern. The question shows as the selection does where that is a branch,
and it is taken away as the selection is. -/
theorem text_of_branch_question :
    let pattern : Pattern := ⟨.variable "s", .variable "p", .variable "o"⟩
    let selection : QueryRecord := { clauses := { form := .select, patterns := [pattern] } }
    let question : QueryRecord := {
      clauses := { form := .ask, patterns := [pattern], fromGraphs := [.iri "http://g/"], limit := some 3, distinct := true }
      frozen := some "ASK" }
    let store : Store := { queries := [{ selectAll with unions := [1] }, selection, question] }
    let given (branch : Nat) := perform (BranchCall.minus.run 0 [store.valueOf (.query branch)] none) store
    (store.text 0).toOption = some "SELECT * WHERE \x7b \x7b \x7d UNION \x7b ?s ?p ?o . \x7d \x7d" ∧
    { store with queries := store.queries.set 1 question }.text 0 = store.text 0 ∧
    ((given 1).2.text 0).toOption =
      some "SELECT * WHERE \x7b \x7b MINUS \x7b ?s ?p ?o . \x7d \x7d UNION \x7b ?s ?p ?o . \x7d \x7d" ∧
    (given 1).2.text 0 = (given 2).2.text 0 := by
  intro pattern selection question store given
  rcases text_of_branch store 0 with ⟨onSet, onRun⟩
  have same : store.SameGroup selection question := ⟨⟨rfl, rfl, rfl, rfl, rfl⟩, rfl, rfl, rfl, rfl, rfl⟩
  have noSubquery (record : QueryRecord) (mem : record ∈ store.queries) : record.subqueries = [] := by
    simp only [store, List.mem_cons, List.not_mem_nil, or_false] at mem
    rcases mem with rfl | rfl | rfl <;> rfl
  have shows : store.ShowsGroup 0 1 :=
    ⟨by decide, fun above record _ found => by simp [noSubquery record (List.mem_of_getElem? found)]⟩
  refine ⟨?_, onSet 1 selection question shows rfl same, ?_, (onRun 1 2 ?_ .minus).2 0⟩
  · decide +kernel
  · decide +kernel
  · exact same.sameBranch rfl rfl (by decide)

end Store

end Sparql
