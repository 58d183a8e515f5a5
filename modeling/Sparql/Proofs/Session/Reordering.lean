import Sparql.Proofs.Session.Atomic
import Sparql.Proofs.Session.Edits

/-!
# The order of calls

Two lists of calls on a query that agree on every slot leave it with the same text: it does not matter how the calls
that write one slot and those that write another are mixed. Each call makes the same edits in both lists, since no
call reads a slot that is not its own and the queries among its arguments do not have the receiver in them.
-/

namespace Sparql

open Relation

/-! ## Arguments -/

namespace Expression

variable {first second : String → Value}

mutual

/-- The value of an expression depends on the registers that it names alone. -/
theorem evaluate_congr (expression : Expression)
    (agree : ∀ name ∈ expression.registers, first name = second name) :
    expression.evaluate first = expression.evaluate second := by
  cases expression with
  | register name => simp only [evaluate, agree name (.head _)]
  | list items | tuple items | pattern items | branch items | graph items =>
      simp only [evaluate, evaluateAll_congr items agree]
  | map entries => simp only [evaluate, evaluateEntries_congr entries agree]
  | _ => simp only [evaluate]

theorem evaluateAll_congr (expressions : List Expression)
    (agree : ∀ name ∈ registersOf expressions, first name = second name) :
    evaluateAll first expressions = evaluateAll second expressions := by
  cases expressions with
  | nil => rfl
  | cons item rest =>
      simp only [registersOf, List.mem_append] at agree
      simp only [evaluateAll, evaluate_congr item fun name mem => agree name (.inl mem),
        evaluateAll_congr rest fun name mem => agree name (.inr mem)]

theorem evaluateEntries_congr (entries : List (Expression × Expression))
    (agree : ∀ name ∈ registersOfEntries entries, first name = second name) :
    evaluateEntries first entries = evaluateEntries second entries := by
  cases entries with
  | nil => rfl
  | cons entry rest =>
      obtain ⟨key, value⟩ := entry
      simp only [registersOfEntries, List.mem_append] at agree
      simp only [evaluateEntries, evaluate_congr key fun name mem => agree name (.inl (.inl mem)),
        evaluate_congr value fun name mem => agree name (.inl (.inr mem)),
        evaluateEntries_congr rest fun name mem => agree name (.inr mem)]

end

end Expression

namespace Store

variable {base store : Store} {index : Nat}

/-- What a register gives as an argument. -/
def valueAt (store : Store) (name : String) : Value := ((store.register? name).map store.valueOf).getD .null

/-- An object gives the same argument when nothing in it has changed. -/
theorem Leaves.valueOf_eq (leaves : base.Leaves index store) (closed : base.Closed) {reply : Reply}
    (has : base.Has reply)
    (outside : ∀ part, Session.queryIndex? (base.valueOf reply) = some part →
      ¬ ReflTransGen base.Nests part index) :
    store.valueOf reply = base.valueOf reply := by
  have spares := leaves.spares
  cases reply with
  | query part =>
      simp only [valueOf, queryLooks, spares.keeps.text_eq closed has (isApart_of_not_reached (outside part rfl))]
  | group number => simp only [valueOf, groupLooks, spares.keeps.getElem?_groups has (by simp)]
  | operation number => simp only [valueOf, operationLooks, spares.operations]
  | client => simp only [valueOf, clientValue, clientLooks, spares.client]
  | text _ | truth _ | cacheKey _ | result _ | solutions _ | statements _ => rfl

theorem Leaves.valueAt_eq (leaves : base.Leaves index store) (closed : base.Closed) {name : String}
    (outside : ∀ part, Session.queryIndex? (base.valueAt name) = some part →
      ¬ ReflTransGen base.Nests part index) :
    store.valueAt name = base.valueAt name := by
  have sameRegister : store.register? name = base.register? name := by rw [register?, register?, leaves.registers]
  unfold valueAt at outside ⊢
  rw [sameRegister]
  rcases found : base.register? name with _ | reply
  · rw [Option.map_none, Option.map_none]
  · simp only [found, Option.map_some, Option.getD_some] at outside ⊢
    exact leaves.valueOf_eq closed (closed.has_of_register found) outside

end Store

/-! ## Calls -/

/-- The slots that a call writes which builds on a query. -/
def Step.slots (store : Store) : Step → List Slot
  | call _ method positional named _ _ =>
    match (perform (Session.evaluateArguments positional named) store).1 with
    | .ok arguments => slotsOf method arguments
    | .error _ => []

namespace Session

variable {base store after : Store} {index : Nat} {step : Step} {positional : List Expression}
  {named : List (String × Expression)}

/-- No argument of a call names a query that has the given one in it. -/
def Avoids (store : Store) (index : Nat) (positional : List Expression) (named : List (String × Expression)) :
    Prop :=
  ∀ register ∈ Expression.registersOf positional ++ Expression.registersOf (named.map (·.2)),
    ∀ part, queryIndex? (store.valueAt register) = some part → ¬ ReflTransGen store.Nests part index

/-- A call that builds on a query without a block, and is given no query that has this one in it. -/
inductive BuildsOn (store : Store) (index : Nat) : Step → Prop
  | call {name method : String} {positional : List Expression} {named : List (String × Expression)}
      (isQuery : store.register? name = some (.query index)) (builds : method ∈ buildingCalls)
      (avoids : Avoids store index positional named) :
      BuildsOn store index (.call (.register name) method positional named none none)

theorem BuildsOn.known (builds : BuildsOn base index step) (closed : base.Closed) : index < base.queries.length := by
  cases builds with
  | call isQuery _ _ => exact closed.has_of_register isQuery

/-- Arguments are read of registers, and reading them changes nothing. -/
theorem perform_evaluateArguments (positional : List Expression) (named : List (String × Expression))
    (store : Store) :
    perform (evaluateArguments positional named) store =
      (do
        let values ← Expression.evaluateAll store.valueAt positional
        let given ← Expression.evaluateAll store.valueAt (named.map (·.2))
        return ⟨values, (named.map (·.1)).zip given⟩, store) := by
  rw [evaluateArguments, perform_bind_ok (perform_get store)]
  have isValueAt : (fun name => ((store.register? name).map store.valueOf).getD .null) = store.valueAt := rfl
  simp only [isValueAt, perform_bind, perform_ofOutcome]
  cases Expression.evaluateAll store.valueAt positional with
  | error failure => rfl
  | ok values => cases Expression.evaluateAll store.valueAt (named.map (·.2)) <;> rfl

/-- The arguments of a call are the same whenever it is made. -/
theorem evaluateArguments_eq (leaves : base.Leaves index store) (closed : base.Closed)
    (avoids : Avoids base index positional named) :
    perform (evaluateArguments positional named) store =
      ((perform (evaluateArguments positional named) base).1, store) := by
  have agree : ∀ register ∈ Expression.registersOf positional ++ Expression.registersOf (named.map (·.2)),
      store.valueAt register = base.valueAt register :=
    fun register mem => leaves.valueAt_eq closed (avoids register mem)
  simp only [List.mem_append] at agree
  rw [perform_evaluateArguments, perform_evaluateArguments,
    Expression.evaluateAll_congr positional fun register mem => agree register (.inl mem),
    Expression.evaluateAll_congr (named.map (·.2)) fun register mem => agree register (.inr mem)]

theorem Avoids.outside {arguments : Arguments} (avoids : Avoids base index positional named) (closed : base.Closed)
    (evaluated : (perform (evaluateArguments positional named) base).1 = .ok arguments) :
    ∀ value ∈ arguments.positional, base.Outside index value := by
  intro value mem part isPart
  have known := (leads_evaluateArguments closed).2 arguments evaluated value mem part isPart
  rw [perform_evaluateArguments] at known evaluated
  refine ⟨known, ?_⟩
  rcases Outcome.bind_eq_ok.mp evaluated with ⟨values, areValues, evaluated⟩
  rcases Outcome.bind_eq_ok.mp evaluated with ⟨given, _, ⟨⟩⟩
  rcases Store.noQuery_or_register_of_mem areValues value mem with noQuery | ⟨register, isNamed, rfl⟩
  · rw [noQuery] at isPart
    cases isPart
  · exact avoids register (List.mem_append_left _ isNamed) part isPart

/-- A call that builds writes its slots and no others, whenever it is made. -/
theorem writes_runCall (builds : BuildsOn base index step) (closed : base.Closed) :
    Writes (step.slots base) base index (runCall step) := by
  have known := builds.known closed
  cases builds with
  | @call name method positional named isQuery builds avoids =>
  have same := fun store (leaves : base.Leaves index store) => evaluateArguments_eq leaves closed avoids
  cases evaluated : (perform (evaluateArguments positional named) base).1 with
  | error failure =>
      refine ⟨[], by simp, fun store leaves => ends_evaluateArguments_bind trivial fun arguments performed => ?_⟩
      rw [same store leaves, evaluated] at performed
      cases performed
  | ok arguments =>
      have slots : (Step.call (.register name) method positional named none none).slots base =
          slotsOf method arguments := by
        rw [Step.slots, evaluated]
      rcases writes_queryCall builds closed known (avoids.outside closed evaluated) with ⟨edits, listed, isEdited⟩
      refine ⟨edits, slots ▸ listed, fun store leaves =>
        ends_evaluateArguments_bind trivial fun given performed => ?_⟩
      rw [same store leaves, evaluated] at performed
      cases performed
      have isReceiver : store.register? name = some (.query index) := by
        rw [← isQuery, Store.register?, Store.register?, leaves.registers]
      have call : Ends (receiverCall (.register name) method arguments (runBlock none)) store (fun _ => True)
          fun after _ => store.Edited index edits after := by
        refine ends_get_bind ?_
        rw [isReceiver]
        exact isEdited store leaves
      exact ends_bind call fun _ _ edited => ends_pure edited

/-! ## Lists of calls -/

/-- Each call that builds has its edits, in its own slots, and makes them whenever it is made. -/
theorem exists_edits (closed : base.Closed) (index : Nat) :
    ∃ edits : Step → List Edit, ∀ step, BuildsOn base index step →
      (∀ edit ∈ edits step, edit.slot ∈ step.slots base) ∧ ∀ store, base.Leaves index store →
        Ends (runCall step) store (fun _ => True) fun after _ => store.Edited index (edits step) after := by
  have each : ∀ step, ∃ edits : List Edit, BuildsOn base index step →
      (∀ edit ∈ edits, edit.slot ∈ step.slots base) ∧ ∀ store, base.Leaves index store →
        Ends (runCall step) store (fun _ => True) fun after _ => store.Edited index edits after := by
    intro step
    by_cases isBuilding : BuildsOn base index step
    · exact (writes_runCall isBuilding closed).imp fun _ isEdited _ => isEdited
    · exact ⟨[], fun builds => absurd builds isBuilding⟩
  choose edits isEdited using each
  exact ⟨edits, isEdited⟩

theorem leaves_refl (closed : base.Closed) : base.Leaves index base := ⟨closed, .refl base, rfl⟩

/-- What calls leave of a query when all of them succeed: their edits one after the other. -/
theorem contents_of_calls {steps : List Step} {edits : Step → List Edit} {replies : List Reply}
    {record : QueryRecord}
    (isEdited : ∀ step ∈ steps, ∀ store, base.Leaves index store →
      Ends (runCall step) store (fun _ => True) fun after _ => store.Edited index (edits step) after)
    (leaves : base.Leaves index store) (found : store.queries[index]? = some record)
    (done : perform (steps.mapM runCall) store = (.ok replies, after)) :
    after.Closed ∧ ∃ later, after.queries[index]? = some later ∧ record.GoesOn later ∧
      after.contents later = (store.contents record).applyAll (steps.flatMap edits) := by
  induction steps generalizing store record replies with
  | nil =>
      cases done
      exact ⟨leaves.closed, record, found, ⟨rfl, rfl, List.Subset.refl _⟩, rfl⟩
  | cons step rest ih =>
      rw [List.mapM_cons] at done
      rcases perform_bind_eq_ok.mp done with ⟨reply, middle, stepDone, done⟩
      rcases perform_bind_eq_ok.mp done with ⟨others, last, restDone, ⟨⟩⟩
      have edited := (isEdited step (.head _) store leaves).of_ok stepDone
      have moves := (leads_runCall step store leaves.closed).1
      rw [stepDone] at moves
      have closed := moves.closed leaves.closed
      have stillLeaves : base.Leaves index middle :=
        ⟨closed, leaves.spares.trans_same edited.spares, edited.registers.trans leaves.registers⟩
      rcases edited.query record found with ⟨between, foundBetween, goesOn, contents⟩
      rcases ih (fun other mem => isEdited other (.tail _ mem)) stillLeaves foundBetween restDone
        with ⟨lastClosed, later, foundLater, goesOnToo, contentsToo⟩
      refine ⟨lastClosed, later, foundLater, goesOn.trans goesOnToo, ?_⟩
      rw [List.flatMap_cons, Contents.applyAll_append, contentsToo, contents,
        edited.spares.contents_eq leaves.closed closed found foundBetween goesOn.nested]

/-- The edits of one slot come from the calls that write it. -/
theorem filter_flatMap {edits : Step → List Edit} {steps : List Step} {slot : Slot}
    (listed : ∀ step ∈ steps, ∀ edit ∈ edits step, edit.slot ∈ step.slots base) :
    (steps.flatMap edits).filter (·.slot = slot) =
      ((steps.filter (slot ∈ ·.slots base)).flatMap edits).filter (·.slot = slot) := by
  induction steps with
  | nil => rfl
  | cons step rest ih =>
      have others := ih fun other mem => listed other (.tail _ mem)
      rw [List.flatMap_cons, List.filter_append, others]
      by_cases writes : slot ∈ step.slots base
      · rw [List.filter_cons_of_pos (by simpa using writes), List.flatMap_cons, List.filter_append]
      · rw [List.filter_cons_of_neg (by simpa using writes)]
        have none : (edits step).filter (·.slot = slot) = [] := by
          refine List.filter_eq_nil_iff.mpr fun edit mem isSlot => writes ?_
          exact of_decide_eq_true isSlot ▸ listed step (.head _) edit mem
        rw [none, List.nil_append]

end Session

namespace Store

open Session

/-- Calls that agree on each slot lead to the same text: the edits of each slot are the same. -/
theorem Closed.text_of_calls {base after other : Store} {index : Nat} {first second : List Step}
    {replies others : List Reply} (closed : base.Closed)
    (builds : ∀ step ∈ first ++ second, BuildsOn base index step)
    (same : ∀ slot, first.filter (slot ∈ ·.slots base) = second.filter (slot ∈ ·.slots base))
    (firstDone : perform (first.mapM runCall) base = (.ok replies, after))
    (secondDone : perform (second.mapM runCall) base = (.ok others, other)) :
    after.text index = other.text index := by
  rcases exists_edits closed index with ⟨edits, isEdited⟩
  simp only [List.mem_append, or_imp, forall_and] at builds
  by_cases known : index < base.queries.length
  case neg =>
    have noCalls : ∀ {steps : List Step}, (∀ step ∈ steps, BuildsOn base index step) → steps = [] :=
      fun builds => List.eq_nil_iff_forall_not_mem.mpr fun step mem => known ((builds step mem).known closed)
    obtain rfl := noCalls builds.1
    obtain rfl := noCalls builds.2
    cases firstDone
    cases secondDone
    rfl
  have found := List.getElem?_eq_getElem known
  have leaves : base.Leaves index base := leaves_refl closed
  rcases contents_of_calls (fun step mem => (isEdited step (builds.1 step mem)).2) leaves found firstDone
    with ⟨afterClosed, later, foundLater, goesOn, contents⟩
  rcases contents_of_calls (fun step mem => (isEdited step (builds.2 step mem)).2) leaves found secondDone
    with ⟨otherClosed, otherLater, foundOther, otherGoesOn, otherContents⟩
  refine text_eq_of_contents otherClosed afterClosed foundOther foundLater
    (goesOn.frozen.trans otherGoesOn.frozen.symm) (goesOn.made.trans otherGoesOn.made.symm) ?_
  rw [contents, otherContents]
  refine Contents.applyAll_eq fun slot => ?_
  rw [filter_flatMap fun step mem => (isEdited step (builds.1 step mem)).1, same slot,
    ← filter_flatMap fun step mem => (isEdited step (builds.2 step mem)).1]

/-- Two lists of calls on a query that succeed and of which those that write a slot are the same, for each slot, leave
it with the same text. -/
theorem text_of_reordered (client : Option Client) (answers : List Answer) (steps : List Step) :
    let start := start client answers
    start.Moves (storeAfter start steps) ∧ ∀ base, start.Moves base →
      ∀ (index : Nat) (first second : List Step), (∀ step ∈ first ++ second, BuildsOn base index step) →
        (∀ slot, first.filter (slot ∈ ·.slots base) = second.filter (slot ∈ ·.slots base)) →
        ∀ (replies others : List Reply) (after other : Store),
          perform (first.mapM runCall) base = (.ok replies, after) →
          perform (second.mapM runCall) base = (.ok others, other) →
          after.text index = other.text index := by
  intro start
  refine ⟨moves_storeAfter (start_closed client answers) steps,
    fun base moves index first second builds same replies others after other firstDone secondDone => ?_⟩
  exact (moves.closed (start_closed client answers)).text_of_calls builds same firstDone secondDone

end Store

/-! ### Calls in two orders -/

open Session

/-- A query, and another one to nest in it. -/
def pairSession : List Step :=
  [.call .queries "select" [] [] none (some "q"),
    .call .queries "select" [] [] none (some "r"),
    .call (.register "r") "where" [.list [.variable "s", .constant (.term (.iri "http://p")), .variable "o"]] []
      none none]

def pairStore : Store := storeAfter (Store.start none []) pairSession

/-- Adds a pattern and a sub-query. -/
def nestingCall : Step :=
  .call (.register "q") "where"
    [.list [.variable "o", .constant (.term (.iri "http://q")), .variable "x"], .register "r"] [] none none

/-- Adds a pattern alone. -/
def patternCall : Step :=
  .call (.register "q") "where" [.list [.variable "x", .constant (.term (.iri "http://r")), .variable "y"]] []
    none none

def filterCall : Step := .call (.register "q") "filter" [.constant (.text "?y > 1")] [] none none

def sliceCall : Step := .call (.register "q") "slice" [.constant (.int 2), .constant (.int 5)] [] none none

def callsInOrder : List Step := [nestingCall, filterCall, patternCall, sliceCall]

def callsReordered : List Step := [sliceCall, nestingCall, patternCall, filterCall]

theorem buildsOn_pairStore : ∀ step ∈ callsInOrder ++ callsReordered, BuildsOn pairStore 0 step := by
  have isQuery : pairStore.register? "q" = some (.query 0) := rfl
  have isNested : queryIndex? (pairStore.valueAt "r") = some 1 := rfl
  have isLeaf : ∀ part, ¬ pairStore.Nests 1 part := by
    rintro part ⟨record, found, mem⟩
    cases found
    cases mem
  have notReached : ¬ ReflTransGen pairStore.Nests 1 0 := by
    intro reached
    rcases ReflTransGen.cases_head reached with same | ⟨part, nests, _⟩
    · exact absurd same (by decide)
    · exact isLeaf part nests
  have nesting : BuildsOn pairStore 0 nestingCall := by
    refine .call isQuery (by decide) fun register mem part isPart => ?_
    obtain rfl : register = "r" := by simpa [Expression.registersOf, Expression.registers] using mem
    cases isNested.symm.trans isPart
    exact notReached
  have pattern : BuildsOn pairStore 0 patternCall := .call isQuery (by decide) fun _ mem => by cases mem
  have filter : BuildsOn pairStore 0 filterCall := .call isQuery (by decide) fun _ mem => by cases mem
  have slice : BuildsOn pairStore 0 sliceCall := .call isQuery (by decide) fun _ mem => by cases mem
  simp only [callsInOrder, callsReordered, List.mem_append, List.mem_cons, List.not_mem_nil, or_false]
  rintro step ((rfl | rfl | rfl | rfl) | rfl | rfl | rfl | rfl) <;> assumption

theorem filter_callsInOrder (slot : Slot) :
    callsInOrder.filter (slot ∈ ·.slots pairStore) = callsReordered.filter (slot ∈ ·.slots pairStore) := by
  have nesting : nestingCall.slots pairStore = [.patterns, .subqueries] := by decide +kernel
  have pattern : patternCall.slots pairStore = [.patterns] := by decide +kernel
  have filter : filterCall.slots pairStore = [.filters] := by decide +kernel
  have slice : sliceCall.slots pairStore = [.offset, .limit] := by decide +kernel
  simp only [callsInOrder, callsReordered, List.filter, nesting, pattern, filter, slice]
  cases slot <;> rfl

/-- The bounds may come first or last, and the condition before or after a pattern. -/
theorem Store.text_of_callsReordered :
    let after := (perform (callsInOrder.mapM runCall) pairStore).2
    let other := (perform (callsReordered.mapM runCall) pairStore).2
    (∀ step ∈ callsInOrder ++ callsReordered, BuildsOn pairStore 0 step) ∧ after.text 0 = other.text 0 ∧
      (other.text 0).toOption = some ("SELECT * WHERE \x7b \x7b SELECT * WHERE \x7b ?s <http://p> ?o . \x7d \x7d . "
        ++ "?o <http://q> ?x . ?x <http://r> ?y . FILTER(?y > 1) \x7d OFFSET 2 LIMIT 5") := by
  have firstOk : (perform (callsInOrder.mapM runCall) pairStore).1.isOk := by decide +kernel
  have secondOk : (perform (callsReordered.mapM runCall) pairStore).1.isOk := by decide +kernel
  refine ⟨buildsOn_pairStore, ?_, by decide +kernel⟩
  rcases first : perform (callsInOrder.mapM runCall) pairStore with ⟨_ | replies, after⟩
  · rw [first] at firstOk
    cases firstOk
  rcases second : perform (callsReordered.mapM runCall) pairStore with ⟨_ | others, other⟩
  · rw [second] at secondOk
    cases secondOk
  have reordered := text_of_reordered none [] pairSession
  exact reordered.2 pairStore reordered.1 0 callsInOrder callsReordered buildsOn_pairStore filter_callsInOrder replies
    others after other first second

end Sparql
