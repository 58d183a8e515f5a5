import Sparql.Proofs.Session.Accounting

/-!
# The ledger of a session

A ledger lists the calls that asked for an exchange, with what each ended with. A run makes such calls, one after
the other, and anything else in between that leaves the client alone; every session is a run. The summary of the
client tells of the ledger how many exchanges of each form returned and how many failed.
-/

namespace Sparql

namespace Session

/-- A call that asked for an exchange: the kind of the exchange, and what the call ended with. -/
structure LedgerEntry where
  kind : TextKind
  outcome : Outcome Reply

namespace LedgerEntry

/-- Whether the exchange went well. -/
def isReturned (entry : LedgerEntry) : Bool := entry.outcome.isOk

/-- Whether the exchange failed, in the transport or in the decoder. -/
def isFailed (entry : LedgerEntry) : Bool :=
  match entry.outcome with
  | .ok _ => false
  | .error failure => failure.isExchanged

/-- How the exchange is counted, if it is. -/
def mark? (entry : LedgerEntry) : Option ExchangeSummary.Mark :=
  if entry.isReturned then some (entry.kind.name, true)
  else if entry.isFailed then some (entry.kind.name, false)
  else none

/-- Whether an exchange is one of a form. -/
def isOf (form : String) (entry : LedgerEntry) : Bool := entry.kind.name = form

end LedgerEntry

/-- The number of exchanges of a form that went well. -/
def returned (form : String) (ledger : List LedgerEntry) : Nat :=
  ledger.countP fun entry => entry.isOf form && entry.isReturned

/-- The number of exchanges of a form that failed. -/
def failed (form : String) (ledger : List LedgerEntry) : Nat :=
  ledger.countP fun entry => entry.isOf form && entry.isFailed

/-- The forms of the exchanges that went well or failed, in the order in which they first occur. -/
def formsOf (ledger : List LedgerEntry) : List String :=
  ((ledger.filter fun entry => entry.isReturned || entry.isFailed).map (·.kind.name)).eraseDups

/-- The marks that a ledger leaves in a summary. -/
def marks (ledger : List LedgerEntry) : List ExchangeSummary.Mark := ledger.filterMap LedgerEntry.mark?

/-! ## Counting -/

theorem LedgerEntry.isFailed_of_isReturned {entry : LedgerEntry} (isReturned : entry.isReturned) :
    entry.isFailed = false := by
  rcases entry with ⟨kind, failure | reply⟩
  · cases isReturned
  · rfl

theorem count_marks_returned (form : String) (ledger : List LedgerEntry) :
    (marks ledger).count (form, true) = returned form ledger := by
  induction ledger with
  | nil => rfl
  | cons entry ledger ih =>
      by_cases isReturned : entry.isReturned
      · by_cases isOf : entry.kind.name = form
        · simpa [marks, returned, LedgerEntry.mark?, LedgerEntry.isOf, isReturned, isOf] using ih
        · simpa [marks, returned, LedgerEntry.mark?, LedgerEntry.isOf, isReturned, isOf] using ih
      · by_cases isFailed : entry.isFailed
        · simpa [marks, returned, LedgerEntry.mark?, isReturned, isFailed] using ih
        · simpa [marks, returned, LedgerEntry.mark?, isReturned, isFailed] using ih

theorem count_marks_failed (form : String) (ledger : List LedgerEntry) :
    (marks ledger).count (form, false) = failed form ledger := by
  induction ledger with
  | nil => rfl
  | cons entry ledger ih =>
      by_cases isReturned : entry.isReturned
      · have notFailed := LedgerEntry.isFailed_of_isReturned isReturned
        simpa [marks, failed, LedgerEntry.mark?, isReturned, notFailed] using ih
      · by_cases isFailed : entry.isFailed
        · by_cases isOf : entry.kind.name = form
          · simpa [marks, failed, LedgerEntry.mark?, LedgerEntry.isOf, isReturned, isFailed, isOf] using ih
          · simpa [marks, failed, LedgerEntry.mark?, LedgerEntry.isOf, isReturned, isFailed, isOf] using ih
        · simpa [marks, failed, LedgerEntry.mark?, isReturned, isFailed] using ih

theorem formsOf_marks (ledger : List LedgerEntry) : ExchangeSummary.formsOf (marks ledger) = formsOf ledger := by
  have names : (marks ledger).map (·.1) =
      (ledger.filter fun entry => entry.isReturned || entry.isFailed).map (·.kind.name) := by
    induction ledger with
    | nil => rfl
    | cons entry ledger ih =>
        by_cases isReturned : entry.isReturned
        · simpa [marks, LedgerEntry.mark?, isReturned] using ih
        · by_cases isFailed : entry.isFailed
          · simpa [marks, LedgerEntry.mark?, isReturned, isFailed] using ih
          · simpa [marks, LedgerEntry.mark?, isReturned, isFailed] using ih
  rw [ExchangeSummary.formsOf, names, formsOf]

end Session

open Session

/-- A summary that tells what a ledger lists: the forms in the order in which they were first counted, each with
the number of its exchanges that went well and the number of those that failed. -/
structure ExchangeSummary.Tells (summary : ExchangeSummary) (ledger : List LedgerEntry) : Prop where
  counts : ∀ counter ∈ summary.forms,
    counter.ok = returned counter.name ledger ∧ counter.failed = failed counter.name ledger
  listed : ∀ form, (∃ counter ∈ summary.forms, counter.name = form) ↔
    0 < returned form ledger ∨ 0 < failed form ledger
  order : summary.forms.map (·.name) = Session.formsOf ledger

theorem ExchangeSummary.tells_recordAll (ledger : List LedgerEntry) :
    (recordAll {} (marks ledger)).Tells ledger := by
  have forms := forms_recordAll (marks ledger)
  constructor
  · intro counter mem
    rw [forms, List.mem_map] at mem
    rcases mem with ⟨form, _, rfl⟩
    exact ⟨count_marks_returned form ledger, count_marks_failed form ledger⟩
  · intro form
    have isListed : (∃ counter ∈ (recordAll {} (marks ledger)).forms, counter.name = form) ↔
        form ∈ ExchangeSummary.formsOf (marks ledger) := by
      rw [forms]
      simp [tally]
    rw [isListed, mem_formsOf, ← count_marks_returned, ← count_marks_failed, List.count_pos_iff, List.count_pos_iff]
    simp [or_comm]
  · rw [forms, ← formsOf_marks, List.map_map]
    simp [Function.comp_def, tally]

namespace Session

/-! ## Runs -/

variable {start store after : Store} {ledger : List LedgerEntry}

/-- What a call adds to the ledger. -/
def Call.entries (call : Call) (store : Store) : List LedgerEntry :=
  (call.kind? store).toList.map fun kind => ⟨kind, (perform call.run store).1⟩

/-- Calls one after the other, and anything in between that leaves the client alone. -/
inductive Ran (start : Store) : List LedgerEntry → Store → Prop
  | start : Ran start [] start
  | call {ledger : List LedgerEntry} {store : Store} (before : Ran start ledger store) (call : Call) :
      Ran start (ledger ++ call.entries store) (perform call.run store).2
  | other {ledger : List LedgerEntry} {store after : Store} (before : Ran start ledger store)
      (client : after.client = store.client) : Ran start ledger after

theorem marks_append (ledger entries : List LedgerEntry) : marks (ledger ++ entries) = marks ledger ++ marks entries :=
  List.filterMap_append

/-- How an exchange ends is how it is counted. -/
theorem recordAll_of_counts {kind : TextKind} {outcome : Outcome Reply} {client later : Client}
    (counted : client.Counts kind.name outcome later) :
    later.summary = client.summary.recordAll (marks [⟨kind, outcome⟩]) := by
  cases counted with
  | returned counted => exact counted
  | failed isExchanged counted =>
      rw [counted]
      simp [marks, LedgerEntry.mark?, LedgerEntry.isReturned, LedgerEntry.isFailed, isExchanged, Except.isOk,
        Except.toBool, ExchangeSummary.recordAll]
  | broken fault => rfl

/-- A call does to the summary what it adds to the ledger. -/
theorem Call.counted (call : Call) {client : Client} (present : store.client = some client) :
    ∃ later, (perform call.run store).2.client = some later ∧
      later.summary = client.summary.recordAll (marks (call.entries store)) ∧
      ∀ entry ∈ call.entries store, ∀ reply, entry.outcome = .ok reply → Answers entry.kind reply := by
  rcases asked : call.kind? store with _ | kind
  · have none : call.entries store = [] := by simp [Call.entries, asked]
    rw [none]
    exact ⟨client, (Call.silent asked).client.trans present, rfl, by simp⟩
  · have one : call.entries store = [⟨kind, (perform call.run store).1⟩] := by simp [Call.entries, asked]
    have asks := Call.asks asked
    unfold Asks at asks
    rw [one]
    rcases performed : perform call.run store with ⟨outcome, after⟩
    rw [performed] at asks
    simp only [List.mem_singleton, forall_eq]
    cases asks with
    | @unsent failure _ isUnsent silent =>
        refine ⟨client, silent.client.trans present, ?_, by rintro _ ⟨⟩⟩
        have unmarked : marks [⟨kind, .error failure⟩] = [] := by
          have notFailed : failure.isExchanged = false := isUnsent
          simp [marks, LedgerEntry.mark?, LedgerEntry.isReturned, LedgerEntry.isFailed, notFailed, Except.isOk,
            Except.toBool]
        rw [unmarked]
        rfl
    | sent before last counted given =>
        cases present.symm.trans before
        exact ⟨_, last, recordAll_of_counts counted, given⟩

/-- Along a run the summary grows by what the ledger lists. -/
theorem Ran.counted (ran : Ran start ledger after) {client : Client} (present : start.client = some client) :
    ∃ later, after.client = some later ∧ later.summary = client.summary.recordAll (marks ledger) ∧
      ∀ entry ∈ ledger, ∀ reply, entry.outcome = .ok reply → Answers entry.kind reply := by
  induction ran with
  | start => exact ⟨client, present, rfl, by simp⟩
  | @call ledger store _ call ih =>
      rcases ih with ⟨middle, isMiddle, counted, answers⟩
      rcases call.counted isMiddle with ⟨later, isLater, laterCounted, laterAnswers⟩
      refine ⟨later, isLater, ?_, ?_⟩
      · rw [laterCounted, counted, marks_append]
        simp [ExchangeSummary.recordAll]
      · intro entry mem
        rcases List.mem_append.mp mem with old | new
        · exact answers entry old
        · exact laterAnswers entry new
  | other _ same ih =>
      rcases ih with ⟨later, isLater, counted, answers⟩
      exact ⟨later, same.trans isLater, counted, answers⟩

/-! ## Sessions are runs -/

/-- A store that a run leads to. -/
def RunsTo (start store : Store) : Prop := ∃ ledger, Ran start ledger store

theorem RunsTo.other (runs : RunsTo start store) (same : after.client = store.client) : RunsTo start after := by
  rcases runs with ⟨ledger, ran⟩
  exact ⟨ledger, ran.other same⟩

theorem RunsTo.call (runs : RunsTo start store) (call : Call) : RunsTo start (perform call.run store).2 := by
  rcases runs with ⟨ledger, ran⟩
  exact ⟨_, ran.call call⟩

variable {block : Option Block}

/-- A call with a block is no call that asks for an exchange, but its block may make such calls. -/
theorem runsTo_replyCall {reply : Reply} {method : String} {arguments : Arguments} (runs : RunsTo start store)
    (inside : ∀ run, block = some run → ∀ object inner, RunsTo start inner →
      RunsTo start (perform (run object) inner).2) :
    RunsTo start (perform (replyCall reply method arguments block) store).2 := by
  have quiet : ∀ {after : Store}, store.Silent after → RunsTo start after := fun silent => runs.other silent.client
  cases block with
  | none => exact runs.call ⟨reply, method, arguments⟩
  | some run =>
      -- Only a query hands its block on; there what the block does is all that can reach the client.
      unfold replyCall
      split
      · next index =>
          rcases isView : executingView? method with _ | view
          · rcases hasBlock : blockCall? index method arguments (some run) with _ | call
            · exact quiet (silent_ordinaryCall hasBlock isView)
            · have kept : KeptByBlock index arguments (some run) store (RunsTo start) := by
                refine ⟨⟨?_, ?_⟩, ?_, ?_⟩
                · exact fun _ _ _ runs => runs.other rfl
                · exact fun _ _ _ _ runs _ => runs.other rfl
                · exact fun _ _ _ runs => runs.other rfl
                · exact fun inner block object given runs _ _ => inside block given object inner runs
              unfold queryCall
              rw [hasBlock]
              exact (kept.of_blockCall runs hasBlock).after
          · rw [queryCall_of_executingView isView]
            unfold withoutArguments
            simp only [Option.isSome_some, Bool.or_true, if_true]
            exact runs
      · exact quiet silent_groupCall
      · exact quiet silent_operationCall
      · apply Ends.after
        refine ends_get_bind ?_
        split
        · split
          · exact ends_pure runs
          · exact ends_fault runs
        · exact ends_fault runs
      all_goals exact runs

mutual

theorem ends_runCall (step : Step) {store : Store} (runs : RunsTo start store) :
    Ends (runCall step) store (RunsTo start) fun after _ => RunsTo start after := by
  cases step with
  | call receiver method positional named block result =>
      apply ends_runCall_of_receiverCall runs
      · exact fun _ _ _ _ runs => runs.other rfl
      · intro arguments _
        apply ends_receiverCall runs (fun _ _ => runs.other rfl) fun _ => runs.other rfl
        exact fun _ _ _ _ => ends_of_holds (runsTo_replyCall runs (runsTo_runBlock block))

theorem runsTo_runBlock (block : Option (List Step)) (run : Block) (isRun : runBlock block = some run)
    (object : ObjectRef) (inner : Store) (runs : RunsTo start inner) : RunsTo start (perform (run object) inner).2 := by
  cases block with
  | none => cases isRun
  | some steps =>
      cases isRun
      exact (ends_withBlockRegister (fun _ _ runs => runs.other rfl) (ends_runAll steps (runs.other rfl))).after

theorem ends_runAll (steps : List Step) {store : Store} (runs : RunsTo start store) :
    Ends (runAll steps) store (RunsTo start) fun after _ => RunsTo start after := by
  cases steps with
  | nil => exact ends_pure runs
  | cons step rest =>
      refine ends_get_bind ?_
      split
      · exact ends_bind (ends_runCall step runs) fun _ _ runs => ends_runAll rest runs
      · exact ends_runAll rest runs

end

/-- Every session is a run. -/
theorem runsTo_storeAfter (runs : RunsTo start store) (steps : List Step) : RunsTo start (storeAfter store steps) := by
  induction steps generalizing store with
  | nil => exact runs
  | cons step rest ih =>
      apply ih
      have quiet : RunsTo start { store with wire := { store.wire with events := [] } } := runs.other rfl
      unfold report
      simp only
      split
      · exact (ends_runCall step quiet).after
      · exact quiet

end Session

/-- What holds of any call without a block, in any state: one that executes a query which has its result changes
nothing, one that is refused exchanges nothing, and one that is misuse leaves the client alone. -/
structure Store.Accounts (store : Store) (call : Call) : Prop where
  reread : ∀ index record, call.receiver = .query index → (executingView? call.method).isSome →
    store.queries[index]? = some record → record.result.isSome → (perform call.run store).2 = store
  refused : ∀ cause after, perform call.run store = (.error (.construction cause), after) → store.Silent after
  broken : ∀ fault after, perform call.run store = (.error (.fault fault), after) → after.client = store.client

/-- A call that asks for an exchange and fails, but not in the exchange, leaves the client alone, and the wire too
unless it is misuse. -/
theorem Session.EndsCounted.unsettled {kind : TextKind} {store after : Store} {failure : Failure}
    {gives : Reply → Prop} (ends : EndsCounted kind store gives (.error failure) after) (isUnsent : failure.IsUnsent) :
    after.client = store.client ∧ (store.Silent after ∨ failure.IsFault) := by
  cases ends with
  | unsent _ silent => exact ⟨silent.client, .inl silent⟩
  | sent before last counted _ =>
      cases counted with
      | failed isExchanged _ =>
          rw [Failure.IsUnsent, isExchanged] at isUnsent
          cases isUnsent
      | broken fault => exact ⟨last.trans before.symm, .inr ⟨fault, rfl⟩⟩

theorem Store.accounts (store : Store) (call : Call) : store.Accounts call := by
  have unsettled : ∀ {failure after}, perform call.run store = (.error failure, after) → failure.IsUnsent →
      after.client = store.client ∧ (store.Silent after ∨ failure.IsFault) := by
    intro failure after failed isUnsent
    rcases asked : call.kind? store with _ | kind
    · have silent := Call.silent asked
      rw [failed] at silent
      exact ⟨silent.client, .inl silent⟩
    · have asks := Call.asks asked
      unfold Asks at asks
      rw [failed] at asks
      exact asks.unsettled isUnsent
  constructor
  · intro index record isQuery isView found answered
    rcases Option.isSome_iff_exists.mp isView with ⟨view, isView⟩
    have unasked : Call.executedKind? store index = none := by simp [Call.executedKind?, found, answered]
    rw [Call.run, isQuery]
    exact perform_queryCall_unasked isView unasked
  · intro cause after failed
    rcases unsettled failed rfl with ⟨_, silent | ⟨fault, isFault⟩⟩
    · exact silent
    · cases isFault
  · intro fault after failed
    exact (unsettled failed rfl).1

/-- Every session is a run of a client, over HTTP or with a local store. Along every run the summary tells what the
ledger lists, and every exchange that went well has given a result of the kind that its form asks for. -/
theorem Store.accounted_of_session (destination : Destination) (answers : List Answer) :
    let start := start (some { destination }) answers
    (∀ steps, ∃ ledger, Ran start ledger (storeAfter start steps)) ∧
    ∀ ledger after, Ran start ledger after →
      (∃ client, after.client = some client ∧ client.summary.Tells ledger) ∧
      (∀ entry ∈ ledger, ∀ reply, entry.outcome = .ok reply → Answers entry.kind reply) ∧
      ∀ call, after.Accounts call := by
  intro start
  refine ⟨fun steps => runsTo_storeAfter ⟨[], .start⟩ steps, ?_⟩
  intro ledger after ran
  rcases ran.counted rfl with ⟨client, present, counted, answers⟩
  refine ⟨⟨client, present, ?_⟩, answers, after.accounts⟩
  rw [counted]
  exact ExchangeSummary.tells_recordAll ledger

end Sparql
