import Mathlib.Data.List.Induction
import Mathlib.Data.List.Nodup
import Sparql.Exchange.Client
import Sparql.Proofs.Exchange.Sending
import Sparql.Proofs.Outcome
import Sparql.Proofs.Results.Containment

/-!
# How exchanges are counted

A summary lists every form that was counted, in the order in which the forms were first counted, with the number
of its exchanges that went well and the number of those that failed.

An exchange fails because the transport or the decoder does, or by misuse, and never as a refused call does. The
client counts it under its form in the first case and if it succeeds, once, and does not count it otherwise.
-/

/-! ## What a summary tells -/

namespace Sparql.ExchangeSummary

/-- How one exchange is counted: its form, and whether it went well. -/
abbrev Mark := String × Bool

/-- The summary after some more exchanges. -/
def recordAll (summary : ExchangeSummary) (marks : List Mark) : ExchangeSummary :=
  marks.foldl (fun summary mark => summary.record mark.1 mark.2) summary

/-- The count of a form in some exchanges. -/
def tally (marks : List Mark) (name : String) : FormCount :=
  ⟨name, marks.count (name, true), marks.count (name, false)⟩

/-- The forms of some exchanges, in the order in which they first occur. -/
def formsOf (marks : List Mark) : List String := (marks.map (·.1)).eraseDups

section Forms

variable {name : String} {names : List String} {counter : String → FormCount} {change : FormCount → FormCount}

/-- A change reaches the form that it is about, which is added at the end if it is new. -/
theorem updateForms_map (named : ∀ other, (counter other).name = other) (distinct : names.Nodup) :
    updateForms name change (names.map counter) =
      names.map (fun other => if other = name then change (counter other) else counter other)
        ++ if name ∈ names then [] else [change { name }] := by
  induction names with
  | nil => rfl
  | cons first rest ih =>
      rw [List.nodup_cons] at distinct
      rw [List.map_cons, updateForms, named]
      by_cases same : first = name
      · subst same
        have others : rest.map (fun other => if other = first then change (counter other) else counter other) =
            rest.map counter := by
          apply List.map_congr_left
          intro other mem
          rw [if_neg]
          rintro rfl
          exact distinct.1 mem
        simp [others]
      · have different : name ≠ first := Ne.symm same
        simp [same, different, ih distinct.2]

theorem mem_formsOf {marks : List Mark} : name ∈ formsOf marks ↔ ∃ ok, (name, ok) ∈ marks := by
  simp [formsOf]

theorem formsOf_append (marks : List Mark) (mark : Mark) :
    formsOf (marks ++ [mark]) = formsOf marks ++ if mark.1 ∈ formsOf marks then [] else [mark.1] := by
  simp only [formsOf, List.map_append, List.eraseDups_append, List.mem_eraseDups]
  generalize marks.map (·.1) = forms
  by_cases known : mark.1 ∈ forms
  · simp [List.removeAll, known]
  · simp [List.removeAll, known, List.eraseDups_cons]

theorem nodup_formsOf (marks : List Mark) : (formsOf marks).Nodup := by
  induction marks using List.reverseRecOn with
  | nil => exact List.nodup_nil
  | append_singleton marks mark ih =>
      rw [formsOf_append]
      split
      · simpa using ih
      · next new =>
          rw [← List.concat_eq_append]
          exact ih.concat new

end Forms

/-- What one more exchange does to the count of a form. -/
theorem tally_append (marks : List Mark) (name other : String) (ok : Bool) :
    tally (marks ++ [(name, ok)]) other =
      if other = name then
        let form := tally marks other
        if ok then { form with ok := form.ok + 1 } else { form with failed := form.failed + 1 }
      else tally marks other := by
  by_cases same : other = name
  · subst same
    cases ok <;> simp [tally, List.count_append]
  · have different : name ≠ other := Ne.symm same
    simp [tally, List.count_append, same, different]

theorem tally_eq_zero {marks : List Mark} {name : String} (new : name ∉ formsOf marks) :
    tally marks name = { name } := by
  have never : ∀ ok, (name, ok) ∉ marks := by
    intro ok mem
    exact new (mem_formsOf.mpr ⟨ok, mem⟩)
  simp [tally, List.count_eq_zero.mpr (never _)]

/-- From nothing, a summary comes to list exactly the forms that were counted, each with its count. -/
theorem forms_recordAll (marks : List Mark) :
    (recordAll {} marks).forms = (formsOf marks).map (tally marks) := by
  induction marks using List.reverseRecOn with
  | nil => rfl
  | append_singleton marks mark ih =>
      rcases mark with ⟨name, ok⟩
      have last : (recordAll {} (marks ++ [(name, ok)])).forms = ((recordAll {} marks).record name ok).forms := by
        simp [recordAll]
      have named : ∀ other, (tally marks other).name = other := fun _ => rfl
      rw [last, record]
      simp only [ih, updateForms_map named (nodup_formsOf marks), formsOf_append, List.map_append]
      congr 1
      · apply List.map_congr_left
        intro other _
        rw [tally_append]
      · by_cases known : name ∈ formsOf marks
        · simp [known]
        · simp [known, tally_append, tally_eq_zero known]

end Sparql.ExchangeSummary

/-! ## How an exchange ends -/

namespace Sparql

open Outcome

/-- A failure in the middle of an exchange. -/
def Failure.EndsExchange (failure : Failure) : Prop := failure.isExchanged ∨ failure.IsFault

namespace Failure

theorem IsFault.endsExchange {failure : Failure} (isFault : failure.IsFault) : failure.EndsExchange := .inr isFault

end Failure

namespace Exchange

variable {α β : Type}

/-- An exchange that fails in its own ways only. -/
def IsContained (run : Exchange α) : Prop := ∀ wire, FailsOnly Failure.EndsExchange (perform run wire).1

theorem isContained_pure {value : α} : IsContained (pure value) := fun _ => failsOnly_ok

theorem isContained_fail {failure : Failure} (ends : failure.EndsExchange) : IsContained (fail failure : Exchange α) :=
  fun _ => failsOnly_error ends

theorem isContained_ofOutcome {outcome : Outcome α} (failsOnly : FailsOnly Failure.EndsExchange outcome) :
    IsContained (ofOutcome outcome) := by
  intro wire
  cases outcome with
  | ok value => exact failsOnly_ok
  | error failure => exact failsOnly_error (failsOnly failure rfl)

theorem isContained_ofFault {outcome : Outcome α} (failsOnly : FailsOnly Failure.IsFault outcome) :
    IsContained (ofOutcome outcome) :=
  isContained_ofOutcome (failsOnly.mono fun _ isFault => isFault.endsExchange)

theorem IsContained.bind {run : Exchange α} {rest : α → Exchange β} (first : IsContained run)
    (second : ∀ value, IsContained (rest value)) : IsContained (run >>= rest) := by
  intro wire
  rw [perform_bind]
  have contained := first wire
  rcases performed : perform run wire with ⟨failure | value, after⟩
  · rw [performed] at contained
    exact failsOnly_error (contained failure rfl)
  · exact second value after

theorem isContained_emit {event : Event} : IsContained (emit event) := fun _ => failsOnly_ok

theorem isContained_info {message : String} : IsContained (info message) := isContained_emit

theorem isContained_receive : IsContained receive := by
  intro wire
  rw [receive, perform_bind_ok (perform_get wire)]
  cases wire.answers <;> exact failsOnly_ok

end Exchange

open Exchange

/-! ## Over HTTP -/

theorem isFault_configuredHeaders {settings : Settings} {accept : Option String} :
    FailsOnly Failure.IsFault (configuredHeaders settings accept) := by
  unfold configuredHeaders
  cases settings.headers
  case map => exact failsOnly_ok
  all_goals exact isFault_misuse

theorem isFault_sentHeaders {headers : List (Value × Value)} : FailsOnly Failure.IsFault (sentHeaders headers) := by
  apply failsOnly_foldlM
  rintro sent ⟨key, value⟩
  have hasName : FailsOnly Failure.IsFault (headerName key) := by
    unfold headerName
    split
    · exact failsOnly_ok
    · exact isFault_misuse
  exact hasName.bind fun _ => failsOnly_ok

theorem isFault_resolve {url : String} : FailsOnly Failure.IsFault (Address.resolve url) := by
  unfold Address.resolve
  simp only
  split
  · exact failsOnly_ok
  · exact isFault_misuse

/-- What makes no request is misuse. -/
theorem isFault_build {settings : Settings} {url : String} {parameters : List (String × String)} {method : HttpMethod}
    {accept : Option String} : FailsOnly Failure.IsFault (Request.build settings url parameters method accept) := by
  apply isFault_configuredHeaders.bind
  intro headers
  cases method
  all_goals
    apply isFault_resolve.bind
    intro address
    exact isFault_sentHeaders.bind fun _ => failsOnly_ok

namespace HttpSite

variable {site : HttpSite} {request : Request}

theorem endsExchange_outcomeOf {answer : Option Answer} :
    FailsOnly Failure.EndsExchange (outcomeOf request answer) := by
  unfold outcomeOf
  split
  case h_1 => exact failsOnly_ok
  case h_3 => exact failsOnly_error (.inr ⟨_, rfl⟩)
  all_goals exact failsOnly_error (.inl rfl)

theorem isContained_ask {host : Host} : IsContained (ask host request) := by
  unfold ask
  split
  · exact isContained_fail (.inr ⟨_, rfl⟩)
  · exact isContained_emit.bind fun _ => isContained_receive

theorem isContained_pause {host : Host} {delay : Value} : IsContained (pause host delay) := by
  unfold pause
  split
  · exact isContained_fail (.inr ⟨_, rfl⟩)
  · exact isContained_emit

theorem isContained_sendFrom {host : Host} {delay : Value} {total retries : Nat} :
    IsContained (sendFrom host request delay total retries) := by
  induction retries with
  | zero => exact isContained_ask.bind fun _ => isContained_ofOutcome endsExchange_outcomeOf
  | succ retries ih =>
      apply isContained_ask.bind
      intro answer
      split
      · exact isContained_emit.bind fun _ => isContained_pause.bind fun _ => ih
      · exact isContained_ofOutcome endsExchange_outcomeOf

theorem isContained_sendWithRetry : IsContained (site.sendWithRetry request) := by
  have isNumber : FailsOnly Failure.IsFault (attemptsOf site.settings.attempts) := by
    unfold attemptsOf
    split
    · exact failsOnly_ok
    · exact failsOnly_ok
    · exact isFault_misuse
  apply (isContained_ofFault isNumber).bind
  intro attempts
  split
  · exact isContained_fail (.inl rfl)
  · exact isContained_sendFrom

theorem isContained_query {text form : String} {graphs : List String} : IsContained (site.query text form graphs) := by
  apply (isContained_ofFault isFault_build).bind
  intro request
  apply isContained_info.bind
  intro _
  apply isContained_sendWithRetry.bind
  intro response
  exact isContained_info.bind fun _ => isContained_pure

theorem isFault_updateRequest {operation : Value} : FailsOnly Failure.IsFault (site.updateRequest operation) :=
  isFault_spell.bind fun _ => isFault_spell.bind fun _ => isFault_build

theorem isFault_updateText {operation : Value} : FailsOnly Failure.IsFault (updateText operation) := by
  unfold updateText
  split
  · exact failsOnly_ok
  · exact isFault_misuse

theorem isContained_update {operation : Value} : IsContained (site.update operation) := by
  apply (isContained_ofFault isFault_updateRequest).bind
  intro request
  apply (isContained_ofFault isFault_updateText).bind
  intro text
  apply isContained_info.bind
  intro _
  exact isContained_sendWithRetry.bind fun _ => isContained_pure

end HttpSite

/-! ## With a local store -/

namespace LocalStore

theorem endsExchange_outcomeOf {form : Option Form} {answer : Option Answer} :
    FailsOnly Failure.EndsExchange (outcomeOf form answer) := by
  have json : ∀ document, FailsOnly Failure.EndsExchange (jsonResponse form document) := by
    intro document
    unfold jsonResponse
    split
    · exact failsOnly_error (.inl rfl)
    · split
      · exact failsOnly_ok
      · exact failsOnly_error (.inl rfl)
  have graph : ∀ statements, FailsOnly Failure.EndsExchange (graphResponse form statements) := by
    intro statements
    unfold graphResponse
    split
    · split
      · exact failsOnly_ok
      · exact failsOnly_error (.inl rfl)
    · exact failsOnly_error (.inl rfl)
  unfold outcomeOf
  split
  case h_1 | h_2 => exact json _
  case h_3 => exact graph _
  all_goals exact failsOnly_error (.inl rfl)

theorem isContained_query {text form : String} : IsContained (query text form) := by
  apply isContained_emit.bind
  intro _
  apply isContained_receive.bind
  intro answer
  apply (isContained_ofOutcome endsExchange_outcomeOf).bind
  intro response
  exact isContained_info.bind fun _ => isContained_pure

theorem isContained_update {statements : List Statement} {operation : Value} :
    IsContained (update statements operation) := by
  have isUpdated : ∀ answer, FailsOnly Failure.EndsExchange (updated statements answer) := by
    intro answer
    unfold updated
    split
    case h_1 | h_4 => exact failsOnly_ok
    all_goals exact failsOnly_error (.inl rfl)
  apply isContained_emit.bind
  intro _
  apply isContained_receive.bind
  intro answer
  apply (isContained_ofOutcome (isUpdated answer)).bind
  intro response
  exact isContained_info.bind fun _ => isContained_pure

end LocalStore

/-! ## The client -/

namespace Results

theorem endsExchange_decode {body : List UInt8} {contentType : Option String} :
    FailsOnly Failure.EndsExchange (decode body contentType) := by
  intro failure failed
  rcases isContained_decode failure failed with ⟨cause, rfl⟩ | ⟨fault, rfl⟩
  · exact .inl rfl
  · exact .inr ⟨fault, rfl⟩

theorem endsExchange_checkShape {form : String} {contentType : Option String} {result : QueryResult} :
    FailsOnly Failure.EndsExchange (checkShape form contentType result) := by
  unfold checkShape
  split
  · exact failsOnly_ok
  · split
    · exact failsOnly_ok
    · exact failsOnly_error (.inl rfl)

end Results

namespace Client

variable {client : Client} {wire : Wire}

theorem isContained_exchangeQuery {text form : String} {graphs : List String} :
    IsContained (client.exchangeQuery text form graphs) := by
  have read : ∀ response : Response, IsContained (do
      let result ← Exchange.ofOutcome (Results.decode response.body response.contentType)
      Exchange.info (Results.decodedMessage response.contentType result)
      Exchange.ofOutcome (Results.checkShape form response.contentType result)) := by
    intro response
    apply (isContained_ofOutcome Results.endsExchange_decode).bind
    intro result
    exact isContained_info.bind fun _ => isContained_ofOutcome Results.endsExchange_checkShape
  unfold exchangeQuery
  split
  · exact HttpSite.isContained_query.bind read
  · exact LocalStore.isContained_query.bind read

theorem isContained_exchangeUpdate {operation : Value} : IsContained (client.exchangeUpdate operation) := by
  unfold exchangeUpdate
  split
  · exact HttpSite.isContained_update.bind fun _ => isContained_pure
  · exact LocalStore.isContained_update.bind fun _ => isContained_pure

/-- What an exchange of a form does to the client: it is counted once, as it ended, unless it was misuse, which
changes nothing. -/
inductive Counts (client : Client) (form : String) {α : Type} : Outcome α → Client → Prop
  | returned {value : α} {after : Client} (counted : after.summary = client.summary.record form true) :
      Counts client form (.ok value) after
  | failed {failure : Failure} {after : Client} (isExchanged : failure.isExchanged)
      (counted : after.summary = client.summary.record form false) : Counts client form (.error failure) after
  | broken (fault : Fault) : Counts client form (.error (.fault fault)) client

/-- An exchange that fails is counted under its form, unless it was misuse. -/
theorem counts_settle_error {α β : Type} {form : String} {failure : Failure} (ends : failure.EndsExchange) :
    client.Counts form (.error failure : Outcome α) (client.settle form (.error failure : Outcome β) wire).1 := by
  rcases ends with isExchanged | ⟨fault, rfl⟩
  · cases failure
    case transport | protocol => exact .failed rfl rfl
    all_goals cases isExchanged
  · exact .broken fault

theorem counts_query (client : Client) (text form : String) (graphs : List String) (wire : Wire) :
    client.Counts form (client.query text form graphs wire).1 (client.query text form graphs wire).2.1 := by
  have contained : IsContained (client.exchangeQuery text form graphs) := isContained_exchangeQuery
  specialize contained wire
  rcases performed : perform (client.exchangeQuery text form graphs) wire with ⟨failure | result, after⟩
  · rw [performed] at contained
    have counted : client.Counts form (.error failure : Outcome QueryResult)
        (client.settle form (.error failure : Outcome QueryResult) after).1 :=
      counts_settle_error (contained failure rfl)
    rw [query_of_performed performed]
    exact counted
  · rw [query_of_performed performed]
    exact .returned rfl

theorem counts_update (client : Client) (operation : Value) (wire : Wire) :
    client.Counts "update" (client.update operation wire).1 (client.update operation wire).2.1 := by
  have contained : IsContained (client.exchangeUpdate operation) := isContained_exchangeUpdate
  specialize contained wire
  rcases performed : perform (client.exchangeUpdate operation) wire with ⟨failure | destination, after⟩
  · rw [performed] at contained
    have counted : client.Counts "update" (.error failure : Outcome Unit)
        (client.settle "update" (.error failure : Outcome Destination) after).1 :=
      counts_settle_error (contained failure rfl)
    rw [update_of_performed_error performed]
    exact counted
  · rw [update_of_performed_ok performed]
    exact .returned rfl

end Client

end Sparql
