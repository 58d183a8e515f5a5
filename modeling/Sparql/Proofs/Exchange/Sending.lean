import Sparql.Exchange.Client
import Sparql.Proofs.Outcome
import Sparql.Proofs.Run

/-!
# What an exchange sends

An exchange about a query sends one thing only, perhaps several times: the request that carries the text to
the endpoint, or the text itself to a local store. All else that it records are pauses and log messages.
-/

namespace Sparql

/-- Whether something leaves the client: a request, or a text for a local store. -/
def Event.isSending : Event → Bool
  | .request _ | .evaluate _ => true
  | .log .. | .sleep _ => false

namespace Exchange

variable {α β : Type} {sent : Event}

/-- An exchange that sends nothing but `sent`, and gives what it should, given the events on the way, if it
succeeds. -/
def Sends (run : Exchange α) (sent : Event) (gives : List Event → α → Prop) : Prop :=
  ∀ wire, ∃ events, (perform run wire).2.events = events ++ wire.events ∧
    (∀ event ∈ events, event.isSending → event = sent) ∧
    ∀ value, (perform run wire).1 = .ok value → gives events value

theorem sends_pure {value : α} {gives : List Event → α → Prop} (given : gives [] value) :
    Sends (pure value) sent gives :=
  fun _ => ⟨[], rfl, by simp, fun _ done => by cases done; exact given⟩

theorem sends_throw {failure : Failure} {gives : List Event → α → Prop} :
    Sends (throw failure) sent gives :=
  fun _ => ⟨[], rfl, by simp, fun _ done => by cases done⟩

theorem sends_ofOutcome {outcome : Outcome α} {gives : List Event → α → Prop}
    (given : ∀ value, outcome = .ok value → gives [] value) :
    Sends (ofOutcome outcome) sent gives := by
  cases outcome with
  | ok value => exact sends_pure (given value rfl)
  | error failure => exact sends_throw

theorem sends_bind {run : Exchange α} {rest : α → Exchange β} {middle : List Event → α → Prop}
    {gives : List Event → β → Prop} (first : Sends run sent middle)
    (second : ∀ events value, middle events value →
      Sends (rest value) sent fun later result => gives (later ++ events) result) :
    Sends (run >>= rest) sent gives := by
  intro wire
  rcases first wire with ⟨events, recorded, only, given⟩
  rw [perform_bind]
  rcases performed : perform run wire with ⟨failure | value, after⟩
  · rw [performed] at recorded
    exact ⟨events, recorded, only, fun _ done => by cases done⟩
  · rw [performed] at recorded given
    rcases second events value (given value rfl) after with ⟨later, laterRecorded, laterOnly, result⟩
    refine ⟨later ++ events, ?_, ?_, result⟩
    · rw [laterRecorded, recorded, List.append_assoc]
    · intro event mem
      rcases List.mem_append.mp mem with new | old
      · exact laterOnly event new
      · exact only event old

theorem sends_ofOutcome_bind {outcome : Outcome α} {rest : α → Exchange β}
    {gives : List Event → β → Prop} (sends : ∀ value, outcome = .ok value → Sends (rest value) sent gives) :
    Sends (ofOutcome outcome >>= rest) sent gives := by
  cases outcome with
  | ok value => exact sends value rfl
  | error failure => exact sends_throw

theorem sends_emit {event : Event} (isSent : event.isSending → event = sent) :
    Sends (emit event) sent fun events _ => events = [event] :=
  fun _ => ⟨[event], rfl, by simpa using isSent, fun _ _ => rfl⟩

theorem sends_info {message : String} : Sends (info message) sent fun _ _ => True :=
  fun _ => ⟨[.log .info message], rfl, by simp [Event.isSending], fun _ _ => trivial⟩

theorem sends_receive : Sends receive sent fun _ _ => True := by
  intro wire
  refine ⟨[], ?_, by simp, fun _ _ => trivial⟩
  rw [receive, perform_bind_ok (perform_get wire)]
  cases wire.answers <;> rfl

theorem sends_ask {host : Host} {request : Request} :
    Sends (ask host request) (.request request) fun events _ => .request request ∈ events := by
  unfold ask
  split
  · exact sends_throw
  · refine sends_bind (sends_emit fun _ => rfl) fun events _ emitted wire => ?_
    rcases sends_receive wire with ⟨later, recorded, only, _⟩
    exact ⟨later, recorded, only, fun _ _ => by simp [emitted]⟩

theorem sends_pause {host : Host} {delay : Value} : Sends (pause host delay) sent fun _ _ => True := by
  unfold pause
  split
  · exact sends_throw
  · exact fun _ => ⟨[.sleep delay], rfl, by simp [Event.isSending], fun _ _ => trivial⟩

end Exchange

open Exchange

/-! ## Sending a query -/

theorem HttpSite.sends_send {host : Host} {request : Request} :
    Sends (send host request) (.request request) fun events _ => .request request ∈ events := by
  refine sends_bind sends_ask fun events answer asked => ?_
  exact sends_ofOutcome fun _ _ => by simp [asked]

/-- However many attempts there are, each sends the same request. -/
theorem HttpSite.sends_sendFrom {host : Host} {request : Request} {delay : Value} {total retries : Nat} :
    Sends (sendFrom host request delay total retries) (.request request)
      fun events _ => .request request ∈ events := by
  induction retries with
  | zero => exact sends_send
  | succ retries ih =>
      refine sends_bind sends_ask fun events answer asked => ?_
      split
      · refine sends_bind (sends_emit (by simp [Event.isSending])) fun _ _ _ => ?_
        refine sends_bind sends_pause fun _ _ _ wire => ?_
        rcases ih wire with ⟨later, recorded, only, _⟩
        exact ⟨later, recorded, only, fun _ _ => by simp [asked]⟩
      · exact sends_ofOutcome fun _ _ => by simp [asked]

theorem HttpSite.sends_sendWithRetry {site : HttpSite} {request : Request} :
    Sends (site.sendWithRetry request) (.request request)
      fun events _ => .request request ∈ events := by
  refine sends_ofOutcome_bind fun attempts _ => ?_
  split
  · exact sends_throw
  · exact sends_sendFrom

theorem HttpSite.sends_query {site : HttpSite} {text form : String} {graphs : List String}
    {request : Request} (isRequest : site.queryRequest text form graphs = .ok request) :
    Sends (site.query text form graphs) (.request request)
      fun events _ => .request request ∈ events := by
  refine sends_ofOutcome_bind fun same isSame => ?_
  cases isRequest.symm.trans isSame
  refine sends_bind sends_info fun _ _ _ => ?_
  refine sends_bind sends_sendWithRetry fun events response sent => ?_
  refine sends_bind sends_info fun _ _ _ => sends_pure (by simp [sent])

theorem HttpSite.sends_update {site : HttpSite} {operation : Value} {request : Request}
    (isRequest : site.updateRequest operation = .ok request) :
    Sends (site.update operation) (.request request) fun events _ => .request request ∈ events := by
  refine sends_ofOutcome_bind fun same isSame => ?_
  cases isRequest.symm.trans isSame
  refine sends_ofOutcome_bind fun _ _ => ?_
  refine sends_bind sends_info fun _ _ _ => ?_
  refine sends_bind sends_sendWithRetry fun events _ sent => sends_pure (by simp [sent])

/-- Without a request nothing happens. -/
theorem HttpSite.query_of_unmade {site : HttpSite} {text form : String} {graphs : List String} {failure : Failure}
    {wire : Wire} (unmade : site.queryRequest text form graphs = .error failure) :
    perform (site.query text form graphs) wire = (.error failure, wire) := by
  rw [query, unmade]
  rfl

theorem HttpSite.update_of_unmade {site : HttpSite} {operation : Value} {failure : Failure} {wire : Wire}
    (unmade : site.updateRequest operation = .error failure) :
    perform (site.update operation) wire = (.error failure, wire) := by
  rw [update, unmade]
  rfl

theorem LocalStore.sends_query {text form : String} :
    Sends (query text form) (.evaluate (.text text))
      fun events _ => .evaluate (.text text) ∈ events := by
  refine sends_bind (sends_emit fun _ => rfl) fun events _ emitted => ?_
  refine sends_bind sends_receive fun _ answer _ => ?_
  refine sends_ofOutcome_bind fun response _ => ?_
  exact sends_bind sends_info fun _ _ _ => sends_pure (by simp [emitted])

theorem Results.kind_of_checkShape {form : Form} {contentType : Option String}
    {read result : QueryResult} (checked : checkShape form.name contentType read = .ok result) :
    result.kind = expectedKind form := by
  have named : Form.ofName? form.name = some form := by cases form <;> rfl
  simp only [checkShape, named, Option.map_some] at checked
  split at checked <;> cases checked
  assumption

namespace Client

variable {client : Client} {text : String} {graphs : List String}

/-- What a client sends to have a text answered. -/
def sending (client : Client) (text form : String) (graphs : List String) : Outcome Event :=
  match client.destination with
  | .http site => (site.queryRequest text form graphs).map .request
  | .local _ => .ok (.evaluate (.text text))

/-- Among some events a text was sent, and nothing else was. -/
structure Sent (client : Client) (text form : String) (graphs : List String) (events : List Event) :
    Prop where
  sent : ∃ event ∈ events, client.sending text form graphs = .ok event
  only : ∀ event ∈ events, event.isSending → client.sending text form graphs = .ok event

/-- Reading an answer sends nothing, and the result has the shape that is asked for. -/
theorem sends_exchangeQuery {form : Form} {event : Event}
    (isSent : client.sending text form.name graphs = .ok event) :
    Sends (client.exchangeQuery text form.name graphs) event fun events result =>
      event ∈ events ∧ result.kind = Results.expectedKind form := by
  have read : ∀ (response : Response) (events : List Event), event ∈ events → Sends (do
      let result ← Exchange.ofOutcome (Results.decode response.body response.contentType)
      Exchange.info (Results.decodedMessage response.contentType result)
      Exchange.ofOutcome (Results.checkShape form.name response.contentType result)) event
      fun later result => event ∈ later ++ events ∧ result.kind = Results.expectedKind form := by
    intro response events mem
    refine sends_ofOutcome_bind fun result _ => ?_
    refine sends_bind sends_info fun _ _ _ => ?_
    exact sends_ofOutcome fun value checked =>
      ⟨by simp [mem], Results.kind_of_checkShape checked⟩
  unfold exchangeQuery
  rcases isDestination : client.destination with site | statements
  · simp only [sending, isDestination] at isSent
    rcases Outcome.map_eq_ok.mp isSent with ⟨request, isRequest, rfl⟩
    exact sends_bind (HttpSite.sends_query isRequest) fun events response => read response events
  · simp only [sending, isDestination] at isSent
    cases isSent
    exact sends_bind LocalStore.sends_query fun events response => read response events

/-- Nothing happens with a text of which no request can be made. -/
theorem perform_exchangeQuery_unsendable {form : String} {failure : Failure} {wire : Wire}
    (unsendable : client.sending text form graphs = .error failure) :
    ∃ cause, perform (client.exchangeQuery text form graphs) wire = (.error cause, wire) := by
  unfold exchangeQuery
  rcases isDestination : client.destination with site | statements
  · simp only [sending, isDestination] at unsendable
    rcases isRequest : site.queryRequest text form graphs with cause | request
    · exact ⟨cause, perform_bind_error (HttpSite.query_of_unmade isRequest)⟩
    · rw [isRequest] at unsendable
      cases unsendable
  · simp only [sending, isDestination] at unsendable
    cases unsendable

/-- A text of which no request can be made is never answered. -/
theorem exchangeQuery_ne_ok {form : String} {failure : Failure} {wire : Wire} {result : QueryResult}
    (unsendable : client.sending text form graphs = .error failure) :
    (perform (client.exchangeQuery text form graphs) wire).1 ≠ .ok result := by
  rcases perform_exchangeQuery_unsendable unsendable with ⟨cause, failed⟩
  rw [failed]
  rintro ⟨⟩

/-- Counting an exchange sends nothing. -/
theorem settle_events {α : Type} (client : Client) (form : String) (outcome : Outcome α) (wire : Wire) :
    ∃ events, (client.settle form outcome wire).2.events = events ++ wire.events ∧
      ∀ event ∈ events, event.isSending = false := by
  unfold settle
  split
  · exact ⟨[], rfl, by simp⟩
  · split
    · exact ⟨[], rfl, by simp⟩
    · exact ⟨[_], rfl, by simp [Event.isSending]⟩

/-- A query is settled as its exchange ends. -/
theorem query_of_performed {client : Client} {text form : String} {graphs : List String} {wire after : Wire}
    {outcome : Outcome QueryResult} (performed : perform (client.exchangeQuery text form graphs) wire = (outcome, after)) :
    client.query text form graphs wire = (outcome, client.settle form outcome after) := by
  have ran : (client.exchangeQuery text form graphs).run wire = (outcome, after) := performed
  rw [query, ran]

theorem update_of_performed_error {client : Client} {operation : Value} {wire after : Wire} {failure : Failure}
    (performed : perform (client.exchangeUpdate operation) wire = (.error failure, after)) :
    client.update operation wire =
      (.error failure, client.settle "update" (.error failure : Outcome Destination) after) := by
  have ran : (client.exchangeUpdate operation).run wire = (.error failure, after) := performed
  rw [update, ran]

theorem update_of_performed_ok {client : Client} {operation : Value} {wire after : Wire} {destination : Destination}
    (performed : perform (client.exchangeUpdate operation) wire = (.ok destination, after)) :
    client.update operation wire = (.ok (), { client with destination }.settle "update" (.ok destination) after) := by
  have ran : (client.exchangeUpdate operation).run wire = (.ok destination, after) := performed
  rw [update, ran]

/-- Whether it is answered or not, a query sends one thing only, as it was given. -/
theorem query_sends {form : Form} (client : Client) (text : String) (graphs : List String) (wire : Wire) :
    ∃ events, (client.query text form.name graphs wire).2.2.events = events ++ wire.events ∧
      ∀ event ∈ events, event.isSending → client.sending text form.name graphs = .ok event := by
  rcases performed : perform (client.exchangeQuery text form.name graphs) wire with ⟨outcome, later⟩
  have sent : ∃ events, later.events = events ++ wire.events ∧
      ∀ event ∈ events, event.isSending → client.sending text form.name graphs = .ok event := by
    rcases isSent : client.sending text form.name graphs with failure | event
    · rcases perform_exchangeQuery_unsendable isSent with ⟨cause, unsent⟩
      cases performed.symm.trans unsent
      exact ⟨[], rfl, by simp⟩
    · rcases sends_exchangeQuery isSent wire with ⟨events, recorded, only, _⟩
      rw [performed] at recorded
      exact ⟨events, recorded, fun other mem sends => congrArg Except.ok (only other mem sends).symm⟩
  rcases sent with ⟨events, recorded, only⟩
  rcases client.settle_events form.name outcome later with ⟨counting, counted, quiet⟩
  refine ⟨counting ++ events, ?_, fun event mem sends => ?_⟩
  · rw [query_of_performed performed, counted, recorded, List.append_assoc]
  · rcases List.mem_append.mp mem with isCounting | isEvent
    · rw [quiet event isCounting] at sends
      cases sends
    · exact only event isEvent sends

/-- A query that is answered was sent, as it was given and nothing else, and has a result of the right shape. -/
theorem query_ok {form : Form} {wire : Wire} {result : QueryResult} {after : Client × Wire}
    (answered : client.query text form.name graphs wire = (.ok result, after)) :
    result.kind = Results.expectedKind form ∧ ∃ events, after.2.events = events ++ wire.events ∧
      client.Sent text form.name graphs events := by
  rcases performed : perform (client.exchangeQuery text form.name graphs) wire with ⟨outcome, later⟩
  rw [query_of_performed performed] at answered
  cases answered
  rcases isSent : client.sending text form.name graphs with failure | event
  · exact absurd (by rw [performed]) (exchangeQuery_ne_ok isSent)
  · rcases sends_exchangeQuery isSent wire with ⟨events, recorded, only, given⟩
    rw [performed] at recorded given
    rcases given result rfl with ⟨mem, shape⟩
    refine ⟨shape, events, recorded, ⟨event, mem, isSent⟩, fun other isOther sends => ?_⟩
    rw [only other isOther sends]
    exact isSent

end Client

end Sparql
