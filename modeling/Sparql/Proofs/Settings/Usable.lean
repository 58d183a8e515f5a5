import Sparql.Proofs.Exchange.Attempts
import Sparql.Proofs.Exchange.Counting
import Sparql.Proofs.Exchange.Headers
import Sparql.Proofs.Exchange.Parameters
import Sparql.Proofs.Number.Numeral
import Sparql.Proofs.Settings.Containment

/-!
# What accepted settings are good for

Settings that pass every check name a method of requests and allow an attempt at least, so an exchange with them sends
its request, if one can be made and the machine sends it. The timeout is positive and the delay not negative, unless
they are no numbers at all: what is no number is neither below a bound nor above it, and passes the checks. Nor is it
checked that the headers can be written and that the timeout is one that a machine can wait for.
-/

namespace Sparql

open Outcome

/-! ## Doubles -/

namespace Double

/-- Numbers above zero. -/
inductive IsPositive : Double → Prop
  | infinite : IsPositive (.infinite false)
  | finite {negative : Bool} {mantissa : Nat} {exponent : Int}
      (above : 0 < signedFraction negative (mantissa * 2 ^ exponent)) : IsPositive (.finite negative mantissa exponent)

/-- Numbers from zero on. -/
inductive IsNonnegative : Double → Prop
  | infinite : IsNonnegative (.infinite false)
  | finite {negative : Bool} {mantissa : Nat} {exponent : Int}
      (notBelow : 0 ≤ signedFraction negative (mantissa * 2 ^ exponent)) :
      IsNonnegative (.finite negative mantissa exponent)

variable {number : Double} {negative : Bool} {mantissa : Nat} {exponent : Int}

theorem isPositive_finite : (Double.finite negative mantissa exponent).IsPositive ↔ negative = false ∧ mantissa ≠ 0 := by
  have power : (0 : ℚ) < 2 ^ exponent := by positivity
  have above : 0 < signedFraction negative (mantissa * 2 ^ exponent) ↔ negative = false ∧ mantissa ≠ 0 := by
    cases negative with
    | false => simp [signedFraction, power, Nat.pos_iff_ne_zero]
    | true =>
        have magnitude : (0 : ℚ) ≤ mantissa * 2 ^ exponent := by positivity
        simp [signedFraction, magnitude]
  rw [← above]
  exact ⟨fun isPositive => by cases isPositive; assumption, .finite⟩

theorem isNonnegative_finite :
    (Double.finite negative mantissa exponent).IsNonnegative ↔ negative = false ∨ mantissa = 0 := by
  have magnitude : (0 : ℚ) ≤ mantissa * 2 ^ exponent := by positivity
  have notBelow : 0 ≤ signedFraction negative (mantissa * 2 ^ exponent) ↔ negative = false ∨ mantissa = 0 := by
    cases negative with
    | false => simp [signedFraction, magnitude]
    | true =>
        have power : (2 : ℚ) ^ exponent ≠ 0 := by positivity
        have isZero : (mantissa : ℚ) * 2 ^ exponent ≤ 0 ↔ mantissa = 0 := by
          rw [magnitude.ge_iff_eq', mul_eq_zero]
          simp [power]
        simpa [signedFraction] using isZero
  rw [← notBelow]
  exact ⟨fun isNonnegative => by cases isNonnegative; assumption, .finite⟩

/-- What is not at zero or below is above zero, or no number. -/
theorem isNonpositive_eq_false : number.isNonpositive = false ↔ number.IsPositive ∨ number = .nan := by
  cases number with
  | nan => simp [isNonpositive]
  | infinite negative =>
      cases negative with
      | false => exact iff_of_true rfl (.inl .infinite)
      | true => exact iff_of_false (by decide) fun is => by rcases is with is | is <;> cases is
  | finite negative mantissa exponent => simp [isNonpositive, isPositive_finite]

/-- What is not below zero is zero or above, or no number. -/
theorem isNegative_eq_false : number.isNegative = false ↔ number.IsNonnegative ∨ number = .nan := by
  cases number with
  | nan => simp [isNegative]
  | infinite negative =>
      cases negative with
      | false => exact iff_of_true rfl (.inl .infinite)
      | true => exact iff_of_false (by decide) fun is => by rcases is with is | is <;> cases is
  | finite negative mantissa exponent => cases negative <;> simp [isNegative, isNonnegative_finite]

end Double

/-! ## Bounds -/

namespace Settings

/-- Settings within their bounds, as far as they are numbers. -/
structure Checked.IsBounded (settings : Settings.Checked) : Prop where
  method : settings.method = "GET" ∨ settings.method = "POST"
  timeout : settings.timeout.IsPositive ∨ settings.timeout = .nan
  attempts : 1 ≤ settings.attempts
  delay : settings.delay.IsNonnegative ∨ settings.delay = .nan

variable {settings : Settings.Checked} {raw : Value}

/-- Nothing is found to be wrong with settings that are within their bounds, and with no others. -/
theorem Checked.problem?_eq_none : settings.problem? = none ↔ settings.IsBounded := by
  have bounds : settings.problem? = none ↔ (settings.method = "GET" ∨ settings.method = "POST") ∧
      settings.timeout.isNonpositive = false ∧ 1 ≤ settings.attempts ∧ settings.delay.isNegative = false := by
    unfold Checked.problem?
    grind
  rw [bounds, Double.isNonpositive_eq_false, Double.isNegative_eq_false]
  constructor
  · rintro ⟨method, timeout, attempts, delay⟩
    exact ⟨method, timeout, attempts, delay⟩
  · rintro ⟨method, timeout, attempts, delay⟩
    exact ⟨method, timeout, attempts, delay⟩

theorem isBounded_of_check (accepted : (check raw).Yields settings) : settings.IsBounded := by
  unfold check at accepted
  split at accepted
  · rcases Reading.yields_bind.mp accepted with ⟨read, _, accepted⟩
    split at accepted
    · split at accepted <;> cases accepted
    · next noProblem =>
        cases Reading.yields_pure.mp accepted
        exact Checked.problem?_eq_none.mp noProblem
  · cases accepted

theorem ofValue_eq_ok : ofValue raw = .ok (.ok settings) ↔ (check raw).Yields settings := by
  unfold ofValue outcome Reading.Yields
  split <;> simp_all [misuse]

end Settings

/-! ## Exchanges -/

/-- A failure other than that no attempt is made. -/
def Failure.IsAttempted (failure : Failure) : Prop :=
  ∀ url, failure ≠ .transport "No request attempts configured" url

theorem Failure.isAttempted_transport {message : String} {url : Option String}
    (begins : message.toList.head? = some 'S') : (Failure.transport message url).IsAttempted := by
  intro other same
  injection same with isMessage
  rw [isMessage] at begins
  exact absurd begins (by decide)

theorem Failure.IsFault.isAttempted {failure : Failure} (isFault : failure.IsFault) : failure.IsAttempted := by
  rcases isFault with ⟨fault, rfl⟩
  rintro url ⟨⟩

theorem HttpSite.isAttempted_outcomeOf {request : Request} {answer : Option Answer} :
    FailsOnly Failure.IsAttempted (outcomeOf request answer) := by
  intro failure failed
  unfold outcomeOf at failed
  split at failed <;> cases failed
  case h_2 | h_3 => rintro url ⟨⟩
  all_goals exact Failure.isAttempted_transport (by simp)

theorem Results.isAttempted_decode {body : List UInt8} {contentType : Option String} :
    FailsOnly Failure.IsAttempted (decode body contentType) := by
  intro failure failed
  rcases isContained_decode failure failed with ⟨cause, rfl⟩ | ⟨fault, rfl⟩ <;> rintro url ⟨⟩

theorem Results.isAttempted_checkShape {form : String} {contentType : Option String} {result : QueryResult} :
    FailsOnly Failure.IsAttempted (checkShape form contentType result) := by
  unfold checkShape
  split
  · exact failsOnly_ok
  · split
    · exact failsOnly_ok
    · exact failsOnly_error (by rintro url ⟨⟩)

namespace Exchange

variable {α β : Type} {run : Exchange α} {rest : α → Exchange β} {required : List Event} {wire : Wire}

/-- An exchange in which some events have happened, and which does not fail because no attempt is made. -/
structure Goes (required : List Event) (wire : Wire) (result : Outcome α × Wire) : Prop where
  adds : ∃ events, result.2.events = events ++ wire.events ∧ required ⊆ events
  isAttempted : FailsOnly Failure.IsAttempted result.1

theorem goes_pure {value : α} : Goes [] wire (perform (pure value) wire) :=
  ⟨⟨[], rfl, List.nil_subset _⟩, failsOnly_ok⟩

theorem goes_ofOutcome {outcome : Outcome α} (isAttempted : FailsOnly Failure.IsAttempted outcome) :
    Goes [] wire (perform (ofOutcome outcome) wire) := by
  rw [HttpSite.perform_ofOutcome]
  exact ⟨⟨[], rfl, List.nil_subset _⟩, isAttempted⟩

theorem goes_info {message : String} : Goes [] wire (perform (info message) wire) :=
  ⟨⟨[.log .info message], rfl, List.nil_subset _⟩, failsOnly_ok⟩

/-- What follows need not add anything. -/
theorem Goes.bind (first : Goes required wire (perform run wire))
    (second : ∀ value after, Goes [] after (perform (rest value) after)) :
    Goes required wire (perform (run >>= rest) wire) := by
  rcases first with ⟨⟨events, recorded, areIn⟩, isAttempted⟩
  rw [perform_bind]
  rcases performed : perform run wire with ⟨failure | value, after⟩
  · rw [performed] at recorded isAttempted
    exact ⟨⟨events, recorded, areIn⟩, failsOnly_error (isAttempted failure rfl)⟩
  · rw [performed] at recorded
    rcases second value after with ⟨⟨later, isLater, _⟩, isAttempted⟩
    refine ⟨⟨later ++ events, ?_, List.subset_append_of_subset_right later areIn⟩, isAttempted⟩
    exact isLater.trans (by rw [recorded, List.append_assoc])

end Exchange

open Exchange

theorem HttpSite.Tried.goes {host : Host} {request : Request} {delay : Value} {wire after : Wire}
    {outcome : Outcome Response} (tried : Tried host request delay wire outcome after) :
    Goes [.request request] wire (outcome, after) := by
  rcases tried.requested with ⟨events, recorded, mem⟩
  refine ⟨⟨events, recorded, by simpa using mem⟩, ?_⟩
  rcases tried.ends with ⟨answer, rfl⟩ | ⟨cause, _, rfl⟩
  · exact isAttempted_outcomeOf
  · exact failsOnly_error (Failure.IsFault.isAttempted ⟨cause, rfl⟩)

namespace Client

variable {client : Client} {site : HttpSite} {request : Request} {wire : Wire} {count : Int}
  (isDestination : client.destination = .http site) (isConfigured : site.settings.attempts = .int count)
  (positive : 0 < count)

include isDestination isConfigured positive

theorem goes_exchangeQuery {text form : String} {graphs : List String}
    (isRequest : site.queryRequest text form graphs = .ok request) (sends : site.host.sendFault? request = none) :
    Goes [.request request] wire (perform (client.exchangeQuery text form graphs) wire) := by
  unfold exchangeQuery
  rw [isDestination]
  refine (HttpSite.tried_query isConfigured positive isRequest sends).goes.bind fun response after => ?_
  refine (goes_ofOutcome Results.isAttempted_decode).bind fun result after => ?_
  exact goes_info.bind fun _ after => goes_ofOutcome Results.isAttempted_checkShape

theorem goes_exchangeUpdate {operation : Value} {text : String} (isRequest : site.updateRequest operation = .ok request)
    (isText : HttpSite.updateText operation = .ok text) (sends : site.host.sendFault? request = none) :
    Goes [.request request] wire (perform (client.exchangeUpdate operation) wire) := by
  unfold exchangeUpdate
  rw [isDestination]
  refine Goes.bind ?_ fun _ after => goes_pure
  obtain ⟨outcome, tried, isOutcome⟩ : ∃ outcome, HttpSite.Tried _ _ _ wire outcome _ ∧ _ :=
    HttpSite.tried_update isConfigured positive isRequest isText sends
  exact ⟨tried.goes.adds, isOutcome ▸ tried.goes.isAttempted.map⟩

end Client

/-! ## Clients -/

/-- The request that an update is sent with. Only a text can be sent. -/
def HttpSite.updateSending (site : HttpSite) (operation : Value) : Outcome Request := do
  let request ← site.updateRequest operation
  let _ ← updateText operation
  return request

namespace Client

variable {client : Client} {site : HttpSite} {wire : Wire}

/-- How an exchange goes for which a request is made, or is not, and which the machine sends, or does not. -/
structure Serves {α : Type} (client : Client) (host : Host) (made : Outcome Request) (wire : Wire)
    (result : Outcome α × Client × Wire) : Prop where
  /-- Where no request can be made, that is misuse, and nothing happens. -/
  unmade : ∀ failure, made = .error failure → failure.IsFault ∧ result = (.error failure, client, wire)
  /-- Where the machine does not send it, that is misuse too. It is in the log only and counts for nothing. -/
  refused : ∀ request cause, made = .ok request → host.sendFault? request = some cause →
    ∃ message, result = (.error (.fault cause), client, HttpSite.logged wire message)
  sent : ∀ request, made = .ok request → host.sendFault? request = none →
    ∃ events, result.2.2.events = events ++ wire.events ∧ .request request ∈ events
  isAttempted : FailsOnly Failure.IsAttempted result.1

theorem serves_of_unmade {α : Type} {host : Host} {made : Outcome Request} {failure : Failure}
    (isFault : failure.IsFault) (isUnmade : made = .error failure) :
    client.Serves host made wire ((.error failure, client, wire) : Outcome α × Client × Wire) := by
  refine ⟨fun other isOther => ?_, fun request cause isMade => ?_, fun request isMade => ?_,
    failsOnly_error isFault.isAttempted⟩
  · cases isUnmade.symm.trans isOther
    exact ⟨isFault, rfl⟩
  · cases isUnmade.symm.trans isMade
  · cases isUnmade.symm.trans isMade

theorem serves_of_refused {α : Type} {host : Host} {request : Request} {cause : Fault} {message : String}
    (refuses : host.sendFault? request = some cause) :
    client.Serves host (.ok request) wire
      ((.error (.fault cause), client, HttpSite.logged wire message) : Outcome α × Client × Wire) := by
  refine ⟨by rintro _ ⟨⟩, ?_, ?_, failsOnly_error (Failure.IsFault.isAttempted ⟨cause, rfl⟩)⟩
  · rintro _ other ⟨⟩ isOther
    cases refuses.symm.trans isOther
    exact ⟨message, rfl⟩
  · rintro _ ⟨⟩ sends
    cases refuses.symm.trans sends

theorem settle_fault {α : Type} {form : String} {failure : Failure} (isFault : failure.IsFault) :
    client.settle form (.error failure : Outcome α) wire = (client, wire) := by
  rcases isFault with ⟨fault, rfl⟩
  rfl

section Destination

variable {failure : Failure} {after : Wire} (isDestination : client.destination = .http site)
  (isFault : failure.IsFault)

include isDestination isFault

/-- Misuse ends a call as it ends the exchange, and is not counted. -/
theorem query_of_fault {text form : String} {graphs : List String}
    (failed : perform (site.query text form graphs) wire = (.error failure, after)) :
    client.query text form graphs wire = (.error failure, client, after) := by
  have ends : perform (client.exchangeQuery text form graphs) wire = (.error failure, after) := by
    unfold exchangeQuery
    rw [isDestination]
    exact perform_bind_error failed
  rw [query_of_performed ends, settle_fault isFault]

theorem update_of_fault {operation : Value} (failed : perform (site.update operation) wire = (.error failure, after)) :
    client.update operation wire = (.error failure, client, after) := by
  have ends : perform (client.exchangeUpdate operation) wire = (.error failure, after) := by
    unfold exchangeUpdate
    rw [isDestination]
    exact perform_bind_error failed
  rw [update_of_performed_error ends, settle_fault isFault]

end Destination

/-- An exchange that sends its request is settled with the request sent. -/
theorem serves_of_goes {α β : Type} {host : Host} {settled : Client} {form : String} {request : Request}
    {outcome : Outcome α} {result : Outcome β} {after : Wire} (sends : host.sendFault? request = none)
    (goes : Goes [.request request] wire (outcome, after)) (isAttempted : FailsOnly Failure.IsAttempted result) :
    client.Serves host (.ok request) wire (result, settled.settle form outcome after) := by
  refine ⟨by rintro _ ⟨⟩, ?_, ?_, isAttempted⟩
  · rintro _ cause ⟨⟩ refuses
    cases sends.symm.trans refuses
  · rintro _ ⟨⟩ _
    rcases goes.adds with ⟨events, recorded, areIn⟩
    rcases settled.settle_events form outcome after with ⟨later, isLater, _⟩
    refine ⟨later ++ events, ?_, List.mem_append_right _ (areIn (.head _))⟩
    rw [isLater, recorded, List.append_assoc]

section Configured

variable {count : Int} (isDestination : client.destination = .http site)
  (isConfigured : site.settings.attempts = .int count) (positive : 0 < count)

include isDestination isConfigured positive

theorem serves_query (text form : String) (graphs : List String) :
    client.Serves site.host (site.queryRequest text form graphs) wire (client.query text form graphs wire) := by
  rcases isMade : site.queryRequest text form graphs with failure | request
  · have isFault : failure.IsFault := isFault_build failure isMade
    rw [query_of_fault isDestination isFault (HttpSite.query_of_unmade isMade)]
    exact serves_of_unmade isFault rfl
  rcases sends : site.host.sendFault? request with _ | cause
  · have goes : Goes [.request request] wire (perform (client.exchangeQuery text form graphs) wire) :=
      goes_exchangeQuery isDestination isConfigured positive isMade sends
    rw [query_of_performed rfl]
    exact serves_of_goes sends goes goes.isAttempted
  · rw [query_of_fault isDestination ⟨cause, rfl⟩ (HttpSite.query_of_refused isConfigured positive isMade sends)]
    exact serves_of_refused sends

theorem serves_update (operation : Value) :
    client.Serves site.host (site.updateSending operation) wire (client.update operation wire) := by
  rcases isMade : site.updateSending operation with failure | request
  · have unsent : perform (site.update operation) wire = (.error failure, wire) := by
      unfold HttpSite.updateSending at isMade
      rcases bind_eq_error.mp isMade with noRequest | ⟨request, isRequest, isMade⟩
      · exact HttpSite.update_of_unmade noRequest
      · rcases bind_eq_error.mp isMade with noText | ⟨_, _, ⟨⟩⟩
        rw [HttpSite.update, isRequest, noText]
        rfl
    have fails : FailsOnly Failure.IsFault (site.updateSending operation) :=
      HttpSite.isFault_updateRequest.bind fun _ => HttpSite.isFault_updateText.bind fun _ => failsOnly_ok
    have isFault : failure.IsFault := fails failure isMade
    rw [update_of_fault isDestination isFault unsent]
    exact serves_of_unmade isFault rfl
  unfold HttpSite.updateSending at isMade
  rcases bind_eq_ok.mp isMade with ⟨made, isRequest, isMade⟩
  rcases bind_eq_ok.mp isMade with ⟨text, isText, isMade⟩
  cases isMade
  rcases sends : site.host.sendFault? request with _ | cause
  · have goes : Goes [.request request] wire (perform (client.exchangeUpdate operation) wire) :=
      goes_exchangeUpdate isDestination isConfigured positive isRequest isText sends
    rcases performed : perform (client.exchangeUpdate operation) wire with ⟨failure | destination, after⟩
    · rw [performed] at goes
      rw [update_of_performed_error performed]
      exact serves_of_goes sends goes (failsOnly_error (goes.isAttempted failure rfl))
    · rw [performed] at goes
      rw [update_of_performed_ok performed]
      exact serves_of_goes sends goes failsOnly_ok
  · have refused : perform (site.update operation) wire = _ :=
      HttpSite.update_of_refused isConfigured positive isRequest isText sends
    rw [update_of_fault isDestination ⟨cause, rfl⟩ refused]
    exact serves_of_refused sends

end Configured

theorem site_of_create {endpoint : Value} {settings : Settings} {host : Host}
    (created : create endpoint settings host = .ok client) (isDestination : client.destination = .http site) :
    site.settings = settings ∧ site.host = host := by
  unfold create at created
  dsimp only at created
  split at created
  · cases created
  · cases created
    cases isDestination
  · rcases map_eq_ok.mp created with ⟨address, _, rfl⟩
    cases isDestination
    exact ⟨rfl, rfl⟩

end Client

/-! ## Interpreters -/

namespace Host

variable {longestWait longestPause : Nat} {request : Request}

/-- An interpreter sends a request whose headers can be written, if it can wait for the answer. -/
theorem sendFault?_interpreter : (interpreter longestWait longestPause).sendFault? request = none ↔
    (∀ header ∈ request.headers, headerFault? header.2 = none) ∧ timeoutFault? longestWait request.timeout = none := by
  simp [interpreter, List.findSome?_eq_none_iff]

end Host

section Headers

variable {holds : Value → Prop} {key value : Value} {name : String}

theorem forall_insertEntry {headers : List (Value × Value)} (holdsValue : holds value)
    (each : ∀ header ∈ headers, holds header.2) :
    ∀ header ∈ Value.insertEntry key value headers, holds header.2 := by
  induction headers with
  | nil => simpa [Value.insertEntry] using holdsValue
  | cons header headers ih =>
      rw [List.forall_mem_cons] at each
      rw [Value.insertEntry]
      split
      · exact List.forall_mem_cons.mpr ⟨holdsValue, each.2⟩
      · exact List.forall_mem_cons.mpr ⟨each.1, ih each.2⟩

theorem forall_insertAll {entries headers : List (Value × Value)} (eachEntry : ∀ entry ∈ entries, holds entry.2)
    (each : ∀ header ∈ headers, holds header.2) :
    ∀ header ∈ entries.foldl (fun sum (key, value) => Value.insertEntry key value sum) headers, holds header.2 := by
  induction entries generalizing headers with
  | nil => exact each
  | cons entry entries ih =>
      rw [List.forall_mem_cons] at eachEntry
      exact ih eachEntry.2 (forall_insertEntry eachEntry.1 each)

/-- What holds of the values of all configured headers, and of those that the client adds, holds of all values that
are sent. -/
theorem Request.forall_headers_of_build (holds : Value → Prop) {settings : Settings} {url : String}
    {parameters : List (String × String)} {method : HttpMethod} {accept : Option String} {request : Request}
    {entries : List (Value × Value)}
    (built : build settings url parameters method accept = .ok request) (isMap : settings.headers = .map entries)
    (agent : holds settings.userAgent) (eachEntry : ∀ entry ∈ entries, holds entry.2)
    (accepts : ∀ formats ∈ accept, holds (.text formats)) (form : holds (.text formContentType)) :
    ∀ header ∈ request.headers, holds header.2 := by
  rcases headers_of_build built with ⟨_, headers, sent, configured, isSent, sorted⟩
  have agreed : ∀ header ∈ headers, holds header.2 := by
    have agentOnly : ∀ header ∈ [(Value.text "User-Agent", settings.userAgent)], holds header.2 := by simpa using agent
    have configuredOnly := forall_insertAll eachEntry agentOnly
    rw [configuredHeaders, isMap] at configured
    cases configured
    cases accept with
    | none => exact configuredOnly
    | some formats => exact forall_insertEntry (accepts formats rfl) configuredOnly
  rintro ⟨name, given⟩ mem
  rw [sorted, sortHeaders, List.mem_mergeSort] at mem
  have isLast := ((mem_sentHeaders isSent).2 name given).mp mem
  rcases Option.map_eq_some_iff.mp isLast with ⟨header, isHeader, rfl⟩
  have isAmong := List.mem_of_mem_filter (List.mem_of_getLast? isHeader)
  cases method with
  | get => exact agreed header isAmong
  | post => exact forall_insertEntry form agreed header isAmong

theorem Request.timeout_of_build {settings : Settings} {url : String} {parameters : List (String × String)}
    {method : HttpMethod} {accept : Option String} {request : Request}
    (built : build settings url parameters method accept = .ok request) : request.timeout = settings.timeout := by
  cases method
  all_goals
    simp only [build, bind_eq_ok, pure_eq_ok] at built
    rcases built with ⟨_, _, _, _, _, _, rfl⟩
    rfl

end Headers

namespace Settings

/-- Settings of which an interpreter can write the headers, and can wait for answers as long as they say. -/
structure Checked.AreSendable (settings : Settings.Checked) (longestWait : Nat) : Prop where
  userAgent : Host.headerFault? settings.userAgent = none
  headers : ∀ header ∈ settings.headers, Host.headerFault? header.2 = none
  timeout : Host.timeFault? longestWait (.float settings.timeout) = none

theorem Checked.AreSendable.sends_of_build {settings : Settings.Checked} {longestWait longestPause : Nat} {url : String}
    {parameters : List (String × String)} {method : HttpMethod} {accept : Option String} {request : Request}
    (areSendable : settings.AreSendable longestWait)
    (built : Request.build settings.toSettings url parameters method accept = .ok request)
    (accepts : ∀ formats ∈ accept, Host.headerFault? (.text formats) = none) :
    (Host.interpreter longestWait longestPause).sendFault? request = none := by
  refine Host.sendFault?_interpreter.mpr ⟨?_, ?_⟩
  · have form : Host.headerFault? (.text formContentType) = none := by decide +kernel
    exact Request.forall_headers_of_build (Host.headerFault? · = none) built rfl
      areSendable.userAgent areSendable.headers accepts form
  · rw [Request.timeout_of_build built]
    exact areSendable.timeout

/-- The formats of every form can be written. -/
theorem headerFault?_acceptFor (form : String) : Host.headerFault? (.text (acceptFor form)) = none := by
  unfold acceptFor
  split <;> decide +kernel

/-- Settings with three attempts, a second apart, and texts for a method and a number. -/
def patientFields : Value :=
  .map [(.text "endpoint", .text "http://h/sparql"), (.text "method", .text "get"), (.text "timeout", .text "2.5"),
    (.text "retry", .map [(.text "attempts", .int 3), (.text "delay_seconds", .int 1)])]

/-- These settings as they are accepted. -/
def patientSettings : Settings.Checked where
  endpoint := .text "http://h/sparql"
  updateEndpoint := .null
  method := "GET"
  timeout := .finite false 5629499534213120 (-51)
  userAgent := .text "sparql-client/0.1"
  headers := []
  graphParameters := false
  namedGraphs := []
  attempts := 3
  delay := .finite false 4503599627370496 (-52)

theorem areSendable_patientSettings {longestWait : Nat} (isLong : 2 ≤ longestWait) :
    patientSettings.AreSendable longestWait where
  userAgent := by decide +kernel
  headers := List.forall_mem_nil _
  timeout := by
    have whole : patientSettings.timeout.truncate? = some 2 := by decide +kernel
    have isPositive : patientSettings.timeout.isNegative = false := by decide +kernel
    have inTime : ¬longestWait < 2 := by omega
    simp [Host.timeFault?, whole, isPositive, inTime]

/-- Settings whose timeout and delay are no numbers. -/
def boundlessFields : Value :=
  .map [(.text "timeout", .float .nan), (.text "retry", .map [(.text "delay_seconds", .float .nan)])]

/-- These settings as they are accepted. -/
def boundlessSettings : Settings.Checked where
  endpoint := .null
  updateEndpoint := .null
  method := "POST"
  timeout := .nan
  userAgent := .text "sparql-client/0.1"
  headers := []
  graphParameters := false
  namedGraphs := []
  attempts := 1
  delay := .nan

end Settings

end Sparql
