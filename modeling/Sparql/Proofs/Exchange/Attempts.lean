import Mathlib.Data.List.Basic
import Mathlib.Order.Basic
import Mathlib.Data.Nat.Basic
import Sparql.Exchange.Http
import Sparql.Proofs.Run

/-!
# Attempts

A request is sent until an answer ends the attempts or there are no more of them. Every attempt but the last
is followed by a warning and a pause, and the last one decides how the exchange ends. This file says so of a
whole run, whatever the answers are.

A machine that does not send the request ends the exchange before its first attempt, and one that does not pause for
the delay ends it after the first warning. Neither is a failure of the exchange: it goes uncaught.
-/

namespace Sparql

/-- Whether an answer ends the attempts: a response does, and so does a status that is no success. -/
def Answer.isFinal : Answer → Bool
  | .response .. | .status .. | .cut .. => true
  | _ => false

/-- The statuses that a kind of failure stands for. -/
inductive ProtocolKind.Covers : ProtocolKind → Int → Prop
  | malformedQuery : Covers .malformedQuery 400
  | client {status : Int} (above : 400 < status) (below : status < 500) : Covers .client status
  | server {status : Int} (above : 500 ≤ status) : Covers .server status
  | other {status : Int} (below : status < 400) : Covers .protocol status

theorem ProtocolKind.ofStatus_covers (status : Int) : (ofStatus status).Covers status := by
  unfold ofStatus
  split
  · subst status
    exact .malformedQuery
  · split
    · exact .client (by omega) (by omega)
    · split
      · exact .server (by omega)
      · exact .other (by omega)

namespace HttpSite

variable {host : Host} {request : Request} {delay : Value} {total retries attempts : Nat} {wire : Wire} {cause : Fault}

/-! ## One attempt -/

/-- What an answer comes to, if there is one. -/
inductive Means (request : Request) : Option Answer → Outcome Response → Prop
  | response (body : List UInt8) (contentType : Option String) :
      Means request (some (.response body contentType)) (.ok ⟨body, contentType⟩)
  | status {code : Int} (reason : String) (body : List UInt8) {kind : ProtocolKind}
      (covers : kind.Covers code) :
      Means request (some (.status code reason body))
        (.error (.protocol kind ("SPARQL HTTP " ++ toString code ++ ": " ++ reason) (some code)
          (some (String.ofList ((Text.Utf8.decodeLossy body).take 500)))))
  /-- Only the status of this answer can be read. -/
  | cut (code : Int) (reason : String) : Means request (some (.cut code reason)) (.error (.fault .brokenOff))
  | lost {answer : Option Answer} (message : String) (isLost : answer.any Answer.isFinal = false) :
      Means request answer (.error (.transport message (some request.url)))

theorem means_outcomeOf (request : Request) (answer : Option Answer) :
    Means request answer (outcomeOf request answer) := by
  rcases answer with _ | answer
  · exact .lost _ rfl
  · cases answer with
    | response body contentType => exact .response body contentType
    | status code reason body => exact .status reason body (ProtocolKind.ofStatus_covers code)
    | cut code reason => exact .cut code reason
    | _ => exact .lost _ rfl

theorem outcomeOf_of_lost (request : Request) {answer : Option Answer}
    (isLost : answer.any Answer.isFinal = false) :
    ∃ message, outcomeOf request answer = .error (.transport message (some request.url)) := by
  have means := means_outcomeOf request answer
  generalize outcomeOf request answer = outcome at means
  cases means with
  | response _ _ | status _ _ _ | cut _ _ => simp [Answer.isFinal] at isLost
  | lost message _ => exact ⟨message, rfl⟩

/-- What is wrong when an attempt gets no final answer. -/
def lossMessage (request : Request) (answer : Option Answer) : String :=
  match outcomeOf request answer with
  | .ok _ => ""
  | .error failure => failure.message?.getD ""

/-- What happens in an attempt that is not the last, in order. -/
def lostAttempt (request : Request) (delay : Value) (total attempt : Nat) (answer : Option Answer) :
    List Event :=
  [.request request, .log .warning (attemptMessage attempt total (lossMessage request answer)),
    .sleep delay]

/-- The wire after an attempt has taken its answer, with what has happened meanwhile. -/
def advanced (wire : Wire) (events : List Event) : Wire :=
  { answers := wire.answers.tail, events := events.reverse ++ wire.events }

theorem perform_emit (event : Event) (wire : Wire) :
    perform (Exchange.emit event) wire = (.ok (), { wire with events := event :: wire.events }) := rfl

theorem perform_receive (wire : Wire) :
    perform Exchange.receive wire = (.ok wire.answers.head?, { wire with answers := wire.answers.tail }) := by
  rcases wire with ⟨_ | ⟨answer, rest⟩, events⟩ <;> rfl

theorem perform_ofOutcome {α : Type} (outcome : Outcome α) (wire : Wire) :
    perform (Exchange.ofOutcome outcome) wire = (outcome, wire) := by
  cases outcome <;> rfl

theorem perform_ask (sends : host.sendFault? request = none) (wire : Wire) :
    perform (Exchange.ask host request) wire = (.ok wire.answers.head?, advanced wire [.request request]) := by
  simp only [Exchange.ask, sends]
  rw [perform_bind_ok (perform_emit _ _), perform_receive]
  rfl

theorem perform_ask_of_refused (refuses : host.sendFault? request = some cause) (wire : Wire) :
    perform (Exchange.ask host request) wire = (.error (.fault cause), wire) := by
  simp only [Exchange.ask, refuses]
  rfl

theorem perform_pause (pauses : host.pauseFault? delay = none) (wire : Wire) :
    perform (Exchange.pause host delay) wire = (.ok (), { wire with events := .sleep delay :: wire.events }) := by
  simp only [Exchange.pause, pauses]
  rfl

theorem perform_pause_of_refused (refuses : host.pauseFault? delay = some cause) (wire : Wire) :
    perform (Exchange.pause host delay) wire = (.error (.fault cause), wire) := by
  simp only [Exchange.pause, refuses]
  rfl

/-- A request that is not sent is not tried again. -/
theorem perform_sendFrom_of_refused (refuses : host.sendFault? request = some cause) :
    perform (sendFrom host request delay total retries) wire = (.error (.fault cause), wire) := by
  cases retries <;> exact perform_bind_error (perform_ask_of_refused refuses wire)

section Sent

variable (sends : host.sendFault? request = none)

include sends

theorem perform_send (wire : Wire) :
    perform (send host request) wire =
      (outcomeOf request wire.answers.head?, advanced wire [.request request]) := by
  rw [send, perform_bind_ok (perform_ask sends wire), perform_ofOutcome]

/-- An attempt with a final answer is the last. -/
theorem perform_sendFrom_of_final (isFinal : wire.answers.head?.any Answer.isFinal = true) :
    perform (sendFrom host request delay total retries) wire =
      (outcomeOf request wire.answers.head?, advanced wire [.request request]) := by
  cases retries with
  | zero => exact perform_send sends wire
  | succ retries =>
      rw [sendFrom, perform_bind_ok (perform_ask sends wire)]
      have means := means_outcomeOf request wire.answers.head?
      generalize outcomeOf request wire.answers.head? = outcome at means
      generalize wire.answers.head? = answer at means isFinal
      cases means with
      | response body contentType => exact perform_ofOutcome _ _
      | status reason body covers => exact perform_ofOutcome _ _
      | cut code reason => exact perform_ofOutcome _ _
      | lost message isLost => simp [isLost] at isFinal

/-- An attempt without a final answer is followed by a warning and a pause, if there is another one left. -/
theorem perform_sendFrom_succ (isLost : wire.answers.head?.any Answer.isFinal = false) :
    perform (sendFrom host request delay total (retries + 1)) wire =
      perform (do
        Exchange.pause host delay
        sendFrom host request delay total retries)
        (advanced wire [.request request, .log .warning
          (attemptMessage (total - retries - 1) total (lossMessage request wire.answers.head?))]) := by
  rw [sendFrom, perform_bind_ok (perform_ask sends wire)]
  rcases outcomeOf_of_lost request isLost with ⟨message, isOutcome⟩
  have isMessage : lossMessage request wire.answers.head? = message := by
    simp only [lossMessage, isOutcome, Failure.message?, Option.getD_some]
  simp only [isOutcome]
  rw [Exchange.warn, perform_bind_ok (perform_emit _ _), ← isMessage]
  rfl

/-- An attempt without a final answer is followed by the next one, if there is one left. -/
theorem perform_sendFrom_of_lost (pauses : host.pauseFault? delay = none)
    (isLost : wire.answers.head?.any Answer.isFinal = false) :
    perform (sendFrom host request delay total (retries + 1)) wire =
      perform (sendFrom host request delay total retries)
        (advanced wire (lostAttempt request delay total (total - retries - 1) wire.answers.head?)) := by
  rw [perform_sendFrom_succ sends isLost, perform_bind_ok (perform_pause pauses _)]
  rfl

/-- Without a pause there is no other attempt. -/
theorem perform_sendFrom_of_unpaused (refuses : host.pauseFault? delay = some cause)
    (isLost : wire.answers.head?.any Answer.isFinal = false) :
    perform (sendFrom host request delay total (retries + 1)) wire =
      (.error (.fault cause), advanced wire [.request request, .log .warning
        (attemptMessage (total - retries - 1) total (lossMessage request wire.answers.head?))]) := by
  rw [perform_sendFrom_succ sends isLost, perform_bind_error (perform_pause_of_refused refuses _)]

end Sent

/-! ## At least one attempt -/

/-- A request has been sent at least once. An answer to it decides how that ends, or the machine does not pause. -/
structure Tried (host : Host) (request : Request) (delay : Value) (wire : Wire) (outcome : Outcome Response)
    (after : Wire) : Prop where
  ends : (∃ answer, outcome = outcomeOf request answer) ∨
    ∃ cause, host.pauseFault? delay = some cause ∧ outcome = .error (.fault cause)
  requested : ∃ events, after.events = events ++ wire.events ∧ .request request ∈ events

/-- What has happened before and what happens later does not change that. -/
theorem Tried.between {before middle after : Wire} {outcome : Outcome Response} {earlier later : List Event}
    (tried : Tried host request delay middle outcome after) (isEarlier : middle.events = earlier ++ before.events)
    {final : Wire} (isLater : final.events = later ++ after.events) :
    Tried host request delay before outcome final := by
  rcases tried.requested with ⟨events, recorded, mem⟩
  refine ⟨tried.ends, later ++ events ++ earlier, ?_, by simp [mem]⟩
  rw [isLater, recorded, isEarlier, List.append_assoc, List.append_assoc]

theorem tried_sendFrom (sends : host.sendFault? request = none) :
    Tried host request delay wire (perform (sendFrom host request delay total retries) wire).1
      (perform (sendFrom host request delay total retries) wire).2 := by
  induction retries generalizing wire with
  | zero =>
      rw [sendFrom, perform_send sends]
      exact ⟨.inl ⟨_, rfl⟩, [.request request], rfl, .head _⟩
  | succ retries ih =>
      rcases isFinal : wire.answers.head?.any Answer.isFinal with _ | _
      · rcases isPause : host.pauseFault? delay with _ | cause
        · rw [perform_sendFrom_of_lost sends isPause isFinal]
          exact ih.between rfl (List.nil_append _).symm
        · rw [perform_sendFrom_of_unpaused sends isPause isFinal]
          exact ⟨.inr ⟨cause, isPause, rfl⟩, _, rfl, .tail _ (.head _)⟩
      · rw [perform_sendFrom_of_final sends isFinal]
        exact ⟨.inl ⟨_, rfl⟩, [.request request], rfl, .head _⟩

/-! ## All attempts -/

/-- What happens in some attempts, of which none is the last, in order. Some others have been made before. -/
def lostAttempts (request : Request) (delay : Value) (total made : Nat) (answers : List Answer)
    (count : Nat) : List Event :=
  (List.range count).flatMap fun index =>
    lostAttempt request delay total (made + index + 1) answers[index]?

theorem lostAttempts_succ (made : Nat) (answers : List Answer) (count : Nat) :
    lostAttempts request delay total made answers (count + 1) =
      lostAttempt request delay total (made + 1) answers.head? ++
        lostAttempts request delay total (made + 1) answers.tail count := by
  have shifted : ∀ index, made + (index + 1) + 1 = made + 1 + index + 1 := by omega
  simp only [lostAttempts, List.range_succ_eq_map, List.flatMap_cons, List.flatMap_map, Nat.succ_eq_add_one,
    Nat.add_zero, List.head?_eq_getElem?, List.getElem?_tail, shifted]

/-- The attempts up to the last, which has a final answer or is the last that may be made. Between them the machine
must pause. -/
theorem perform_sendFrom (sends : host.sendFault? request = none) {last made : Nat}
    (pauses : last = 0 ∨ host.pauseFault? delay = none) (isTotal : total = made + retries + 1)
    (within : last ≤ retries) (areLost : ∀ index < last, wire.answers[index]?.any Answer.isFinal = false)
    (ends : wire.answers[last]?.any Answer.isFinal = true ∨ last = retries) :
    perform (sendFrom host request delay total retries) wire =
      (outcomeOf request wire.answers[last]?,
        { answers := wire.answers.drop (last + 1)
          events := (lostAttempts request delay total made wire.answers last ++ [Event.request request]).reverse
            ++ wire.events }) := by
  induction last generalizing retries made wire with
  | zero =>
      have one : perform (sendFrom host request delay total retries) wire =
          (outcomeOf request wire.answers.head?, advanced wire [.request request]) := by
        rcases ends with isFinal | rfl
        · exact perform_sendFrom_of_final sends (by simpa [List.head?_eq_getElem?] using isFinal)
        · exact perform_send sends wire
      rw [one, List.head?_eq_getElem?]
      simp [advanced, lostAttempts]
  | succ last ih =>
      rcases Nat.exists_eq_add_of_lt within with ⟨others, rfl⟩
      have pausing : host.pauseFault? delay = none := pauses.resolve_left (Nat.succ_ne_zero last)
      have first := areLost 0 (Nat.succ_pos last)
      rw [perform_sendFrom_of_lost sends pausing (by simpa [List.head?_eq_getElem?] using first)]
      have number : total - (last + others) - 1 = made + 1 := by omega
      have isRest : total = (made + 1) + (last + others) + 1 := by omega
      rw [number, ih (.inr pausing) isRest (by omega)]
      · simp only [advanced, lostAttempts_succ, List.getElem?_tail, List.drop_tail, List.reverse_append,
          List.append_assoc]
      · intro index isLess
        simpa [advanced] using areLost (index + 1) (by omega)
      · simp only [advanced, List.getElem?_tail]
        exact ends.imp id (by omega)

/-- How sending a request ends on a wire. -/
structure Attempted (host : Host) (request : Request) (attempts : Int) (delay : Value) (wire : Wire)
    (outcome : Outcome Response) (after : Wire) : Prop where
  /-- Without attempts nothing happens. -/
  never : attempts ≤ 0 →
    outcome = .error (.transport "No request attempts configured" (some request.url)) ∧ after = wire
  /-- The first final answer ends the attempts if there are enough of them. -/
  answered : host.sendFault? request = none →
    ∀ before : Nat, wire.answers.findIdx? Answer.isFinal = some before → before < attempts →
    before = 0 ∨ host.pauseFault? delay = none →
    Means request wire.answers[before]? outcome ∧ outcome = outcomeOf request wire.answers[before]? ∧
    after.answers = wire.answers.drop (before + 1) ∧
    after.events = (lostAttempts request delay attempts.toNat 0 wire.answers before
      ++ [Event.request request]).reverse ++ wire.events
  /-- Otherwise all attempts are made and the last one gets no final answer. -/
  lost : host.sendFault? request = none → 0 < attempts →
    (∀ before : Nat, wire.answers.findIdx? Answer.isFinal = some before → attempts ≤ before) →
    attempts = 1 ∨ host.pauseFault? delay = none →
    (∃ message, outcome = .error (.transport message (some request.url))) ∧
    outcome = outcomeOf request wire.answers[attempts.toNat - 1]? ∧
    after.answers = wire.answers.drop attempts.toNat ∧
    after.events = (lostAttempts request delay attempts.toNat 0 wire.answers (attempts.toNat - 1)
      ++ [Event.request request]).reverse ++ wire.events
  /-- A request that the machine does not send is not tried again. -/
  refused : 0 < attempts → ∀ cause, host.sendFault? request = some cause →
    outcome = .error (.fault cause) ∧ after = wire
  /-- Where the machine does not pause, nothing follows the first warning. -/
  unpaused : host.sendFault? request = none → 1 < attempts →
    wire.answers.head?.any Answer.isFinal = false → ∀ cause, host.pauseFault? delay = some cause →
    outcome = .error (.fault cause) ∧ after.answers = wire.answers.tail ∧
    after.events = [.log .warning (attemptMessage 1 attempts.toNat (lossMessage request wire.answers.head?)),
      .request request] ++ wire.events

theorem any_eq_false_of_findIdx? {answers : List Answer} {index : Nat}
    (none : ∀ before : Nat, answers.findIdx? Answer.isFinal = some before → index < before) :
    answers[index]?.any Answer.isFinal = false := by
  rcases found : answers[index]? with _ | answer
  · rfl
  · by_contra isFinal
    rcases isFirst : answers.findIdx? Answer.isFinal with _ | before
    · rw [List.findIdx?_eq_none_iff] at isFirst
      exact isFinal (isFirst answer (List.mem_of_getElem? found))
    · have later := none before isFirst
      rcases List.findIdx?_eq_some_iff_getElem.mp isFirst with ⟨inRange, _, earlier⟩
      rcases List.getElem?_eq_some_iff.mp found with ⟨_, rfl⟩
      exact earlier index later (by simpa using isFinal)

variable {site : HttpSite}

section Configured

variable {count : Int} (isConfigured : site.settings.attempts = .int count)

include isConfigured

theorem perform_sendWithRetry_of_none (noAttempts : count.toNat = 0) :
    perform (site.sendWithRetry request) wire =
      (.error (.transport "No request attempts configured" (some request.url)), wire) := by
  rw [sendWithRetry, isConfigured]
  refine (perform_bind_ok (perform_ofOutcome (.ok count) wire)).trans ?_
  rw [noAttempts]
  rfl

theorem perform_sendWithRetry_of_some (isCount : count.toNat = retries + 1) :
    perform (site.sendWithRetry request) wire =
      perform (sendFrom site.host request site.settings.delay (retries + 1) retries) wire := by
  rw [sendWithRetry, isConfigured]
  refine (perform_bind_ok (perform_ofOutcome (.ok count) wire)).trans ?_
  rw [isCount]

/-- Where an attempt is allowed, one is made unless the machine does not send the request. -/
theorem tried_sendWithRetry (positive : 0 < count) (sends : site.host.sendFault? request = none) :
    Tried site.host request site.settings.delay wire (perform (site.sendWithRetry request) wire).1
      (perform (site.sendWithRetry request) wire).2 := by
  have isCount : count.toNat = (count.toNat - 1) + 1 := by omega
  rw [perform_sendWithRetry_of_some isConfigured isCount]
  exact tried_sendFrom sends

theorem perform_sendWithRetry_of_refused (positive : 0 < count) (refuses : site.host.sendFault? request = some cause) :
    perform (site.sendWithRetry request) wire = (.error (.fault cause), wire) := by
  have isCount : count.toNat = (count.toNat - 1) + 1 := by omega
  rw [perform_sendWithRetry_of_some isConfigured isCount]
  exact perform_sendFrom_of_refused refuses

/-- Sending a request as often as the settings allow. -/
theorem attempted_sendWithRetry (request : Request) (wire : Wire) :
    Attempted site.host request count site.settings.delay wire (perform (site.sendWithRetry request) wire).1
      (perform (site.sendWithRetry request) wire).2 := by
  rcases isCount : count.toNat with _ | retries
  · rw [perform_sendWithRetry_of_none isConfigured isCount]
    exact ⟨fun _ => ⟨rfl, rfl⟩, fun _ before _ within _ => by omega, fun _ some_ _ _ => by omega,
      fun some_ _ _ => by omega, fun _ some_ _ _ _ => by omega⟩
  rw [perform_sendWithRetry_of_some isConfigured isCount]
  have isTotal : retries + 1 = 0 + retries + 1 := by omega
  -- A final answer in time, none in time, a request that is not sent, a pause that is not made.
  refine ⟨fun never => by omega, fun sends before isFirst within pauses => ?_, fun sends _ notAnswered pauses => ?_,
    fun _ cause refuses => ?_, fun sends several isLost cause refuses => ?_⟩
  · rcases List.findIdx?_eq_some_iff_getElem.mp isFirst with ⟨inRange, isFinal, _⟩
    have areLost : ∀ index < before, wire.answers[index]?.any Answer.isFinal = false :=
      fun index isLess => any_eq_false_of_findIdx? fun other isOther => by
        cases isFirst.symm.trans isOther
        exact isLess
    have enough : before ≤ retries := by omega
    have run := perform_sendFrom sends pauses isTotal enough areLost (.inl (by simpa [inRange] using isFinal))
    simp only [run, isCount, and_self, and_true]
    exact means_outcomeOf _ _
  · have areLost : ∀ index ≤ retries, wire.answers[index]?.any Answer.isFinal = false :=
      fun index isLess => any_eq_false_of_findIdx? fun before isFirst => by
        have := notAnswered before isFirst
        omega
    have pausing : retries = 0 ∨ site.host.pauseFault? site.settings.delay = none := pauses.imp (by omega) id
    have run := perform_sendFrom sends pausing isTotal le_rfl (fun index isLess => areLost index isLess.le) (.inr rfl)
    simp only [run, isCount, Nat.add_sub_cancel, and_self, and_true]
    exact outcomeOf_of_lost request (areLost retries le_rfl)
  · exact Prod.ext_iff.mp (perform_sendFrom_of_refused refuses)
  · rcases Nat.exists_eq_add_of_lt (show 0 < retries by omega) with ⟨others, rfl⟩
    have number : 0 + others + 1 + 1 - (0 + others) - 1 = 1 := by omega
    rw [perform_sendFrom_of_unpaused sends refuses isLost, number, isCount]
    exact ⟨rfl, rfl, rfl⟩

end Configured

/-! ## Exchanges -/

/-- The wire with one more ordinary message in the log. -/
def logged (wire : Wire) (message : String) : Wire :=
  { wire with events := .log .info message :: wire.events }

/-- The wire after a query was answered, which is logged, or was not. -/
def loggedAnswer (form : String) (outcome : Outcome Response) (after : Wire) : Wire :=
  match outcome with
  | .error _ => after
  | .ok response => logged after ("SPARQL " ++ form ++ " answered " ++ response.contentType.getD "None"
      ++ " (" ++ toString response.body.length ++ " bytes)")

theorem perform_info_bind {α : Type} (message : String) (rest : Unit → Exchange α) (wire : Wire) :
    perform (Exchange.info message >>= rest) wire = perform (rest ()) (logged wire message) :=
  perform_bind_ok (perform_emit _ _)

theorem perform_query {text form : String} {graphs : List String} {outcome : Outcome Response}
    {after : Wire} (isRequest : site.queryRequest text form graphs = .ok request)
    (isSent : perform (site.sendWithRetry request) (logged wire ("SPARQL " ++ form ++ " → "
      ++ site.endpoint ++ " (" ++ byteCount text ++ " bytes)")) = (outcome, after)) :
    perform (site.query text form graphs) wire = (outcome, loggedAnswer form outcome after) := by
  rw [query, isRequest, perform_bind_ok (perform_ofOutcome _ _), perform_info_bind]
  cases outcome with
  | error failure => rw [perform_bind_error isSent]; rfl
  | ok response => rw [perform_bind_ok isSent, perform_info_bind]; rfl

theorem perform_update {operation : Value} {text : String} {outcome : Outcome Response} {after : Wire}
    (isRequest : site.updateRequest operation = .ok request) (isText : updateText operation = .ok text)
    (isSent : perform (site.sendWithRetry request) (logged wire ("SPARQL update → "
      ++ site.updateEndpoint.toText ++ " (" ++ byteCount text ++ " bytes)")) = (outcome, after)) :
    perform (site.update operation) wire = (outcome.map fun _ => (), after) := by
  rw [update, isRequest, perform_bind_ok (perform_ofOutcome _ _), isText,
    perform_bind_ok (perform_ofOutcome _ _), perform_info_bind]
  cases outcome with
  | error failure => rw [perform_bind_error isSent]; rfl
  | ok response => rw [perform_bind_ok isSent]; rfl

theorem events_logged (wire : Wire) (message : String) :
    (logged wire message).events = [.log .info message] ++ wire.events := rfl

theorem events_loggedAnswer (form : String) (outcome : Outcome Response) (after : Wire) :
    ∃ later, (loggedAnswer form outcome after).events = later ++ after.events := by
  cases outcome with
  | error failure => exact ⟨[], rfl⟩
  | ok response => exact ⟨_, events_logged _ _⟩

section Tried

variable {count : Int} (isConfigured : site.settings.attempts = .int count) (positive : 0 < count)

include isConfigured positive

theorem tried_query {text form : String} {graphs : List String}
    (isRequest : site.queryRequest text form graphs = .ok request) (sends : site.host.sendFault? request = none) :
    Tried site.host request site.settings.delay wire (perform (site.query text form graphs) wire).1
      (perform (site.query text form graphs) wire).2 := by
  rw [perform_query isRequest rfl]
  rcases events_loggedAnswer form _ _ with ⟨later, isLater⟩
  exact (tried_sendWithRetry isConfigured positive sends).between (events_logged _ _) isLater

theorem tried_update {operation : Value} {text : String} (isRequest : site.updateRequest operation = .ok request)
    (isText : updateText operation = .ok text) (sends : site.host.sendFault? request = none) :
    ∃ outcome, Tried site.host request site.settings.delay wire outcome (perform (site.update operation) wire).2 ∧
      (perform (site.update operation) wire).1 = outcome.map fun _ => () := by
  rw [perform_update isRequest isText rfl]
  exact ⟨_, (tried_sendWithRetry isConfigured positive sends).between (events_logged _ _) (List.nil_append _).symm, rfl⟩

/-- Of a request that the machine does not send there is only the message that it goes out. -/
theorem query_of_refused {text form : String} {graphs : List String}
    (isRequest : site.queryRequest text form graphs = .ok request) (refuses : site.host.sendFault? request = some cause) :
    perform (site.query text form graphs) wire =
      (.error (.fault cause),
        logged wire ("SPARQL " ++ form ++ " → " ++ site.endpoint ++ " (" ++ byteCount text ++ " bytes)")) :=
  perform_query isRequest (perform_sendWithRetry_of_refused isConfigured positive refuses)

theorem update_of_refused {operation : Value} {text : String} (isRequest : site.updateRequest operation = .ok request)
    (isText : updateText operation = .ok text) (refuses : site.host.sendFault? request = some cause) :
    perform (site.update operation) wire =
      (.error (.fault cause),
        logged wire ("SPARQL update → " ++ site.updateEndpoint.toText ++ " (" ++ byteCount text ++ " bytes)")) :=
  perform_update isRequest isText (perform_sendWithRetry_of_refused isConfigured positive refuses)

end Tried

/-- An exchange over HTTP sends its request as often as the settings allow and ends as that does. One whose
request cannot be made sends nothing. -/
theorem attempted_of_exchange (host : Host) (endpoint : String) (updateEndpoint : Value) (settings : Settings)
    (attempts : Int) (wire : Wire) :
    let site : HttpSite := ⟨endpoint, updateEndpoint, { settings with attempts := .int attempts }, host⟩
    (∀ text form graphs,
      match site.queryRequest text form graphs with
      | .error failure => perform (site.query text form graphs) wire = (.error failure, wire)
      | .ok request => ∃ outcome after,
        Attempted host request attempts settings.delay
          (logged wire ("SPARQL " ++ form ++ " → " ++ endpoint ++ " (" ++ byteCount text ++ " bytes)"))
          outcome after ∧
        perform (site.query text form graphs) wire = (outcome, loggedAnswer form outcome after)) ∧
    (∀ operation,
      match site.updateRequest operation, updateText operation with
      | .error failure, _ | .ok _, .error failure =>
        perform (site.update operation) wire = (.error failure, wire)
      | .ok request, .ok text => ∃ outcome after,
        Attempted host request attempts settings.delay
          (logged wire ("SPARQL update → " ++ updateEndpoint.toText ++ " (" ++ byteCount text ++ " bytes)"))
          outcome after ∧
        perform (site.update operation) wire = (outcome.map fun _ => (), after)) := by
  intro site
  have isConfigured : site.settings.attempts = .int attempts := rfl
  constructor
  · intro text form graphs
    split
    · next failure isRequest =>
        rw [query, isRequest]
        rfl
    · next request isRequest =>
        exact ⟨_, _, attempted_sendWithRetry isConfigured request _, perform_query isRequest rfl⟩
  · intro operation
    split
    · next failure isRequest =>
        rw [update, isRequest]
        rfl
    · next request failure isRequest isText =>
        rw [update, isRequest, isText]
        rfl
    · next request text isRequest isText =>
        exact ⟨_, _, attempted_sendWithRetry isConfigured request _, perform_update isRequest isText rfl⟩

/-- A site with a delay below zero, on a machine that neither pauses nor waits for an answer for such a time, or for
none that is a number. -/
def hastySite (endpoint : String) (timeout : Value) (attempts : Int) : HttpSite where
  endpoint := endpoint
  updateEndpoint := .text endpoint
  settings := { timeout, attempts := .int attempts, delay := .int (-1) }
  host := { sendFault? := fun request => Host.timeoutFault? 60 request.timeout, pauseFault? := Host.timeFault? 60 }

/-- What a query at such a site comes to, and the wire after it. -/
def askHastily (endpoint : String) (timeout : Value) (attempts : Int) (answers : List Answer) :
    Outcome Response × Wire :=
  perform ((hastySite endpoint timeout attempts).query "ASK \x7b\x7d" "ask" []) { answers }

/-- Four ways to end in no failure of an exchange: the second of two attempts is not made, since there is no pause
before it; the only one is not made, since the timeout is no time to wait; the body of a status breaks off; the address
makes no request, though no attempt is allowed either. -/
theorem faults_of_hastySites :
    (∃ message warning request,
      askHastily "http://h/sparql" (.int 30) 2 [.timeout, .response [] none] = (.error (.fault .badValue),
        ⟨[.response [] none], [.log .warning warning, .request request, .log .info message]⟩)) ∧
    (∃ message,
      askHastily "http://h/sparql" (.float .nan) 1 [.response [] none] = (.error (.fault .badValue),
        ⟨[.response [] none], [.log .info message]⟩)) ∧
    (∃ message request,
      askHastily "http://h/sparql" (.int 30) 1 [.cut 503 "Unavailable"] = (.error (.fault .brokenOff),
        ⟨[], [.request request, .log .info message]⟩)) ∧
    askHastily "nowhere" (.int 30) 0 [] = (.error (.fault .badValue), ⟨[], []⟩) :=
  ⟨⟨_, _, _, rfl⟩, ⟨_, rfl⟩, ⟨_, _, rfl⟩, rfl⟩

end HttpSite

end Sparql
