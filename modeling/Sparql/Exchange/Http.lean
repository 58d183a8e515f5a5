import Sparql.Exchange.Host
import Sparql.Exchange.Prologue
import Sparql.Exchange.Request
import Sparql.Failure
import Sparql.Results.Basic

/-!
# Exchanges over HTTP

A request is sent and answered, and sent again when no answer comes, up to a number of attempts. A status,
good or bad, is an answer and ends the attempts. One other than success stands for a failure; if its body breaks
off, that goes uncaught, and so does what the machine refuses.
-/

namespace Sparql

/-! ## Status codes -/

/-- How a status that is no success is classified. -/
def ProtocolKind.ofStatus (status : Int) : ProtocolKind :=
  if status = 400 then .malformedQuery
  else if 400 ≤ status ∧ status < 500 then .client
  else if 500 ≤ status then .server
  else .protocol

/-- The failure of an answer with a status, a reason and a body. -/
def Failure.ofStatus (status : Int) (reason body : String) : Failure :=
  .protocol (.ofStatus status) ("SPARQL HTTP " ++ toString status ++ ": " ++ reason) (some status) (some body)

/-- The kinds that a kind is a special case of, itself first. -/
def ProtocolKind.generality : ProtocolKind → List ProtocolKind
  | .protocol => [.protocol]
  | .client => [.client, .protocol]
  | .malformedQuery => [.malformedQuery, .client, .protocol]
  | .server => [.server, .protocol]

/-! ## Exchanges -/

/-- What a query can be answered with. -/
structure Response where
  body : List UInt8
  contentType : Option String
deriving Repr, Inhabited

/-- The formats of tables and truth values, in the order of preference. -/
def resultsAccept : String := String.intercalate ", " [
  "application/sparql-results+json",
  "application/sparql-results+xml;q=0.8",
  "text/boolean;q=0.7",
  "text/tab-separated-values;q=0.6",
  "text/csv;q=0.4"]

/-- The formats of graphs, in the order of preference. -/
def graphAccept : String := String.intercalate ", " [
  "application/n-triples",
  "text/turtle;q=0.9",
  "application/rdf+xml;q=0.8",
  "application/ld+json;q=0.7",
  "text/n3;q=0.6"]

/-- The formats asked for by the name of a form. -/
def acceptFor (form : String) : String :=
  if form = "construct" ∨ form = "describe" then graphAccept else resultsAccept

/-- An endpoint for queries and one for updates. -/
structure HttpSite where
  endpoint : String
  /-- The endpoint of updates, as it is given. -/
  updateEndpoint : Value
  settings : Settings
  /-- What sends its requests and pauses between them. -/
  host : Host := {}
deriving Repr

namespace HttpSite

/-- The site of an endpoint; updates go there too unless they have an endpoint of their own. -/
def ofEndpoint (endpoint : String) (settings : Settings) (host : Host := {}) : HttpSite :=
  ⟨endpoint, if settings.updateEndpoint.truth then settings.updateEndpoint else .text endpoint, settings, host⟩

/-- Whether queries are sent by GET. -/
def usesGet (site : HttpSite) : Bool :=
  match site.settings.method with
  | .text "GET" => true
  | _ => false

/-- The request for a query. Graphs are named in it only if the settings say so. -/
def queryRequest (site : HttpSite) (text form : String) (graphs : List String) : Outcome Request :=
  let graphParameters :=
    if site.settings.graphParameters.truth then
      graphs.map (("default-graph-uri", ·)) ++ site.settings.namedGraphs.map fun g => ("named-graph-uri", g.toText)
    else []
  Request.build site.settings site.endpoint (("query", text) :: graphParameters)
    (if site.usesGet then .get else .post) (some (acceptFor form))

/-- The request for an update. -/
def updateRequest (site : HttpSite) (operation : Value) : Outcome Request := do
  let text ← operation.spell
  let address ← site.updateEndpoint.spell
  Request.build site.settings address [("update", text)] .post none

/-- The text of what is given as an update. -/
def updateText (operation : Value) : Outcome String :=
  match operation.text? with
  | some text => .ok text
  | none => misuse .noSuchOperation

/-- What an answer to a request comes to. -/
def outcomeOf (request : Request) : Option Answer → Outcome Response
  | some (.response body contentType) => .ok ⟨body, contentType⟩
  | some (.status code reason body) =>
    .error (.ofStatus code reason (String.ofList ((Text.Utf8.decodeLossy body).take 500)))
  | some (.cut ..) => misuse .brokenOff
  | some (.unreachable reason) =>
    .error (.transport ("SPARQL connection error: " ++ reason) (some request.url))
  | some .timeout =>
    .error (.transport ("SPARQL timeout after " ++ request.timeout.toText ++ "s") (some request.url))
  | some (.broken reason) =>
    .error (.transport ("SPARQL transport error: " ++ reason) (some request.url))
  | some _ => .error (.transport "SPARQL transport error: " (some request.url))
  | none => .error (.transport "SPARQL connection error: no more answers" (some request.url))

/-- Sends a request once. -/
def send (host : Host) (request : Request) : Exchange Response := do
  let answer ← Exchange.ask host request
  Exchange.ofOutcome (outcomeOf request answer)

/-- The message between two attempts. -/
def attemptMessage (attempt total : Nat) (reason : String) : String :=
  "Attempt " ++ toString attempt ++ "/" ++ toString total ++ " failed: " ++ reason

/-- Sends a request until it is answered, with `retries` attempts left after this one. -/
def sendFrom (host : Host) (request : Request) (delay : Value) (total : Nat) : Nat → Exchange Response
  | 0 => send host request
  | retries + 1 => do
    let answer ← Exchange.ask host request
    match outcomeOf request answer with
    | .error (.transport message _) =>
      Exchange.warn (attemptMessage (total - retries - 1) total message)
      Exchange.pause host delay
      sendFrom host request delay total retries
    | outcome => Exchange.ofOutcome outcome

/-- The number of attempts that a setting stands for. -/
def attemptsOf : Value → Outcome Int
  | .int value => .ok value
  | .bool value => .ok (if value then 1 else 0)
  | _ => misuse .wrongKind

/-- Sends a request as often as the settings allow. -/
def sendWithRetry (site : HttpSite) (request : Request) : Exchange Response := do
  let attempts ← Exchange.ofOutcome (attemptsOf site.settings.attempts)
  match attempts.toNat with
  | 0 => Exchange.fail (.transport "No request attempts configured" (some request.url))
  | retries + 1 => sendFrom site.host request site.settings.delay (retries + 1) retries

/-- The number of bytes of a text. -/
def byteCount (text : String) : String := toString text.utf8ByteSize

/-- Sends a query. -/
def query (site : HttpSite) (text form : String) (graphs : List String) : Exchange Response := do
  let request ← Exchange.ofOutcome (site.queryRequest text form graphs)
  Exchange.info ("SPARQL " ++ form ++ " → " ++ site.endpoint ++ " (" ++ byteCount text ++ " bytes)")
  let response ← site.sendWithRetry request
  Exchange.info ("SPARQL " ++ form ++ " answered " ++ response.contentType.getD "None" ++ " ("
    ++ toString response.body.length ++ " bytes)")
  return response

/-- Sends an update. Any success will do; the body is not looked at. -/
def update (site : HttpSite) (operation : Value) : Exchange Unit := do
  let request ← Exchange.ofOutcome (site.updateRequest operation)
  let text ← Exchange.ofOutcome (updateText operation)
  Exchange.info ("SPARQL update → " ++ site.updateEndpoint.toText ++ " (" ++ byteCount text ++ " bytes)")
  let _ ← site.sendWithRetry request

end HttpSite

end Sparql
