import Sparql.Exchange.Local
import Sparql.Results.Decode

/-!
# Clients

A client sends texts to an endpoint or to a local store, reads what comes back and counts how each exchange
ended. Only failures of the library's own making are counted: misuse never becomes an exchange.
-/

namespace Sparql

/-!
## Exchange summary

How many exchanges of each form went well and how many failed, in the order in which the forms first
occurred.
-/

/-- The exchanges of one form. -/
structure FormCount where
  name : String
  ok : Nat := 0
  failed : Nat := 0
deriving DecidableEq, Repr

/-- The exchanges of a client, by form. -/
structure ExchangeSummary where
  forms : List FormCount := []
deriving DecidableEq, Repr

namespace ExchangeSummary

/-- The count of a form, which is zero before its first exchange. -/
def count (summary : ExchangeSummary) (name : String) : FormCount :=
  (summary.forms.find? (·.name = name)).getD { name }

/-- The forms with a count changed, or added at the end. -/
def updateForms (name : String) (change : FormCount → FormCount) : List FormCount → List FormCount
  | [] => [change { name }]
  | form :: rest =>
    if form.name = name then change form :: rest else form :: updateForms name change rest

/-- The summary with a form listed. -/
def touch (summary : ExchangeSummary) (name : String) : ExchangeSummary :=
  ⟨updateForms name id summary.forms⟩

/-- The summary after one more exchange of a form. -/
def record (summary : ExchangeSummary) (name : String) (ok : Bool) : ExchangeSummary :=
  ⟨updateForms name
    (fun form => if ok then { form with ok := form.ok + 1 } else { form with failed := form.failed + 1 })
    summary.forms⟩

/-- The line of a form. Failures are left out if there are none. -/
def line (form : FormCount) : String :=
  form.name ++ ": " ++ toString form.ok ++ " ok"
    ++ (if form.failed = 0 then "" else "  " ++ toString form.failed ++ " failed")

/-- The whole report. -/
def report (summary : ExchangeSummary) : String :=
  let rule := String.ofList (List.replicate 40 '=')
  String.intercalate "\n" (["", "SPARQL Exchange Summary", rule] ++ summary.forms.map line ++ [rule])

end ExchangeSummary

/-! ## Clients -/

/-- Where a client's texts go. -/
inductive Destination where
  | http (site : HttpSite)
  | local (statements : List Statement)
deriving Repr

/-- A client. -/
structure Client where
  destination : Destination
  summary : ExchangeSummary := {}
deriving Repr

namespace Client

/-- The client of an endpoint, or of the one in the settings if none is given. A graph is a local store. -/
def create (endpoint : Value) (settings : Settings) (host : Host := {}) : Outcome Client :=
  let target := match endpoint with
    | .null => settings.endpoint
    | given => given
  match target with
  | .null => .error (.configuration "No SPARQL endpoint configured")
  | .graph statements => .ok { destination := .local statements }
  | given => given.spell.map fun address => { destination := .http (.ofEndpoint address settings host) }

/-- The endpoint of queries. -/
def endpoint (client : Client) : String :=
  match client.destination with
  | .http site => site.endpoint
  | .local _ => "local"

/-- The endpoint of updates, of which a local store has none. -/
def updateEndpoint? (client : Client) : Option Value :=
  match client.destination with
  | .http site => some site.updateEndpoint
  | .local _ => none

/-- A client as messages show it. -/
def display (client : Client) : String := "<Client(" ++ client.endpoint ++ ")>"

/-- The client after an exchange of a form. -/
def record (client : Client) (form : String) (ok : Bool) : Client :=
  { client with summary := client.summary.record form ok }

/-- Sends a query and reads the answer. -/
def exchangeQuery (client : Client) (text form : String) (graphs : List String) : Exchange QueryResult := do
  let response ← match client.destination with
    | .http site => site.query text form graphs
    | .local _ => LocalStore.query text form
  let result ← Exchange.ofOutcome (Results.decode response.body response.contentType)
  Exchange.info (Results.decodedMessage response.contentType result)
  Exchange.ofOutcome (Results.checkShape form response.contentType result)

/-- Sends an update. What comes back is where the next exchange goes. -/
def exchangeUpdate (client : Client) (operation : Value) : Exchange Destination := do
  match client.destination with
  | .http site =>
    site.update operation
    return .http site
  | .local statements => return .local (← LocalStore.update statements operation)

/-- The client and the wire after an exchange, which is counted unless it failed by misuse. -/
def settle {α : Type} (client : Client) (form : String) (outcome : Outcome α) (wire : Wire) : Client × Wire :=
  match outcome with
  | .ok _ => (client.record form true, wire)
  | .error failure =>
    match failure.message? with
    | none => (client, wire)
    | some message =>
      let warning := Event.log .warning ("SPARQL " ++ form ++ " failed: " ++ message)
      (client.record form false, { wire with events := warning :: wire.events })

/-- The outcome of a query, with the client and the wire after it. -/
def query (client : Client) (text form : String) (graphs : List String) (wire : Wire) :
    Outcome QueryResult × Client × Wire :=
  let (outcome, wire) := (client.exchangeQuery text form graphs).run wire
  (outcome, client.settle form outcome wire)

/-- The outcome of an update, with the client and the wire after it. -/
def update (client : Client) (operation : Value) (wire : Wire) : Outcome Unit × Client × Wire :=
  let (outcome, wire) := (client.exchangeUpdate operation).run wire
  match outcome with
  | .ok destination => (.ok (), { client with destination }.settle "update" outcome wire)
  | .error failure => (.error failure, client.settle "update" outcome wire)

end Client

end Sparql
