import Sparql.Failure

/-!
# What passes during an exchange

Requests go out and answers come in. A wire holds the answers still to come and records what happens: the
requests, the pauses between them, the evaluations by a local store and the messages of the log.
-/

namespace Sparql

/-- The two methods of requests. -/
inductive HttpMethod where
  | get
  | post
deriving DecidableEq, Repr

/-- The name of a method. -/
def HttpMethod.name : HttpMethod → String
  | .get => "GET"
  | .post => "POST"

/-- A request: where it goes, its form data if it is posted, and its headers. -/
structure Request where
  method : HttpMethod
  url : String
  data : Option String
  timeout : Value
  headers : List (String × Value)
deriving Repr

/-- How serious a log message is. -/
inductive LogLevel where
  | info
  | warning
deriving DecidableEq, Repr

/-- Something that happens during an exchange. -/
inductive Event where
  | log (level : LogLevel) (message : String)
  | request (request : Request)
  | sleep (duration : Value)
  | evaluate (text : Value)
deriving Repr

/-- What comes back: from an endpoint, or from a store in the same program. -/
inductive Answer where
  /-- A response with a body and perhaps a content type. -/
  | response (body : List UInt8) (contentType : Option String)
  /-- A status that is no success. -/
  | status (code : Int) (reason : String) (body : List UInt8)
  /-- A status that is no success, with a body that cannot be read to its end. -/
  | cut (code : Int) (reason : String)
  /-- No connection. -/
  | unreachable (reason : String)
  /-- No response in time. -/
  | timeout
  /-- A failure of the connection, in the middle of it or of its protocol. -/
  | broken (reason : String)
  /-- A truth value of the local store. -/
  | localBoolean (value : Bool)
  /-- A table of the local store. -/
  | localRows (names : List String) (rows : List (List (String × Term)))
  /-- A graph of the local store. -/
  | localGraph (statements : List Statement)
  /-- An update of the local store, which adds some statements. -/
  | localUpdate (added : List Statement)
  /-- Text that the local store cannot parse. -/
  | localSyntaxError
  /-- Any other failure of the local store. -/
  | localFailure (reason : String)
deriving Repr

/-- The answers to come and what has happened so far, last first. -/
structure Wire where
  answers : List Answer := []
  events : List Event := []
deriving Repr, Inhabited

/-- A part of an exchange. What happened stays recorded when it fails. -/
abbrev Exchange (α : Type) := ExceptT Failure (StateM Wire) α

namespace Exchange

/-- Records what happens. -/
def emit (event : Event) : Exchange Unit := modify fun wire => { wire with events := event :: wire.events }

/-- Writes an ordinary message to the log. -/
def info (message : String) : Exchange Unit := emit (.log .info message)

/-- Writes a warning to the log. -/
def warn (message : String) : Exchange Unit := emit (.log .warning message)

/-- The next answer, if there is one more. -/
def receive : Exchange (Option Answer) := do
  let wire ← get
  match wire.answers with
  | [] => return none
  | answer :: rest =>
    set { wire with answers := rest }
    return some answer

/-- Ends the exchange. -/
def fail {α : Type} (failure : Failure) : Exchange α := throw failure

/-- Takes over an outcome. -/
def ofOutcome {α : Type} : Outcome α → Exchange α
  | .ok value => return value
  | .error failure => throw failure

end Exchange

end Sparql
