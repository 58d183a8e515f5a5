import Sparql.Failure
import Sparql.Value.Equality

/-!
# Settings of a client

How a client reaches its endpoint. Settings are taken as they are given; the exchange finds out whether it
can use them. `Settings.Checked` holds settings that passed every check of a configuration file.
-/

namespace Sparql

/-- Settings as they are given. -/
structure Settings where
  endpoint : Value := .null
  updateEndpoint : Value := .null
  method : Value := .text "POST"
  timeout : Value := .int 30
  userAgent : Value := .text "sparql-client/0.1"
  headers : Value := .map []
  graphParameters : Value := .bool false
  namedGraphs : List Value := []
  attempts : Value := .int 1
  delay : Value := .int 0
deriving Repr, Inhabited

/-- Settings that passed every check. -/
structure Settings.Checked where
  endpoint : Value
  updateEndpoint : Value
  method : String
  timeout : Double
  userAgent : Value
  headers : List (Value × Value)
  graphParameters : Bool
  namedGraphs : List Value
  attempts : Int
  delay : Double
deriving Repr

/-- Checked settings as a client takes them. -/
def Settings.Checked.toSettings (checked : Settings.Checked) : Settings where
  endpoint := checked.endpoint
  updateEndpoint := checked.updateEndpoint
  method := .text checked.method
  timeout := .float checked.timeout
  userAgent := checked.userAgent
  headers := .map checked.headers
  graphParameters := .bool checked.graphParameters
  namedGraphs := checked.namedGraphs
  attempts := .int checked.attempts
  delay := .float checked.delay

namespace Settings

/-- The settings with how often and how long apart an exchange is tried. -/
def setRetry (settings : Settings) : List (Value × Value) → Outcome Settings
  | [] => .ok settings
  | (.text "attempts", value) :: rest => setRetry { settings with attempts := value } rest
  | (.text "delay_seconds", value) :: rest => setRetry { settings with delay := value } rest
  | _ :: _ => misuse .wrongKind

/-- The settings with one field changed. -/
def setField (settings : Settings) (name : String) (value : Value) : Outcome Settings :=
  match name with
  | "endpoint" => .ok { settings with endpoint := value }
  | "update_endpoint" => .ok { settings with updateEndpoint := value }
  | "method" => .ok { settings with method := value }
  | "timeout" => .ok { settings with timeout := value }
  | "user_agent" => .ok { settings with userAgent := value }
  | "headers" => .ok { settings with headers := value }
  | "graph_parameters" => .ok { settings with graphParameters := value }
  | "named_graphs" =>
    match value.elements? with
    | some graphs => .ok { settings with namedGraphs := graphs }
    | none => misuse .wrongKind
  | "retry" =>
    match value with
    | .map entries => settings.setRetry entries
    | _ => misuse .wrongKind
  | _ => misuse .wrongKind

/-- The settings with the given fields; the others have their usual values. -/
def ofFields (fields : List (String × Value)) : Outcome Settings :=
  fields.foldlM (fun settings (name, value) => settings.setField name value) {}

end Settings

end Sparql
