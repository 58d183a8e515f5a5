import Sparql.Number.Reading
import Sparql.Settings.Basic
import Sparql.Text.Case

/-!
# Checking settings

Settings that come from a file are read field by field and then checked. A field of the wrong kind makes the
whole structure wrong; the checks report the first setting that is out of its bounds.
-/

namespace Sparql

open Sparql.Text

/-- What is wrong with settings. -/
inductive SettingsError where
  /-- A field has the wrong kind. -/
  | wrongStructure
  | unsupportedMethod (method : String)
  | badTimeout (timeout : Double)
  | badAttempts (attempts : Int)
  | badDelay (delay : Double)
  | fileNotFound (path : String)
  /-- The file is no YAML. -/
  | malformedFile
  | notMapping
deriving DecidableEq, Repr

/-- The wording of each cause. -/
def SettingsError.message : SettingsError → String
  | wrongStructure => "Config structure error: a field has the wrong kind"
  | unsupportedMethod method => "Unsupported HTTP method: " ++ method
  | badTimeout timeout => "Timeout must be positive, got " ++ timeout.toText
  | badAttempts attempts => "Retry attempts must be >= 1, got " ++ toString attempts
  | badDelay delay => "Retry delay must be >= 0, got " ++ delay.toText
  | fileNotFound path => "Config file not found: " ++ path
  | malformedFile => "YAML parse error: not a single YAML document"
  | notMapping => "Config root must be a mapping"

/-- Whether the wording of a cause can be written: not if it holds a number of too many digits. -/
def SettingsError.isWritable : SettingsError → Bool
  | badAttempts attempts => !Number.isLong attempts
  | _ => true

/-- A problem found while loading, and perhaps the place where it was found. -/
structure LoadProblem where
  message : String
  context : Option String := none
deriving DecidableEq, Repr

/-- The failure that a problem amounts to. -/
def LoadProblem.failure (problem : LoadProblem) : Failure :=
  .configuration (match problem.context with
    | some context => problem.message ++ " (" ++ context ++ ")"
    | none => problem.message)

namespace Settings

/-- What is read from settings: a value, what is wrong with them, or a fault. -/
abbrev Reading (α : Type) := ExceptT SettingsError (Except Fault) α

/-- A setting that is wrong. -/
def wrong {α : Type} (cause : SettingsError) : Reading α := throw cause

/-- A setting of the wrong kind. -/
def wrongKind {α : Type} : Reading α := wrong .wrongStructure

/-- A number beyond every limit. -/
def overflow {α : Type} : Reading α := ExceptT.lift (.error .overflow)

/-- The double that a value stands for. -/
def double (value : Value) : Reading Double :=
  match value with
  | .bool value => return if value then .ofInt 1 else .ofInt 0
  | .int value => let number := Double.ofInt value; if number.isInfinite then overflow else return number
  | .float value => return value
  | .decimal value =>
    match value.toDouble? with
    | some number => return number
    | none => wrongKind
  | _ =>
    match value.numeral?.bind Number.double? with
    | some number => return number
    | none => wrongKind

/-- The whole part of a number, if it has one. -/
def whole (number : Option Int) : Reading Int :=
  match number with
  | some number => return number
  | none => wrongKind

/-- The integer that a value stands for. -/
def integer (value : Value) : Reading Int :=
  match value with
  | .bool value => return if value then 1 else 0
  | .int value => return value
  | .float value => if value.isInfinite then overflow else whole value.truncate?
  | .decimal (.infinite _) => overflow
  | .decimal value => whole value.truncate?
  | _ => whole (value.numeral?.bind Number.integer?)

/-- The entry that a pair of a collection stands for. -/
def pairOf (value : Value) : Reading (Value × Value) :=
  match value.elements? with
  | some [key, value] => return (key, value)
  | _ => wrongKind

/-- The entries of a mapping or of a collection of pairs. What counts as nothing has none. -/
def entries (value : Value) : Reading (List (Value × Value)) := do
  if !value.truth then return []
  match value with
  | .map entries => return entries
  | _ =>
    match value.elements? with
    | none => wrongKind
    | some items =>
      let pairs ← items.mapM pairOf
      match Value.ofEntries? pairs with
      | some entries => return entries
      | none => wrongKind

/-- The items of a collection. What counts as nothing has none. -/
def items (value : Value) : Reading (List Value) :=
  if !value.truth then return []
  else match value.elements? with
    | some items => return items
    | none => wrongKind

/-- The mapping that says how often and how long apart an exchange is tried. -/
def retryFields (value : Value) : Reading (List (Value × Value)) :=
  if !value.truth then return []
  else match value with
    | .map fields => return fields
    | _ => wrongKind

/-- A field, or what it is when not given. -/
def field (fields : List (Value × Value)) (name : String) (absent : Value) : Value :=
  (Value.field? name fields).getD absent

/-- Reads every field. -/
def read (fields : List (Value × Value)) : Reading Settings.Checked := do
  let method := field fields "method" (.text "POST")
  if method.textFault?.isSome then wrongKind
  let timeout ← double (field fields "timeout" (.int 30))
  let headers ← entries (field fields "headers" .null)
  let namedGraphs ← items (field fields "named_graphs" .null)
  let retry ← retryFields (field fields "retry" .null)
  let attempts ← integer (field retry "attempts" (.int 1))
  let delay ← double (field retry "delay_seconds" (.int 0))
  return {
    endpoint := field fields "endpoint" .null
    updateEndpoint := field fields "update_endpoint" .null
    method := uppered method.toText
    timeout
    userAgent := field fields "user_agent" (.text "sparql-client/0.1")
    headers
    graphParameters := (field fields "graph_parameters" (.bool false)).truth
    namedGraphs
    attempts
    delay }

/-- What is wrong with settings, if anything is: the first that is out of its bounds. -/
def Checked.problem? (settings : Settings.Checked) : Option SettingsError :=
  if settings.method ≠ "GET" ∧ settings.method ≠ "POST" then some (.unsupportedMethod settings.method)
  else if settings.timeout.isNonpositive then some (.badTimeout settings.timeout)
  else if settings.attempts < 1 then some (.badAttempts settings.attempts)
  else if settings.delay.isNegative then some (.badDelay settings.delay)
  else none

/-- The checked settings of a value. -/
def check (raw : Value) : Reading Settings.Checked := do
  match raw with
  | .map fields =>
    let settings ← read fields
    match settings.problem? with
    | some cause =>
      if cause.isWritable then wrong cause else ExceptT.lift (.error .badValue)
    | none => return settings
  | _ => wrongKind

/-- The checked settings, or the problem with them at a place. -/
def outcome (context : Option String) (reading : Reading Settings.Checked) :
    Outcome (Except LoadProblem Settings.Checked) :=
  match reading.run with
  | .error fault => misuse fault
  | .ok (.error cause) => .ok (.error ⟨cause.message, context⟩)
  | .ok (.ok settings) => .ok (.ok settings)

/-- The checked settings of a value that was read elsewhere. -/
def ofValue (raw : Value) : Outcome (Except LoadProblem Settings.Checked) := outcome none (check raw)

end Settings

end Sparql
