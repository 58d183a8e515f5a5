import Sparql.Exchange.Client
import Sparql.Settings.Check
import Sparql.Text.Utf8
import Sparql.Yaml.Meaning

/-!
# Loading settings

Settings are read from the bytes of a YAML file, which holds a mapping. A file that is no YAML is reported
as such, but a number, a date or an escape in it that cannot be read is a fault.
-/

namespace Sparql

/-- What is wrong with settings whose document cannot be read: that it is none, or the fault inside it. -/
def Yaml.DocumentError.problem : Yaml.DocumentError → Settings.Reading Value
  | .malformed => Settings.wrong .malformedFile
  | .noSuchCharacter | .unreadable => ExceptT.lift (.error .badValue)
  | .overflow => Settings.overflow
  | .noTruthValue => ExceptT.lift (.error .missingKey)
  | .noText => ExceptT.lift (.error .emptyText)
  | .noMoment => ExceptT.lift (.error .noSuchOperation)
  | .notText => ExceptT.lift (.error .wrongKind)
  | .tooDeep => ExceptT.lift (.error (.render .endlessNesting))

namespace Settings

/-- The value in a file. -/
def document (bytes : List UInt8) : Reading Value :=
  match Text.Utf8.decode? bytes with
  | none => ExceptT.lift (.error .undecodable)
  | some text =>
    match Yaml.parse text with
    | .ok value => return value
    | .error cause => cause.problem

/-- The settings in a file. -/
def ofBytes (bytes : List UInt8) : Reading Settings.Checked := do
  match ← document bytes with
  | .map fields => check (.map fields)
  | _ => wrong .notMapping

/-- The settings in a file at a path, which may be missing. -/
def load (path : String) (file : Option (List UInt8)) : Outcome (Except LoadProblem Settings.Checked) :=
  match file with
  | none => .ok (.error ⟨(SettingsError.fileNotFound path).message, none⟩)
  | some bytes => outcome (some path) (ofBytes bytes)

end Settings

/-- The client of loaded settings. -/
def Client.ofLoaded (loaded : Except LoadProblem Settings.Checked) (host : Host := {}) : Outcome Client :=
  match loaded with
  | .ok checked => Client.create .null checked.toSettings host
  | .error problem => .error problem.failure

/-- The client of the settings in a file at a path, which may be missing. -/
def Client.ofFile (path : String) (file : Option (List UInt8)) (host : Host := {}) : Outcome Client := do
  Client.ofLoaded (← Settings.load path file) host

end Sparql
