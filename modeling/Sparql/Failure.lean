import Sparql.Construction.Error
import Sparql.Term.Lexical

/-!
# Failures

What a call can end with instead of a result. Failures of the library's own making have a message, and
those of an exchange also what the other side sent. Faults are misuse that no check of the library catches
first.
-/

namespace Sparql

/-- How an answer that is no usable result is classified. -/
inductive ProtocolKind where
  /-- The answer cannot be understood, or its status says neither success nor error. -/
  | protocol
  /-- A status from 400 to 499. -/
  | client
  /-- Status 400. -/
  | malformedQuery
  /-- A status of 500 or more. -/
  | server
deriving DecidableEq, Repr

/-- What a call ends with instead of a result. -/
inductive Failure where
  | construction (cause : ConstructionError)
  | configuration (message : String)
  | transport (message : String) (endpoint : Option String)
  | protocol (kind : ProtocolKind) (message : String) (status : Option Int) (body : Option String)
  | fault (fault : Fault)
deriving Repr

namespace Failure

/-- The message, of failures that have one. -/
def message? : Failure → Option String
  | .construction cause => some cause.message
  | .configuration message => some message
  | .transport message _ => some message
  | .protocol _ message _ _ => some message
  | .fault _ => none

/-- An answer that cannot be understood. -/
def unusable (message : String) : Failure := .protocol .protocol message none none

/-- Whether the failure is one of the library's own. -/
def isOwn : Failure → Bool
  | .fault _ => false
  | _ => true

end Failure

/-- The result of a call. -/
abbrev Outcome (α : Type) := Except Failure α

/-- Misuse. -/
def misuse {α : Type} (fault : Fault) : Outcome α := .error (.fault fault)

/-- The failure of a refused argument, or of showing it. -/
def Failure.ofRefusal (cause : ConstructionError) : Failure :=
  match cause.shown?.bind Value.displayFault? with
  | some limit => .fault limit
  | none => .construction cause

/-- A refused argument. -/
def refuse {α : Type} (cause : ConstructionError) : Outcome α := .error (.ofRefusal cause)

/-- The plain text of a value, if it has one. -/
def Value.spell (value : Value) : Outcome String :=
  match value.textFault? with
  | some limit => misuse limit
  | none => .ok value.toText

/-- A literal, or the fault that it cannot be built. -/
def Outcome.ofLiteral : Except LiteralError Literal → Outcome Literal
  | .ok literal => .ok literal
  | .error cause => misuse cause.fault

/-- The outcome of rendering. -/
def Outcome.ofRender {α : Type} : Except RenderError α → Outcome α
  | .ok value => .ok value
  | .error cause => misuse (.render cause)

end Sparql
