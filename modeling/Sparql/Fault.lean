import Sparql.Term.Text

/-!
# Faults

Misuse that no check of the library catches first, and limits that it runs into.
-/

namespace Sparql

/-- Misuse and limits that no check names. -/
inductive Fault where
  /-- A value of a kind that the operation cannot take. -/
  | wrongKind
  /-- A value of the right kind that makes no sense. -/
  | badValue
  /-- A value that lacks the operation asked of it. -/
  | noSuchOperation
  /-- A key that is not there. -/
  | missingKey
  /-- A number beyond every limit. -/
  | overflow
  /-- Bytes that are no text. -/
  | undecodable
  /-- A text with characters that cannot be written. -/
  | unencodable
  /-- A body that breaks off while it is read. -/
  | brokenOff
  /-- A text that needs a character and has none. -/
  | emptyText
  /-- An operation that has no text of its own. -/
  | abstractOperation
  /-- A text that cannot be rendered. -/
  | render (cause : RenderError)
  /-- A variable without a name. -/
  | unnamedVariable
deriving DecidableEq, Repr

/-- A literal that cannot be built. -/
def LiteralError.fault : LiteralError → Fault
  | .badLanguage _ | .unwritableSpan => .badValue
  | .languageAndDatatype => .wrongKind

end Sparql
