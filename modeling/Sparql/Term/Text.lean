import Sparql.Term.Lexical

/-!
# Terms as query text

The written form of terms and triple patterns. Every term has one, but for IRIs with a character that would
end the angle brackets or that IRIs may not hold at all.
-/

namespace Sparql

/-- Why a query or an operation has no text. -/
inductive RenderError where
  /-- An IRI holds a character that cannot stand between angle brackets. -/
  | unwritableIri (iri : String)
  /-- A query contains itself. -/
  | endlessNesting
  /-- A number has more digits than are written. -/
  | longNumber
deriving DecidableEq, Repr

/-- A character that no IRI may hold between angle brackets. -/
def isForbiddenInIri (c : Char) : Bool :=
  c = '<' || c = '>' || c = '"' || c = ' ' || c = '\x7b' || c = '\x7d' || c = '|' || c = '\\' || c = '^'
    || c.toNat = 96

/-- An IRI that can be written between angle brackets. -/
def isWritableIri (iri : String) : Bool := !iri.toList.any isForbiddenInIri

namespace Literal

/-- A character of a text between single double quotes. -/
def escapeShort (c : Char) : List Char :=
  if c = '\\' then ['\\', '\\']
  else if c = '"' then ['\\', '"']
  else if c = '\r' then ['\\', 'r']
  else [c]

/-- A character of a text between triple double quotes, quotes apart. -/
def escapeLong (c : Char) : List Char :=
  if c = '\\' then ['\\', '\\'] else if c = '\r' then ['\\', 'r'] else [c]

/-- The text with every run of three quotes escaped, from left to right. -/
def escapeTriples : List Char → List Char
  | '"' :: '"' :: '"' :: rest => '\\' :: '"' :: '\\' :: '"' :: '\\' :: '"' :: escapeTriples rest
  | c :: rest => c :: escapeTriples rest
  | [] => []

/-- The text with a quote at its end escaped, unless the character before it is a backslash. -/
def escapeLast (text : List Char) : List Char :=
  match text.reverse with
  | '"' :: '\\' :: _ => text
  | '"' :: before => before.reverse ++ ['\\', '"']
  | _ => text

/-- The text between quotes: three on each side if it holds a line end, else one. -/
def quote (text : List Char) : List Char :=
  if text.contains '\n' then
    let body := escapeLast (escapeTriples (text.flatMap escapeLong))
    ['"', '"', '"'] ++ body ++ ['"', '"', '"']
  else '"' :: text.flatMap escapeShort ++ ['"']

/-- How infinities and the missing number are spelled in query text. -/
def spelledNumber (text : String) : String :=
  match text with
  | "inf" | "Infinity" => "INF"
  | "-inf" | "-Infinity" => "-INF"
  | "nan" => "NaN"
  | _ => text

/-- The text of a literal between its quotes. -/
def spelled (literal : Literal) : String :=
  match LexicalSpace.ofDatatype literal.datatype with
  | .decimal | .double => spelledNumber literal.text
  | _ => literal.text

/-- The written form of a literal. -/
def chars (literal : Literal) : List Char :=
  let body := quote literal.spelled.toList
  match literal.language, literal.datatype with
  | some language, _ => body ++ '@' :: language.toList
  | none, some "" => body
  | none, some datatype => body ++ '^' :: '^' :: '<' :: datatype.toList ++ ['>']
  | none, none => body

/-- `chars` as a string. -/
def toText (literal : Literal) : String := String.ofList literal.chars

end Literal

/-- An IRI between angle brackets. -/
def renderIri (iri : String) : Except RenderError String :=
  if isWritableIri iri then .ok ("<" ++ iri ++ ">") else .error (.unwritableIri iri)

/-- A variable with its mark. -/
def variableText (name : String) : String := "?" ++ name

/-- The written form of a term. -/
def Term.render : Term → Except RenderError String
  | .iri value => renderIri value
  | .blank label => .ok ("_:" ++ label)
  | .literal value => .ok value.toText
  | .variable name => .ok (variableText name)

end Sparql
