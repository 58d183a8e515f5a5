import Sparql.Failure

/-!
# Terms from arguments

Where a term is expected, a bare name is a variable and a scalar is a literal. Graph names and service
endpoints take other strings as IRIs.
-/

namespace Sparql

/-- The first character of a name. -/
def isVariableStart (c : Char) : Bool := c.isAlpha || c = '_'

/-- Any other character of a name. -/
def isVariableCharacter (c : Char) : Bool := c.isAlphanum || c = '_'

/-- Whether nothing follows, or a single line end. -/
def isVariableEnd : List Char → Bool
  | [] => true
  | ['\n'] => true
  | _ => false

/-- A name made of ASCII letters, digits and underscores, not starting with a digit. -/
def isBareName : List Char → Bool
  | [] => false
  | c :: rest => isVariableStart c && isVariableEnd (rest.dropWhile isVariableCharacter)

/-- A bare name, or one after a question mark. -/
def isVariableName : List Char → Bool
  | '?' :: name => isBareName name
  | name => isBareName name

/-- The name without the question marks before it. -/
def stripMarks (name : String) : String := String.ofList (name.toList.dropWhile (· == '?'))

namespace Value

/-- Whether the value is a text that names a variable. -/
def isVariableName : Value → Bool
  | .text name => Sparql.isVariableName name.toList
  | _ => false

/-- Whether the value stands for a variable: the variable itself or its name. -/
def isVariable : Value → Bool
  | .term t => t.isVariable
  | value => value.isVariableName

/-- The name of the variable that the value stands for. -/
def asVariable (value : Value) : Outcome String :=
  match value with
  | .term (.variable name) => .ok name
  | .text name =>
    if Sparql.isVariableName name.toList then .ok (stripMarks name) else refuse (.notVariableName value)
  | _ => refuse (.notVariableName value)

/-- The literal of a scalar. -/
def scalarLiteral? : Value → Option Literal
  | .bool value => some ⟨if value then "true" else "false", none, some (Vocabulary.xsd "boolean")⟩
  | .int value => some ⟨toString value, none, some (Vocabulary.xsd "integer")⟩
  | .float value => some ⟨value.toText, none, some (Vocabulary.xsd "double")⟩
  | .decimal value => some ⟨value.plainText, none, some (Vocabulary.xsd "decimal")⟩
  | .date value => some ⟨value.toText, none, some (Vocabulary.xsd "date")⟩
  | .time value => some ⟨value.toText, none, some (Vocabulary.xsd "time")⟩
  | .moment value => some ⟨value.toText, none, some (Vocabulary.xsd "dateTime")⟩
  | _ => none

/-- The term in a position of a pattern: terms themselves, variables by name, scalars as literals. A number that
cannot be written has no literal. -/
def asTerm (value : Value) : Outcome Term :=
  match value with
  | .term t => .ok t
  | .text _ => value.asVariable.map .variable
  | _ =>
    match value.scalarLiteral?, value.textFault? with
    | some literal, none => .ok (.literal literal)
    | some _, some limit => misuse limit
    | none, _ => refuse (.notTerm value)

/-- A graph name or a service endpoint: a bare name is a variable, any other text but the empty one an
IRI. -/
def asResource (value : Value) : Outcome Term :=
  match value with
  | .term (.literal literal) =>
    if literal.denotesNothing then refuse (.notResource value) else .ok (.iri literal.text)
  | .term t => .ok t
  | .text name =>
    if Sparql.isVariableName name.toList then .ok (.variable (stripMarks name))
    else if name = "" then refuse (.notResource value)
    else .ok (.iri name)
  | _ => refuse (.notResource value)

/-- An IRI: the term itself, or any text but the empty one. -/
def asIri (value : Value) : Outcome String :=
  match value with
  | .term (.iri iri) => .ok iri
  | .text name => if name = "" then refuse (.notIri value) else .ok name
  | _ => refuse (.notIri value)

/-- The pattern of three terms, each checked for its position, that `value` holds. -/
def patternOf (value subject predicate object : Value) : Outcome CheckedPattern := do
  let subject ← subject.asTerm
  let predicate ← predicate.asTerm
  let object ← object.asTerm
  if isLiteral : subject.isLiteral then refuse (.literalSubject value)
  else if isOther : predicate.isLiteral || predicate.isBlank then refuse (.badPredicate value)
  else return ⟨⟨subject, predicate, object⟩, by simpa using isLiteral, by simpa using isOther⟩

/-- A triple pattern: the pattern itself, as it is, or a list or tuple of three terms. -/
def asPattern (value : Value) : Outcome Pattern :=
  match value with
  | .pattern p => .ok p
  | .list [s, p, o] | .tuple [s, p, o] => (patternOf value s p o).map Subtype.val
  | _ => refuse (.notThreeTerms value)

/-- The patterns of several arguments. -/
def asPatterns (values : List Value) : Outcome (List Pattern) := values.mapM asPattern

/-- The patterns of one argument that is a collection of them. -/
def elementPatterns (value : Value) : Outcome (List Pattern) :=
  match value.elements? with
  | some values => asPatterns values
  | none => misuse .wrongKind

end Value

/-! ## Literals from documents

Documents give the text of a literal as a value of any kind, beside a language or a datatype.
-/

/-- The literal of a value with a language or a datatype. A number or a truth value is a literal of its own
datatype unless another one is given, and has no language. -/
def Value.toLiteral (value : Value) (language datatype : Option String) : Outcome Literal :=
  match value with
  | .text written => Outcome.ofLiteral (Literal.ofText written language datatype)
  | _ => do
    let checked ← Outcome.ofLiteral (Literal.ofText "" language none)
    match value.scalarLiteral? with
    | some literal => return { literal with datatype := datatype <|> literal.datatype }
    | none => return ⟨value.toText, checked.language, datatype⟩

end Sparql
