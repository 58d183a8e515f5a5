import Sparql.Graph.Sink
import Sparql.Graph.Spelling
import Sparql.Term.Text
import Sparql.Text.Basic

/-!
# N-Triples and N-Quads

The notations with a statement on every line, as they are read and written.
-/

/-!
## Reading N-Triples and N-Quads

Every line holds one statement or none. In N-Quads the name of the statement's graph may follow, which can
be any term that may be a subject. A graph is read only if every line of it can be read.
-/

namespace Sparql.Graph.NTriples

open Sparql.Text

/-- A blank between terms. -/
def isGap (c : Char) : Bool := c = ' ' || c = '\t'

/-- What stands behind blanks. -/
def skipGap (text : List Char) : List Char := text.dropWhile isGap

/-- What stands behind blanks between the terms of a statement. N-Triples needs one at least, N-Quads none. -/
def behindGap? (named : Bool) (text : List Char) : Option (List Char) :=
  if named || text.head?.any isGap then some (skipGap text) else none

/-! ## Escapes -/

/-- The character that a code after a backslash stands for, and how long the code is with its mark. `none`
inside means that the code is beyond every character, `none` outside that there is no code. -/
def coded? (mark : Char) (rest : List Char) : Option (Option Char × Nat) :=
  (codeLength? mark).bind fun count => (leadingCode? count rest).map fun code => (character? code, count)

/-- A text with its escapes read, after what has been read in reverse. A backslash that begins no escape
stands for itself. The number says how many characters to pass over. -/
def unescapeOnto (read : List Char) : Nat → List Char → Option (List Char)
  | _, [] => some read.reverse
  | skipped + 1, _ :: rest => unescapeOnto read skipped rest
  | 0, '\\' :: mark :: rest =>
    match escapedBy? mark, coded? mark rest with
    | some character, _ => unescapeOnto (character :: read) 1 (mark :: rest)
    | none, some (some character, count) => unescapeOnto (character :: read) (count + 1) (mark :: rest)
    | none, some (none, _) => none
    | none, none => unescapeOnto ('\\' :: read) 0 (mark :: rest)
  | 0, c :: rest => unescapeOnto (c :: read) 0 rest

/-- The text with its escapes read. -/
def unescape? (text : List Char) : Option (List Char) := unescapeOnto [] 0 text

/-! ## Terms -/

/-- A character that an IRI cannot hold behind its scheme. -/
def endsIri (c : Char) : Bool := isBlank c || c = '"' || c = '<' || c = '>'

/-- An IRI, whose opening bracket has been read, and what stands behind its closing bracket. -/
def iri? (text : List Char) : Option (String × List Char) := do
  let scheme := text.takeWhile (· ≠ ':')
  if scheme.isEmpty then none
  let ':' :: path := text.dropWhile (· ≠ ':') | none
  let '>' :: rest := path.dropWhile (!endsIri ·) | none
  let value ← unescape? (scheme ++ ':' :: path.takeWhile (!endsIri ·))
  return (String.ofList value, rest)

/-- A character of a blank node's label, besides points and hyphens. -/
def isLabelChar (c : Char) : Bool := c.isAlphanum || c = '_' || c = ':'

/-- A character inside a blank node's label. -/
def isInnerLabelChar (c : Char) : Bool := isLabelChar c || c = '-' || c = '.'

/-- The label of a blank node, whose underscore has been read. It does not end in a point. -/
def label? (text : List Char) : Option (String × List Char) := do
  let ':' :: rest := text | none
  let c :: _ := rest | none
  if !isLabelChar c then none
  let run := rest.takeWhile isInnerLabelChar
  let label := (run.reverse.dropWhile (· = '.')).reverse
  return (String.ofList label, rest.drop label.length)

/-- What stands between quotes, with its escapes unread and in reverse, and what stands behind. -/
def quotedOnto (read : List Char) : List Char → Option (List Char × List Char)
  | [] => none
  | '"' :: rest => some (read.reverse, rest)
  | '\\' :: c :: rest => quotedOnto (c :: '\\' :: read) rest
  | c :: rest => if c = '\\' then none else quotedOnto (c :: read) rest

/-- The datatype of a literal, if one is given. What is none is left unread. -/
def datatype? (text : List Char) : Option (Option String × List Char) :=
  match text with
  | '^' :: '^' :: '<' :: rest =>
    match iri? rest with
    | some (datatype, rest) => some (some datatype, rest)
    | none => none
  | _ => some (none, text)

/-- A literal, whose opening quote has been read. -/
def literalTerm? (text : List Char) : Option (Term × List Char) := do
  let (raw, rest) ← quotedOnto [] text
  let value ← unescape? raw
  match rest with
  | '@' :: tag =>
    let (language, rest) ← languageTag? Char.isAlpha tag
    return (← literal? value (some language) none, rest)
  | _ =>
    let (datatype, rest) ← datatype? rest
    return (← literal? value none datatype, rest)

/-- An IRI or a blank node. -/
def resource? : List Char → Option (Term × List Char)
  | '<' :: rest => (iri? rest).map fun (iri, rest) => (.iri iri, rest)
  | '_' :: rest => (label? rest).map fun (label, rest) => (.blank label, rest)
  | _ => none

/-- The IRI of a predicate. -/
def predicate? : List Char → Option (Term × List Char)
  | '<' :: rest => (iri? rest).map fun (iri, rest) => (.iri iri, rest)
  | _ => none

/-- Any term. -/
def object? : List Char → Option (Term × List Char)
  | '"' :: rest => literalTerm? rest
  | text => resource? text

/-! ## Lines -/

/-- The name of a graph if one stands here. -/
def graphName? (text : List Char) : Option (Option Term × List Char) :=
  match text with
  | '<' :: _ | '_' :: _ => (resource? text).map fun (name, rest) => (some name, rest)
  | _ => some (none, text)

/-- Whether a text is the end of a statement: a point, and perhaps a comment. -/
def isEnd (text : List Char) : Bool :=
  match skipGap text with
  | '.' :: rest =>
    match skipGap rest with
    | [] => true
    | c :: _ => c = '#'
  | _ => false

/-- The statement of a line, with the name of its graph if lines can have one. -/
def quad? (named : Bool) (line : List Char) : Option Quad := do
  let (subject, rest) ← resource? line
  let (predicate, rest) ← predicate? (← behindGap? named rest)
  let (object, rest) ← object? (← behindGap? named rest)
  let (graph, rest) ← if named then graphName? (skipGap rest) else some (none, rest)
  if isEnd rest then some ⟨⟨subject, predicate, object⟩, graph⟩ else none

/-- Whether a line holds nothing but a comment. -/
def isEmptyLine (line : List Char) : Bool :=
  match line with
  | [] => true
  | c :: _ => c = '#'

/-- The statement of a line, if the line holds one. -/
def readLine (named : Bool) (line : List Char) : Option (Option Quad) :=
  let line := skipGap line
  if isEmptyLine line then some none else (quad? named line).map some

/-- The lines of a document. Blanks of any kind after the last end of a line are no line. -/
def documentLines (text : List Char) : List (List Char) :=
  let lines := lines (unifyLines text)
  match lines.getLast? with
  | some last => if isAllBlank last then lines.dropLast else lines
  | none => lines

/-- The quads of a document, in the order of its lines. -/
def quads? (named : Bool) (text : List Char) : Option (List Quad) :=
  ((documentLines text).mapM (readLine named)).map fun quads => quads.filterMap id

/-!
## Writing N-Triples

One statement a line. Texts stand between single double quotes, with backslashes, quotes and line ends
escaped.
-/

/-- A character between quotes. -/
def escapeChar (c : Char) : List Char :=
  if c = '\\' then ['\\', '\\']
  else if c = '\n' then ['\\', 'n']
  else if c = '\r' then ['\\', 'r']
  else if c = '"' then ['\\', '"']
  else [c]

/-- A literal. An empty datatype is none. -/
def literalChars (literal : Literal) : List Char :=
  let body := '"' :: literal.text.toList.flatMap escapeChar ++ ['"']
  match literal.language, literal.datatype with
  | some language, _ => body ++ '@' :: language.toList
  | none, some "" => body
  | none, some datatype => body ++ '^' :: '^' :: '<' :: datatype.toList ++ ['>']
  | none, none => body

/-- A term. -/
def termText (term : Term) : Except RenderError String :=
  match term with
  | .literal literal => .ok (String.ofList (literalChars literal))
  | term => term.render

/-- A line. -/
def lineText (statement : Statement) : Except RenderError String := do
  let subject ← termText statement.subject
  let predicate ← termText statement.predicate
  let object ← termText statement.object
  return subject ++ " " ++ predicate ++ " " ++ object ++ " .\n"

/-- The text of some statements. -/
def write (statements : List Statement) : Except RenderError String :=
  (statements.mapM lineText).map String.join

end Sparql.Graph.NTriples
