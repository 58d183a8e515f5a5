import Sparql.Graph.Sink
import Sparql.Graph.Turtle.Lexeme
import Sparql.Iri

/-!
# Terms of Turtle, TriG and N3

The state of a reader, and how it reads single terms: names, references, numbers and texts. N3 has symbols
that stand for variables or for unknown things, and documents in it may say which words are keywords.
-/

namespace Sparql.Graph.Turtle

open Sparql.Text

/-- What a notation allows besides plain statements. -/
structure Notation where
  /-- Blocks that name the graph of their statements. -/
  hasGraphs : Bool := false
  /-- The additions of N3. -/
  isLogic : Bool := false
deriving DecidableEq, Repr

/-- Turtle itself. -/
def turtle : Notation := {}

/-- Turtle with named graphs. -/
def trig : Notation := { hasGraphs := true }

/-- Turtle with the additions of logic. -/
def n3 : Notation := { isLogic := true }

/-- How far a document has been read. -/
structure State where
  rest : List Char
  base : List Char := Iri.localBase
  /-- What prefixes stand for. -/
  namespaces : List (String × String) := []
  /-- How many blank nodes without a label have been read. -/
  unlabelled : Nat := 0
  /-- The statements with the names of their graphs, in reverse. -/
  quads : List Quad := []
  /-- The name of the block that is open, if one is; it may have none. -/
  block : Option (Option Term) := none
  /-- The keywords that need no mark, once the document has listed them. -/
  keywords : Option (List String) := none
  /-- The symbols that stand for variables. -/
  universals : List (Term × Term) := []
  /-- The symbols that stand for unknown things. -/
  existentials : List (Term × Term) := []
  /-- How deep brackets are nested, by the steps that each takes. -/
  depth : Nat := 0

/-- Reading on in a document. -/
abbrev Reading := ReaderT Notation (StateT State Option)

namespace Reading

/-- The document cannot be read. -/
def fail {α : Type} : Reading α := fun _ _ => none

/-- The document cannot be read unless a condition holds. -/
def ensure (condition : Bool) : Reading Unit := if condition then pure () else fail

/-- What there must be. -/
def require {α : Type} (value : Option α) : Reading α :=
  match value with
  | some value => pure value
  | none => fail

/-- What has not been read. -/
def rest : Reading (List Char) := return (← get).rest

/-- Goes on with a text. -/
def goTo (rest : List Char) : Reading Unit := modify fun state => { state with rest }

/-- Goes on with a text if there is one; tells whether there is. -/
def goTo? (rest : Option (List Char)) : Reading Bool := do
  match rest with
  | some rest =>
    goTo rest
    return true
  | none => return false

/-- Moves past some characters. -/
def skip (count : Nat) : Reading Unit := modify fun state => { state with rest := state.rest.drop count }

/-- Moves past spaces; gives the next character. -/
def next? : Reading (Option Char) := do
  modify fun state => { state with rest := skipSpace state.rest }
  return (← rest).head?

/-- Moves past spaces to the next character, which there must be. -/
def next : Reading Char := do require (← next?)

/-- The piece that begins here, if there is one. -/
def piece? {α : Type} (piece : List Char → Piece α) : Reading (Option α) := do
  match piece (← rest) with
  | .absent => return none
  | .broken => fail
  | .found value rest =>
    goTo rest
    return some value

/-- The piece that begins here. -/
def piece {α : Type} (piece : List Char → Piece α) : Reading α := do require (← piece? piece)

/-- The words that need no mark unless a document says otherwise. -/
def usualKeywords : List String := ["a", "this", "bind", "has", "is", "of", "true", "false"]

/-- Whether a word is a keyword without a mark. -/
def isKeyword (word : String) : Reading Bool := return ((← get).keywords.getD usualKeywords).contains word

/-- What stands behind a word of the notation if it is here. -/
def behindKeyword? (word : String) : Reading (Option (List Char)) := do
  return Turtle.behindKeyword? word (← isKeyword word) (← rest)

/-- Moves past a word of the notation if it is here; tells whether it was. -/
def keyword (word : String) : Reading Bool := do goTo? (← behindKeyword? word)

/-- The steps that reading may take on its way into nested brackets. -/
def maxDepth : Nat := 970

/-- Reads inside a bracket, which takes some steps. -/
def nested {α : Type} (steps : Nat) (run : Reading α) : Reading α := do
  let depth := (← get).depth
  ensure (depth + steps ≤ maxDepth)
  modify fun state => { state with depth := depth + steps }
  let result ← run
  modify fun state => { state with depth }
  return result

/-- Whether a text begins here. -/
def begins (text : String) : Reading Bool := return text.toList.isPrefixOf (← rest)

/-- Moves past a mark if it is here; tells whether it was. -/
def mark (text : String) : Reading Bool := do
  if ← begins text then
    skip text.length
    return true
  else return false

/-- A blank node that no label names. -/
def newBlank : Reading Term := do
  let number := (← get).unlabelled
  modify fun state => { state with unlabelled := number + 1 }
  return .blank ("g" ++ toString number)

/-- The blank node with a label. -/
def labelled (label : String) : Term := .blank ("n" ++ label)

/-- What a symbol stands for among some. -/
def standsFor (symbols : List (Term × Term)) (term : Term) : Term := (symbols.lookup term).getD term

/-- Adds a statement to the graph of the block that is open, or else to the one without a name. Symbols for unknown
things stand for them from their declaration on. -/
def add (subject predicate object : Term) : Reading Unit :=
  modify fun state =>
    let known := standsFor state.existentials
    { state with quads := ⟨⟨known subject, known predicate, known object⟩, state.block.join⟩ :: state.quads }

/-- The IRI that a reference stands for. -/
def resolve (reference : List Char) : Reading (List Char) := do require (Iri.join? (← get).base reference)

/-- What a prefix stands for. In N3 the empty one needs no declaration. -/
def namespaceOf (mark : String) : Reading String := do
  let state ← get
  match state.namespaces.lookup mark with
  | some space => return space
  | none =>
    ensure ((← read).isLogic && mark = "")
    return String.ofList (← resolve ['#'])

/-- The term of an IRI, which is a variable if the document says so. -/
def symbol (iri : String) : Reading Term := return standsFor (← get).universals (.iri iri)

/-- The term of a name with a prefix. -/
def named (mark own : String) : Reading Term := do
  if mark = "_" && ((← get).namespaces.lookup mark).isNone then return labelled own
  symbol ((← namespaceOf mark) ++ own)

/-- The IRI of a reference between brackets, whose opening one has been read. A final number sign stays. -/
def bracketedIri : Reading Term := do
  let text ← rest
  let reference ← piece bracketed
  let iri ← resolve reference
  let hasMark := (text.takeWhile (· ≠ '>')).getLast? = some '#'
  symbol (String.ofList (if hasMark && iri.getLast? ≠ some '#' then iri ++ ['#'] else iri))

/-- The variable of a symbol: what stands behind its last number sign, without a question mark before it. -/
def variableOf (symbol : List Char) : Reading Term := do
  let own := (symbol.reverse.takeWhile (· ≠ '#')).reverse
  ensure (!own.isEmpty)
  return .variable (String.ofList (match own with
    | '?' :: rest => rest
    | _ => own))

/-- Lets a symbol stand for its variable, unless it does already. -/
def declareUniversal (symbol : Term) : Reading Unit := do
  if ((← get).universals.lookup symbol).isNone then
    let variable' ← variableOf symbol.plainText.toList
    modify fun state => { state with universals := (symbol, variable') :: state.universals }

/-- Lets a symbol stand for an unknown thing from here on. -/
def declareExistential (symbol : Term) : Reading Unit := do
  let unknown ← newBlank
  modify fun state => { state with existentials := (symbol, unknown) :: state.existentials }

/-- A variable, which N3 knows, behind its question mark. The reference of its name stands for it, too. -/
def logicVariable : Reading Term := do
  ensure (← read).isLogic
  let text ← rest
  let name := text.takeWhile (!endsKeyword ·)
  ensure (!name.head?.any fun c => isAsciiDigit c || c = '-')
  skip name.length
  let reference := Term.iri (String.ofList ((← get).base ++ '#' :: name))
  declareUniversal reference
  return standsFor (← get).universals reference

/-- A word that is no keyword, in documents that list the keywords. -/
def bareName? : Reading (Option String) := do
  match (← get).keywords with
  | none => return none
  | some keywords =>
    let text ← rest
    let (word, after) := prefixOf text
    if text.head?.any beginsNumber || word.isEmpty || after.head? = some ':'
        || keywords.contains (String.ofList word) then return none
    goTo after
    return some (String.ofList word)

/-- A name with a prefix. A bare name has the empty prefix. -/
def qualifiedName? : Reading (Option (String × String)) := do
  let _ ← next?
  match ← piece? name with
  | some found => return some found
  | none => return (← bareName?).map fun own => ("", own)

/-- A word of any kind, which is no number. -/
def bareWord? : Reading (Option String) := do
  let text ← rest
  let word := text.takeWhile (!endsKeyword ·)
  if word.isEmpty || word.head?.any (fun c => isAsciiDigit c || c = '-') then return none
  skip word.length
  return some (String.ofList word)

/-- A word that stands for a thing of the default namespace, in documents that list the keywords. None of
those may stand here. -/
def wordSymbol? : Reading (Option Term) := do
  match (← get).keywords with
  | none => return none
  | some keywords =>
    match ← bareWord? with
    | none => return none
    | some word =>
      ensure (!keywords.contains word)
      let space ← require ((← get).namespaces.lookup "")
      return some (.iri (space ++ word))

/-- An IRI, a blank node with a label, or a variable. -/
def resource? : Reading (Option Term) := do
  match ← qualifiedName? with
  | some (mark, own) => return some (← named mark own)
  | none =>
    match ← rest with
    | '?' :: _ =>
      skip 1
      return some (← logicVariable)
    | '<' :: _ =>
      skip 1
      return some (← bracketedIri)
    | _ => wordSymbol?

/-- A literal with a language or a datatype. -/
def literal (text : List Char) (language datatype : Option String) : Reading Term := do
  require (literal? text language datatype)

/-- A number if one begins here. -/
def number? : Reading (Option Term) := do
  let text ← rest
  match numberLength? text with
  | none => return none
  | some (kind, length) =>
    let digits := text.take length
    ensure ((LexicalSpace.ofDatatype (some kind.datatype)).canonical? digits).isSome
    skip length
    return some (← literal digits none (some kind.datatype))

/-- The language behind a text, if there is one. -/
def language? : Reading (Option String) := do
  match ← rest with
  | [] => fail
  | '@' :: tag =>
    let (language, rest) ← require (languageTag? Char.isAlphanum tag)
    goTo rest
    return some language
  | _ => return none

/-- The datatype behind a text, if there is one. -/
def datatype? : Reading (Option String) := do
  match ← rest with
  | '^' :: '^' :: rest =>
    goTo rest
    return some (← require (← resource?)).plainText
  | _ => return none

/-- A literal that begins with a quote. A datatype makes its language count for nothing. -/
def quotedLiteral (quote : Char) : Reading Term := do
  let text ← piece (quotedText quote)
  let language ← language?
  let datatype ← datatype?
  literal text (if datatype.isSome then none else language) datatype

/-- Whether texts stand between this quote. N3 has double quotes only. -/
def isQuote (c : Char) : Reading Bool := return c = '"' || (c = '\'' && !(← read).isLogic)

/-- A number or a text, if one begins here. -/
def literal? : Reading (Option Term) := do
  match ← next? with
  | none => return none
  | some c =>
    match ← number? with
    | some number => return some number
    | none => if ← isQuote c then return some (← quotedLiteral c) else return none

/-- A property, and whether it leads from the subject to the object. -/
structure Verb where
  predicate : Term
  isForward : Bool := true

/-- The property between names of one thing. -/
def sameAs : String := "http://www.w3.org/2002/07/owl#sameAs"

/-- The verb that a mark of N3 stands for. -/
def logicVerb? : Reading (Option Verb) := do
  let implies := Term.iri "http://www.w3.org/2000/10/swap/log#implies"
  let verb ←
    if ← mark "<=" then pure (some ⟨implies, false⟩)
    else if ← mark "=>" then pure (some ⟨implies, true⟩)
    else if ← mark "=" then pure (some ⟨.iri sameAs, true⟩)
    else pure none
  ensure (verb.isNone || (← read).isLogic)
  ensure (!(← begins ":="))
  return verb

/-- Adds the statements that a verb makes between a subject and some objects. -/
def addAll (subject : Term) (verb : Verb) (objects : List Term) : Reading Unit :=
  objects.forM fun object =>
    if verb.isForward then add subject verb.predicate object else add object verb.predicate subject

/-- The list of some terms, as statements about its nodes. -/
def listOf : List Term → Reading Term
  | [] => return .iri (Vocabulary.rdf "nil")
  | item :: rest => do
    let node ← newBlank
    add node (.iri (Vocabulary.rdf "first")) item
    let tail ← listOf rest
    add node (.iri (Vocabulary.rdf "rest")) tail
    return node

end Reading

end Sparql.Graph.Turtle
