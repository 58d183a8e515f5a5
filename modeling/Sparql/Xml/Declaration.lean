import Sparql.Text.Hex
import Sparql.Xml.DocumentType

/-!
# Declarations

What stands inside a document type: declarations of elements, attributes, texts and notations, comments,
instructions, and references to texts that hold declarations themselves.
-/

/-!
## Names of namespaces

A namespace is named by a reference in the sense of RFC 3986: a scheme or none, an authority, a path, a query
and a fragment, each from its own set of ASCII characters.
-/

namespace Sparql.Xml

open Sparql.Text

/-- A character of a path segment, not counting escapes. -/
def isSegmentChar (c : Char) : Bool := c.isAlphanum || "-._~!$&'()*+,;=:@".toList.contains c

/-- The text behind the first characters of some kind, escapes among them. -/
def behindChars (isOwn : Char → Bool) : List Char → List Char
  | '%' :: high :: low :: rest =>
    if (hexValue? high).isSome && (hexValue? low).isSome then behindChars isOwn rest
    else '%' :: high :: low :: rest
  | c :: rest => if isOwn c then behindChars isOwn rest else c :: rest
  | [] => []

/-- A character of a registered name. -/
def isRegisteredChar (c : Char) : Bool := isSegmentChar c && c ≠ ':' && c ≠ '@'

/-- The text behind the user of an authority, if there is one. -/
def behindUser (text : List Char) : List Char :=
  match behindChars (fun c => isRegisteredChar c || c = ':') text with
  | '@' :: rest => rest
  | _ => text

/-- The text behind a host. -/
def behindHost? : List Char → Option (List Char)
  | '[' :: rest =>
    match rest.dropWhile (· ≠ ']') with
    | _ :: rest => some rest
    | [] => none
  | text => some (behindChars isRegisteredChar text)

/-- The text behind an authority. A colon behind the host needs a number. -/
def behindAuthority? (text : List Char) : Option (List Char) := do
  match ← behindHost? (behindUser text) with
  | ':' :: port => if port.head?.any Char.isDigit then some (port.dropWhile Char.isDigit) else none
  | rest => some rest

/-- The text behind a path that begins with a slash or is empty, in which slashes may follow each other. -/
def behindSegments (text : List Char) : List Char :=
  if text.head? = some '/' then behindChars (fun c => isSegmentChar c || c = '/') text else text

/-- Whether a text is a query and a fragment, either of which may be lacking. -/
def isTail (text : List Char) : Bool :=
  let rest := match text with
    | '?' :: query => behindChars (fun c => isSegmentChar c || c = '/' || c = '?') query
    | _ => text
  match rest with
  | [] => true
  | '#' :: fragment => (behindChars (fun c => isSegmentChar c || "/?[]".toList.contains c) fragment).isEmpty
  | _ => false

/-- Whether a text is what follows a scheme. -/
def isHierarchy (text : List Char) : Bool :=
  match text with
  | '/' :: '/' :: rest => ((behindAuthority? rest).map behindSegments).any isTail
  | _ => isTail (behindChars (fun c => isSegmentChar c || c = '/') text)

/-- Whether a text is a scheme and what follows it. -/
def isAbsolute (text : List Char) : Bool :=
  let isOwn (c : Char) : Bool := c.isAlphanum || c = '+' || c = '-' || c = '.'
  text.head?.any Char.isAlpha && match text.dropWhile isOwn with
    | ':' :: rest => isHierarchy rest
    | _ => false

/-- Whether a text is a reference without a scheme: its first segment has no colon. -/
def isRelative (text : List Char) : Bool :=
  isHierarchy text && !(text.takeWhile fun c => c ≠ '/' && c ≠ '?' && c ≠ '#').contains ':'

/-- Whether a text is a reference. -/
def isReference (text : List Char) : Bool := isAbsolute text || isRelative text

namespace DocumentType

/-! ## Content models -/

/-- The text behind a mark that says how often something occurs, if there is one. -/
def behindMark : List Char → List Char
  | '?' :: rest => rest
  | '*' :: rest => rest
  | '+' :: rest => rest
  | text => text

/-- The name of an element or an attribute. Where references are replaced, it has one inner colon at most. -/
def declaredName? (practice : Practice) (text : List Char) : Option (List Char × List Char) :=
  (name? practice text).filter fun (name, _) =>
    practice = .referring || (name.count ':' ≤ 1 && name.head? ≠ some ':' && name.getLast? ≠ some ':')

/-- The text behind a content model inside some open groups, each with the mark between its members once
one has been seen; a member comes next or has just ended. -/
def modelFrom (practice : Practice) :
    Nat → List (Option Char) → Bool → List Char → Option (List Char)
  | 0, _, _, _ => none
  | _ + 1, [], _, text => some text
  | fuel + 1, between :: outer, true, text =>
    match skipSpace text with
    | '(' :: rest => modelFrom practice fuel (none :: between :: outer) true rest
    | next =>
      match declaredName? practice next with
      | some (_, rest) => modelFrom practice fuel (between :: outer) false (behindMark rest)
      | none => none
  | fuel + 1, between :: outer, false, text =>
    match skipSpace text with
    | ')' :: rest => modelFrom practice fuel outer false (behindMark rest)
    | c :: rest =>
      if (c = ',' || c = '|') && between.getD c = c then modelFrom practice fuel (some c :: outer) true rest
      else none
    | [] => none

/-- The text behind the names in a mixed content model, which ends in an asterisk if there are any. -/
def mixedFrom (practice : Practice) (hasNames : Bool) : Nat → List Char → Option (List Char)
  | 0, _ => none
  | fuel + 1, text =>
    match skipSpace text with
    | ')' :: '*' :: rest => some rest
    | ')' :: rest => if hasNames then none else some rest
    | '|' :: rest =>
      match declaredName? practice (skipSpace rest) with
      | some (_, rest) => mixedFrom practice true fuel rest
      | none => none
    | _ => none

/-- The text behind what an element may hold. -/
def content? (practice : Practice) (text : List Char) : Option (List Char) :=
  match text with
  | '(' :: rest =>
    match after? "#PCDATA".toList (skipSpace rest) with
    | some rest => mixedFrom practice false (rest.length + 1) rest
    | none => modelFrom practice (rest.length + 2) [none] true rest
  | _ => do
    let (word, rest) ← name? practice text
    if word = "EMPTY".toList || word = "ANY".toList then return rest else none

/-- The text behind the end of a declaration. -/
def closing? (text : List Char) : Option (List Char) :=
  match skipSpace text with
  | '>' :: rest => some rest
  | _ => none

/-- The declaration of an element. None may be declared twice where documents are checked. -/
def element? (type : DocumentType) (text : List Char) : Option (DocumentType × List Char) := do
  let (name, rest) ← declaredName? type.practice (← afterSpace? text)
  let rest ← closing? (← content? type.practice (← afterSpace? rest))
  if type.practice = .referring && type.elements.contains name then none
  return ({ type with elements := name :: type.elements }, rest)

/-! ## Attributes -/

/-- The words in a list between brackets, after some others, which stand in reverse. -/
def wordsFrom (isWord : List Char → Bool) (read : List (List Char)) :
    Nat → List Char → Option (List (List Char) × List Char)
  | 0, _ => none
  | fuel + 1, text =>
    let text := skipSpace text
    let isEnd (c : Char) : Bool := isSpace c || c = '|' || c = ')'
    let word := text.takeWhile (!isEnd ·)
    if !isWord word then none
    else match skipSpace (text.drop word.length) with
      | '|' :: rest => wordsFrom isWord (word :: read) fuel rest
      | ')' :: rest => some ((word :: read).reverse, rest)
      | _ => none

/-- Whether no two of the values are equal. -/
def allDistinct {α : Type} [BEq α] : List α → Bool
  | [] => true
  | value :: rest => !rest.contains value && allDistinct rest

/-- The text behind a list of words. None may be listed twice where documents are checked. -/
def listed? (practice : Practice) (isWord : List Char → Bool) (text : List Char) : Option (List Char) := do
  let (words, rest) ← wordsFrom isWord [] (text.length + 1) text
  if practice = .replacing || allDistinct words then return rest else none

/-- The kind of an attribute. -/
def kind? (practice : Practice) (text : List Char) : Option (AttributeKind × List Char) :=
  match text with
  | '(' :: rest => (listed? practice practice.isToken rest).map fun rest => (.token, rest)
  | _ => do
    let (word, rest) ← name? practice text
    match String.ofList word with
    | "CDATA" => return (.text, rest)
    | "ID" => return (.identifier, rest)
    | "IDREF" | "ENTITY" => return (.name, rest)
    | "IDREFS" | "ENTITIES" => return (.names, rest)
    | "NMTOKEN" => return (.token, rest)
    | "NMTOKENS" => return (.tokens, rest)
    | "NOTATION" =>
      match ← afterSpace? rest with
      | '(' :: rest =>
        let isWord (word : List Char) : Bool :=
          if practice = .replacing then practice.isSimpleName word else practice.isName word
        return (.token, ← listed? practice isWord rest)
      | _ => none
    | _ => none

/-- Whether a value is of some kind. -/
def isOfKind (practice : Practice) (kind : AttributeKind) (value : List Fragment) : Bool :=
  let characters := charactersOf value
  let words := characters.splitOn ' '
  kind = .text || (characters.length = value.length && match kind with
    | .identifier | .name => practice.isName characters
    | .names => words.all practice.isName
    | .token => practice.isToken characters
    | .tokens => words.all practice.isToken
    | .text => true)

/-- The value that an attribute has where it is not given, if any, from what is said about it. What is
written in a declaration that does not count may be anything. -/
def standard? (type : DocumentType) (kind : AttributeKind) (text : List Char) :
    Option (Option (List Fragment) × List Char) := do
  let written (text : List Char) : Option (Option (List Fragment) × List Char) := do
    let (raw, rest) ← quoted? text
    if type.isDeaf then return (none, rest)
    if raw.contains '<' then none
    let value ← (if raw.contains '&' then type.measured else type).value? kind raw
    if type.practice = .referring && !isOfKind type.practice kind value then none
    return (some value, rest)
  match text with
  | '#' :: rest =>
    let (word, rest) ← name? type.practice rest
    match String.ofList word with
    | "REQUIRED" | "IMPLIED" => return (none, rest)
    | "FIXED" => written (← afterSpace? rest)
    | _ => none
  | _ => written text

/-- Whether a rule breaks what documents are checked for: an element has one identifier at most, and
`xml:id` is one. -/
def isRuleBroken (type : DocumentType) (rule : AttributeRule) : Bool :=
  type.practice = .referring
    && ((rule.key = "xml:id".toList && rule.kind ≠ .identifier)
      || (rule.kind = .identifier && type.rules.any fun other =>
        other.element = rule.element && other.kind = .identifier && other.key ≠ rule.key))

/-- The rules for the attributes of an element. -/
def rulesFrom (element : List Char) :
    Nat → DocumentType → List Char → Option (DocumentType × List Char)
  | 0, _, _ => none
  | fuel + 1, type, text =>
    match closing? text with
    | some rest => some (type, rest)
    | none => do
      let (key, rest) ← declaredName? type.practice (← afterSpace? text)
      let (kind, rest) ← kind? type.practice (← afterSpace? rest)
      let (standard, rest) ← type.standard? kind (← afterSpace? rest)
      let rule : AttributeRule := ⟨element, key, kind, standard⟩
      if type.isRuleBroken rule then none
      else rulesFrom element fuel (type.declareRule rule) rest

/-- The declaration of the attributes of an element. -/
def attributes? (type : DocumentType) (text : List Char) : Option (DocumentType × List Char) := do
  let (element, rest) ← declaredName? type.practice (← afterSpace? text)
  rulesFrom element (rest.length + 1) type rest

/-! ## Texts and notations -/

/-- A character of a public name. -/
def isPublicChar (c : Char) : Bool :=
  c = ' ' || c = '\r' || c = '\n' || c.isAlphanum || "-'()+,./:=?;!*#@$_%".toList.contains c

/-- The address of something that stands elsewhere. Behind a public name it may be lacking where that is
allowed. -/
def address? (mayLack : Bool) (text : List Char) : Option (Option (List Char) × List Char) := do
  match afterWord? "SYSTEM" text, afterWord? "PUBLIC" text with
  | some rest, _ =>
    let (address, rest) ← quoted? rest
    return (some address, rest)
  | none, some rest =>
    let (name, rest) ← quoted? rest
    if !name.all isPublicChar then none
    match (afterSpace? rest).bind quoted? with
    | some (address, rest) => return (some address, rest)
    | none => if mayLack then return (none, rest) else none
  | none, none => none

/-- The declaration of a notation. None may be declared twice where documents are checked. -/
def notation? (type : DocumentType) (text : List Char) : Option (DocumentType × List Char) := do
  let (name, rest) ← simpleName? type.practice (← afterSpace? text)
  let (_, rest) ← address? true (← afterSpace? rest)
  let rest ← closing? rest
  if type.practice = .referring && type.notations.contains name then none
  return ({ type with notations := name :: type.notations }, rest)

/-- Reads on in a declared text after some characters, which stand in reverse, perhaps inside a reference
that begins with a mark. Numbers are replaced, and so are the names of texts that hold declarations; names
of other texts stay. -/
def declaredTextFrom (practice : Practice) (parameter? : List Char → Option (List Char)) (read : List Char)
    (reference : Option (Char × List Char)) : List Char → Option (List Char)
  | [] => if reference.isSome then none else some read.reverse
  | c :: rest =>
    match reference with
    | none =>
      if c = '&' || c = '%' then declaredTextFrom practice parameter? read (some (c, [])) rest
      else declaredTextFrom practice parameter? (c :: read) none rest
    | some (mark, name) =>
      if c ≠ ';' then declaredTextFrom practice parameter? read (some (mark, c :: name)) rest
      else match mark, name.reverse with
        | '&', '#' :: number =>
          match numbered? number with
          | some c => declaredTextFrom practice parameter? (c :: read) none rest
          | none => none
        | '&', written =>
          if practice.isName written && (practice = .referring || !written.contains ':') then
            declaredTextFrom practice parameter? (';' :: name ++ '&' :: read) none rest
          else none
        | _, written =>
          match if practice.isName written then parameter? written else none with
          | some text => declaredTextFrom practice parameter? (text.reverse ++ read) none rest
          | none => none

/-- The text that a declaration gives, from what stands between its quotes. Only inside the texts that hold
declarations may it refer to such a text; one that is not declared or stands elsewhere is empty. -/
def declaredText? (type : DocumentType) (isInside : Bool) : Nat → List Char → Option (List Char)
  | 0, _ => none
  | depth + 1, text =>
    declaredTextFrom type.practice
      (fun name =>
        if !isInside then none
        else match type.parameters.lookup name with
          | some (some text) => declaredText? type isInside depth text
          | _ => some [])
      [] none text

/-- Whether the address of a text can be one: it has no fragment and is a reference in form. -/
def isTextAddress (practice : Practice) (address : List Char) : Bool :=
  practice = .replacing || (!address.contains '#' && isReference address)

/-- What a declaration says that a name stands for. -/
def entityBody? (type : DocumentType) (isInside isParameter : Bool) (text : List Char) :
    Option (Entity × List Char) :=
  match quoted? text with
  | some (raw, rest) =>
    if type.isDeaf then some (.text [], rest)
    else (type.declaredText? isInside 20 raw).map fun value => (.text value, rest)
  | none => do
    let (address, rest) ← address? false text
    if !isTextAddress type.practice (address.getD []) then none
    match (afterSpace? rest).bind (afterWord? "NDATA") with
    | some rest =>
      let (name, rest) ← name? type.practice rest
      if isParameter || (type.practice = .replacing && name.contains ':') then none
      return (.unparsed, rest)
    | none => return (.elsewhere, rest)

/-- The declaration of a text. -/
def entity? (type : DocumentType) (isInside : Bool) (text : List Char) :
    Option (DocumentType × List Char) := do
  let rest ← afterSpace? text
  let (isParameter, rest) ← match rest with
    | '%' :: rest => (afterSpace? rest).map fun rest => (true, rest)
    | _ => some (false, rest)
  let (name, rest) ← simpleName? type.practice rest
  let (entity, rest) ← type.entityBody? isInside isParameter (← afterSpace? rest)
  let rest ← closing? rest
  if isParameter then
    let text := match entity with
      | .text value => some value
      | _ => none
    return (type.declareParameter name text, rest)
  else return (type.declareEntity name entity, rest)

/-! ## All of them -/

/-- The declaration that stands behind `<!`. -/
def declaration? (type : DocumentType) (isInside : Bool) (text : List Char) :
    Option (DocumentType × List Char) := do
  let (word, rest) ← name? type.practice text
  match String.ofList word with
  | "ELEMENT" => type.element? rest
  | "ATTLIST" => type.attributes? rest
  | "ENTITY" => type.entity? isInside rest
  | "NOTATION" => type.notation? rest
  | _ => none

/-- What comes next among declarations. -/
inductive Item where
  /-- The type with another declaration, and what stands behind it. -/
  | declared (type : DocumentType) (rest : List Char)
  /-- A reference to a text that holds declarations. -/
  | parameter (name : List Char) (rest : List Char)
  /-- The end of all declarations. -/
  | ending (rest : List Char)

/-- The next item of some declarations. -/
def item? (type : DocumentType) (isInside : Bool) (text : List Char) : Option Item :=
  match text with
  | [] => if isInside then some (.ending []) else none
  | ']' :: rest => if isInside then none else some (.ending rest)
  | '%' :: rest =>
    match simpleName? type.practice rest with
    | some (name, ';' :: rest) => some (.parameter name rest)
    | _ => none
  | '<' :: '!' :: '-' :: '-' :: rest => (comment? rest).map fun (_, rest) => .declared type rest
  | '<' :: '?' :: rest => (instruction? type.practice rest).map fun (_, rest) => .declared type rest
  | '<' :: '!' :: rest => (type.declaration? isInside rest).map fun (type, rest) => .declared type rest
  | _ => none

/-- Reads on among declarations to their end, with a way to read those that a name stands for. -/
def declarationsFrom (refer : DocumentType → List Char → Option DocumentType) (isInside : Bool) :
    Nat → DocumentType → List Char → Option (DocumentType × List Char)
  | 0, _, _ => none
  | fuel + 1, type, text =>
    match type.item? isInside (skipSpace text) with
    | none => none
    | some (.ending rest) => some (type, rest)
    | some (.declared type rest) => declarationsFrom refer isInside fuel type rest
    | some (.parameter name rest) =>
      match refer type name with
      | some type => declarationsFrom refer isInside fuel type rest
      | none => none

/-- Reads the declarations that a name stands for, inside those of some other names. Where references are
replaced, a document that says it needs no declarations from elsewhere has its own left out too. -/
def referTo : Nat → List (List Char) → DocumentType → List Char → Option DocumentType
  | 0, _, _, _ => none
  | depth + 1, outer, type, name =>
    let type := { type with isOpen := true }
    if type.practice = .replacing && type.isStandalone then some type
    else match type.parameters.lookup name with
      | some (some text) => do
        let type := { type with expansion := type.expansion + text.length + 20 }
        if outer.contains name || type.expansion > type.limit then none
        let (type, _) ← declarationsFrom (referTo depth (name :: outer)) true (text.length + 1) type text
        return type
      | some none => some type.passOver
      | none => if type.isStandalone then none else some type.passOver

/-- The document type with the declarations between its square brackets, from behind the first. -/
def subset? (type : DocumentType) (text : List Char) : Option (DocumentType × List Char) :=
  declarationsFrom (referTo 20 []) false (text.length + 1) type text

end DocumentType

/-- The document type that a text begins with, from behind its first word. -/
def documentType? (type : DocumentType) (text : List Char) : Option (DocumentType × List Char) := do
  let (_, rest) ← DocumentType.declaredName? type.practice (← afterSpace? text)
  let (isOpen, rest) ← match afterSpace? rest with
    | some next =>
      if next.head? = some '[' || next.head? = some '>' then some (false, next)
      else (DocumentType.address? false next).map fun (_, rest) => (true, skipSpace rest)
    | none => some (false, rest)
  let type := { type with isOpen }
  let (type, rest) ← match rest with
    | '[' :: rest => type.subset? rest
    | _ => some (type, rest)
  return (type.measured, ← DocumentType.closing? rest)

end Sparql.Xml
