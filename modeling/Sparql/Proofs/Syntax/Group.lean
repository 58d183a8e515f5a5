import Sparql.Proofs.Syntax.Token

/-!
# The grammar of groups

How tokens are read as a group graph pattern. Every relation here takes the tokens that are still to be read,
what is read at their beginning, and the tokens behind it. Nothing is said of how a reader would choose among
several readings: there may be none, one or many.

Four things are read as they stand: the condition of a filter and the value of a binding between their
parentheses, the cells of inline data, the names of graphs and services, and what surrounds the group of a
sub-query.
-/

namespace Sparql.Syntax

/-! ## What is read -/

/-- A path between two nodes. -/
inductive Path where
  | step (token : Token)
  /-- Any step but these, some of which are inverse. -/
  | negated (steps : List (Bool × Token))
  | inverse (path : Path)
  | repeated (path : Path) (sign : Char)
  | sequence (first second : Path)
  | alternative (first second : Path)

/-- What relates a subject to objects. -/
inductive Verb where
  | variable (token : Token)
  | path (path : Path)

/-- A subject or an object. -/
inductive Node where
  | term (token : Token)
  | collection (items : List Node)
  | anonymous (properties : List (Verb × List Node))

/-- A part of a group. -/
inductive Part where
  | triples (subject : Node) (properties : List (Verb × List Node))
  | union (branches : List (List Part))
  | optional (group : List Part)
  | minus (group : List Part)
  | graph (name : Token) (group : List Part)
  | service (silent : Bool) (name : Token) (group : List Part)
  | filter (function : Option Token) (body : List Token)
  | existence (holds : Bool) (group : List Part)
  | bind (value : List Token) (name : Token)
  | values (names : List Token) (rows : List (List Token))
  /-- A whole query: what stands before its group, the group if there is one, and what stands behind it. -/
  | query (head : List Token) (group : Option (List Part)) (tail : List Token)

/-! ## Single tokens -/

namespace Token

/-- A subject, an object or the name of a graph: also a number or a truth value. -/
def isTerm : Token → Bool
  | iri _ | «variable» _ | blank _ | literal _ => true
  | word text => text.contains ':' || text.head?.any Char.isDigit || text = "true".toList || text = "false".toList
  | keyword _ | mark _ => false

/-- A step of a path. -/
def isStep : Token → Bool
  | iri _ => true
  | word text => text.contains ':' || text = ['a']
  | _ => false

/-- A variable. -/
def isVariable : Token → Bool
  | «variable» _ => true
  | _ => false

/-- The name of a function. -/
def isFunction : Token → Bool
  | iri _ | word _ => true
  | _ => false

/-- A cell of inline data. -/
def isCell : Token → Bool
  | mark _ => false
  | _ => true

/-- A keyword that a query begins with. -/
def startsQuery : Token → Bool
  | keyword .base | keyword .prologue | keyword .ask | keyword .select | keyword .construct
  | keyword .describe => true
  | _ => false

end Token

/-! ## Brackets -/

/-- How many brackets are open behind some tokens, unless one is closed that is not open. -/
def depthAfter (opening closing : Char) : Nat → List Token → Option Nat
  | depth, [] => some depth
  | depth, token :: rest =>
    if token = .mark opening then depthAfter opening closing (depth + 1) rest
    else if token = .mark closing then
      match depth with
      | 0 => none
      | depth + 1 => depthAfter opening closing depth rest
    else depthAfter opening closing depth rest

/-- Every bracket is closed behind its opening. -/
def IsBalanced (opening closing : Char) (tokens : List Token) : Prop :=
  depthAfter opening closing 0 tokens = some 0

instance (opening closing : Char) (tokens : List Token) : Decidable (IsBalanced opening closing tokens) :=
  inferInstanceAs (Decidable (_ = _))

/-- Tokens between braces. -/
def braced (tokens : List Token) : List Token := .mark '{' :: (tokens ++ [.mark '}'])

/-- Tokens between parentheses. -/
def bracketed (tokens : List Token) : List Token := .mark '(' :: (tokens ++ [.mark ')'])

/-- What stands before the bracket that closes it. -/
def Enclosed (opening closing : Char) (input body rest : List Token) : Prop :=
  input = body ++ .mark closing :: rest ∧ IsBalanced opening closing body

/-- Tokens of one kind before a closing bracket. -/
def Listed (isItem : Token → Bool) (closing : Char) (input items rest : List Token) : Prop :=
  input = items ++ .mark closing :: rest ∧ items.all isItem

/-! ## Triples -/

/-- A step that a path excludes. -/
inductive ReadsExclusion : List Token → Bool × Token → List Token → Prop
  | step {token : Token} {rest : List Token} :
      token.isStep → ReadsExclusion (token :: rest) (false, token) rest
  | inverse {token : Token} {rest : List Token} :
      token.isStep → ReadsExclusion (.mark '^' :: token :: rest) (true, token) rest

/-- The steps that a path excludes, at least one. -/
inductive ReadsExclusions : List Token → List (Bool × Token) → List Token → Prop
  | last {input rest : List Token} {step : Bool × Token} :
      ReadsExclusion input step rest → ReadsExclusions input [step] rest
  | more {input middle rest : List Token} {step : Bool × Token} {steps : List (Bool × Token)} :
      ReadsExclusion input step (.mark '|' :: middle) → ReadsExclusions middle steps rest →
      ReadsExclusions input (step :: steps) rest

/-- The kinds of paths by what binds them, the loosest first. -/
inductive PathLevel where
  | alternative
  | sequence
  | inverse
  | repeated
  | primary

/-- A path that is bound at least as tightly as a level says. -/
inductive ReadsPath : PathLevel → List Token → Path → List Token → Prop
  | step {token : Token} {rest : List Token} :
      token.isStep → ReadsPath .primary (token :: rest) (.step token) rest
  | exclusion {input rest : List Token} {step : Bool × Token} :
      ReadsExclusion input step rest → ReadsPath .primary (.mark '!' :: input) (.negated [step]) rest
  | noExclusion {rest : List Token} :
      ReadsPath .primary (.mark '!' :: .mark '(' :: .mark ')' :: rest) (.negated []) rest
  | exclusions {input rest : List Token} {steps : List (Bool × Token)} :
      ReadsExclusions input steps (.mark ')' :: rest) →
      ReadsPath .primary (.mark '!' :: .mark '(' :: input) (.negated steps) rest
  | bracketed {input rest : List Token} {path : Path} :
      ReadsPath .alternative input path (.mark ')' :: rest) →
      ReadsPath .primary (.mark '(' :: input) path rest
  | primary {input rest : List Token} {path : Path} :
      ReadsPath .primary input path rest → ReadsPath .repeated input path rest
  | repeated {input rest : List Token} {path : Path} {sign : Char} :
      ReadsPath .primary input path (.mark sign :: rest) → sign ∈ ['?', '*', '+'] →
      ReadsPath .repeated input (.repeated path sign) rest
  | forward {input rest : List Token} {path : Path} :
      ReadsPath .repeated input path rest → ReadsPath .inverse input path rest
  | inverse {input rest : List Token} {path : Path} :
      ReadsPath .repeated input path rest → ReadsPath .inverse (.mark '^' :: input) (.inverse path) rest
  | lastInSequence {input rest : List Token} {path : Path} :
      ReadsPath .inverse input path rest → ReadsPath .sequence input path rest
  | sequence {input middle rest : List Token} {first second : Path} :
      ReadsPath .inverse input first (.mark '/' :: middle) → ReadsPath .sequence middle second rest →
      ReadsPath .sequence input (.sequence first second) rest
  | lastAlternative {input rest : List Token} {path : Path} :
      ReadsPath .sequence input path rest → ReadsPath .alternative input path rest
  | alternative {input middle rest : List Token} {first second : Path} :
      ReadsPath .sequence input first (.mark '|' :: middle) → ReadsPath .alternative middle second rest →
      ReadsPath .alternative input (.alternative first second) rest

/-- A variable or a path. -/
inductive ReadsVerb : List Token → Verb → List Token → Prop
  | variable {token : Token} {rest : List Token} :
      token.isVariable → ReadsVerb (token :: rest) (.variable token) rest
  | path {input rest : List Token} {path : Path} :
      ReadsPath .alternative input path rest → ReadsVerb input (.path path) rest

mutual

/-- A term, a collection or a node without a name. -/
inductive ReadsNode : List Token → Node → List Token → Prop
  | term {token : Token} {rest : List Token} :
      token.isTerm → ReadsNode (token :: rest) (.term token) rest
  | collection {input rest : List Token} {items : List Node} :
      ReadsNodes input items (.mark ')' :: rest) → ReadsNode (.mark '(' :: input) (.collection items) rest
  | anonymous {rest : List Token} : ReadsNode (.mark '[' :: .mark ']' :: rest) (.anonymous []) rest
  | described {input rest : List Token} {properties : List (Verb × List Node)} :
      ReadsProperties input properties (.mark ']' :: rest) →
      ReadsNode (.mark '[' :: input) (.anonymous properties) rest

/-- The items of a collection. -/
inductive ReadsNodes : List Token → List Node → List Token → Prop
  | nil {input : List Token} : ReadsNodes input [] input
  | cons {input middle rest : List Token} {node : Node} {nodes : List Node} :
      ReadsNode input node middle → ReadsNodes middle nodes rest → ReadsNodes input (node :: nodes) rest

/-- The objects of a verb, with commas between them. -/
inductive ReadsObjects : List Token → List Node → List Token → Prop
  | last {input rest : List Token} {object : Node} :
      ReadsNode input object rest → ReadsObjects input [object] rest
  | more {input middle rest : List Token} {object : Node} {objects : List Node} :
      ReadsNode input object (.mark ',' :: middle) → ReadsObjects middle objects rest →
      ReadsObjects input (object :: objects) rest

/-- The verbs of a subject, each with its objects. -/
inductive ReadsProperties : List Token → List (Verb × List Node) → List Token → Prop
  | cons {input middle after rest : List Token} {verb : Verb} {objects : List Node}
      {properties : List (Verb × List Node)} :
      ReadsVerb input verb middle → ReadsObjects middle objects after →
      ReadsMore after properties rest → ReadsProperties input ((verb, objects) :: properties) rest

/-- Further verbs of a subject, each behind one or more semicolons. -/
inductive ReadsMore : List Token → List (Verb × List Node) → List Token → Prop
  | nil {input : List Token} : ReadsMore input [] input
  | skip {input rest : List Token} {properties : List (Verb × List Node)} :
      ReadsMore input properties rest → ReadsMore (.mark ';' :: input) properties rest
  | properties {input rest : List Token} {properties : List (Verb × List Node)} :
      ReadsProperties input properties rest → ReadsMore (.mark ';' :: input) properties rest

end

/-- Whether a node says something by itself. -/
def Node.isStatement : Node → Bool
  | collection (_ :: _) | anonymous (_ :: _) => true
  | _ => false

/-- A subject with its verbs. -/
inductive ReadsTriples : List Token → Part → List Token → Prop
  | properties {input middle rest : List Token} {subject : Node} {properties : List (Verb × List Node)} :
      ReadsNode input subject middle → ReadsProperties middle properties rest →
      ReadsTriples input (.triples subject properties) rest
  | node {input rest : List Token} {subject : Node} :
      ReadsNode input subject rest → subject.isStatement → ReadsTriples input (.triples subject []) rest

/-- Triples with stops between them and perhaps behind the last. -/
inductive ReadsBlock : List Token → List Part → List Token → Prop
  | last {input rest : List Token} {part : Part} :
      ReadsTriples input part rest → ReadsBlock input [part] rest
  | stopped {input rest : List Token} {part : Part} :
      ReadsTriples input part (.mark '.' :: rest) → ReadsBlock input [part] rest
  | more {input middle rest : List Token} {part : Part} {block : List Part} :
      ReadsTriples input part (.mark '.' :: middle) → ReadsBlock middle block rest →
      ReadsBlock input (part :: block) rest

/-! ## Groups -/

/-- Rows of cells, each in parentheses, before a closing brace. -/
inductive ReadsRows : List Token → List (List Token) → List Token → Prop
  | nil {rest : List Token} : ReadsRows (.mark '}' :: rest) [] rest
  | cons {input middle rest cells : List Token} {rows : List (List Token)} :
      Listed Token.isCell ')' input cells middle → ReadsRows middle rows rest →
      ReadsRows (.mark '(' :: input) (cells :: rows) rest

/-- What may stand before the group of a query: no brace is left open, and no group stands there already. -/
structure IsHead (head : List Token) : Prop where
  balanced : IsBalanced '{' '}' head
  groupless : ∀ before after, head = before ++ .keyword .where :: .mark '{' :: after →
    ¬ IsBalanced '{' '}' before

mutual

/-- A group in braces: its parts, or a query. -/
inductive ReadsGroup : List Token → List Part → List Token → Prop
  | parts {input rest : List Token} {parts : List Part} :
      ReadsParts input parts (.mark '}' :: rest) → ReadsGroup (.mark '{' :: input) parts rest
  | query {first : Token} {input rest : List Token} {query : Part} :
      first.startsQuery → ReadsQuery (first :: input) query rest →
      ReadsGroup (.mark '{' :: first :: input) [query] rest

/-- A query up to the brace that closes it. -/
inductive ReadsQuery : List Token → Part → List Token → Prop
  | around {input middle after rest head tail : List Token} {group : List Part} :
      input = head ++ .keyword .where :: middle → IsHead head → ReadsGroup middle group after →
      Enclosed '{' '}' after tail rest → ReadsQuery input (.query head (some group) tail) rest
  | bare {input rest head : List Token} :
      Enclosed '{' '}' input head rest → IsHead head → ReadsQuery input (.query head none []) rest

/-- Triples, if there are any, and then other parts. -/
inductive ReadsParts : List Token → List Part → List Token → Prop
  | triples {input middle rest : List Token} {block others : List Part} :
      ReadsBlock input block middle → ReadsOthers middle others rest → ReadsParts input (block ++ others) rest
  | others {input rest : List Token} {others : List Part} :
      ReadsOthers input others rest → ReadsParts input others rest

/-- Parts of which the first is not triples. A stop may stand behind it. -/
inductive ReadsOthers : List Token → List Part → List Token → Prop
  | nil {input : List Token} : ReadsOthers input [] input
  | part {input middle rest : List Token} {part : Part} {others : List Part} :
      ReadsPart input part middle → ReadsParts middle others rest → ReadsOthers input (part :: others) rest
  | stopped {input middle rest : List Token} {part : Part} {others : List Part} :
      ReadsPart input part (.mark '.' :: middle) → ReadsParts middle others rest →
      ReadsOthers input (part :: others) rest

/-- A group, or several with the keyword of unions between them. -/
inductive ReadsBranches : List Token → List (List Part) → List Token → Prop
  | last {input rest : List Token} {group : List Part} :
      ReadsGroup input group rest → ReadsBranches input [group] rest
  | more {input middle rest : List Token} {group : List Part} {branches : List (List Part)} :
      ReadsGroup input group (.keyword .union :: middle) → ReadsBranches middle branches rest →
      ReadsBranches input (group :: branches) rest

/-- A part that is not triples. -/
inductive ReadsPart : List Token → Part → List Token → Prop
  | union {input rest : List Token} {branches : List (List Part)} :
      ReadsBranches input branches rest → ReadsPart input (.union branches) rest
  | optional {input rest : List Token} {group : List Part} :
      ReadsGroup input group rest → ReadsPart (.keyword .optional :: input) (.optional group) rest
  | minus {input rest : List Token} {group : List Part} :
      ReadsGroup input group rest → ReadsPart (.keyword .minus :: input) (.minus group) rest
  | graph {name : Token} {input rest : List Token} {group : List Part} :
      name.isTerm → ReadsGroup input group rest →
      ReadsPart (.keyword .graph :: name :: input) (.graph name group) rest
  | service {name : Token} {input rest : List Token} {group : List Part} :
      name.isTerm → ReadsGroup input group rest →
      ReadsPart (.keyword .service :: name :: input) (.service false name group) rest
  | silentService {name : Token} {input rest : List Token} {group : List Part} :
      name.isTerm → ReadsGroup input group rest →
      ReadsPart (.keyword .service :: .keyword .silent :: name :: input) (.service true name group) rest
  | filter {input rest body : List Token} :
      Enclosed '(' ')' input body rest →
      ReadsPart (.keyword .filter :: .mark '(' :: input) (.filter none body) rest
  | filterCall {function : Token} {input rest body : List Token} :
      function.isFunction → Enclosed '(' ')' input body rest →
      ReadsPart (.keyword .filter :: function :: .mark '(' :: input) (.filter (some function) body) rest
  | existence {input rest : List Token} {group : List Part} :
      ReadsGroup input group rest →
      ReadsPart (.keyword .filter :: .keyword .exists :: input) (.existence true group) rest
  | nonexistence {input rest : List Token} {group : List Part} :
      ReadsGroup input group rest →
      ReadsPart (.keyword .filter :: .keyword .not :: .keyword .exists :: input) (.existence false group) rest
  | bind {input rest value : List Token} {name : Token} :
      name.isVariable → Enclosed '(' ')' input (value ++ [.keyword .as, name]) rest →
      ReadsPart (.keyword .bind :: .mark '(' :: input) (.bind value name) rest
  | column {name : Token} {input rest cells : List Token} :
      name.isVariable → Listed Token.isCell '}' input cells rest →
      ReadsPart (.keyword .values :: name :: .mark '{' :: input) (.values [name] (cells.map ([·]))) rest
  | values {input middle rest names : List Token} {rows : List (List Token)} :
      Listed Token.isVariable ')' input names (.mark '{' :: middle) → ReadsRows middle rows rest →
      ReadsPart (.keyword .values :: .mark '(' :: input) (.values names rows) rest

end

/-- Whether a text is a group that reads as the given parts. -/
def ReadsAs (text : String) (parts : List Part) : Prop :=
  ∃ tokens, lex text.toList = some tokens ∧ ReadsGroup tokens parts []

end Sparql.Syntax
