import Sparql.Json.Token
import Sparql.Value.Equality

/-!
# JSON documents

A document is read token by token, with the lists and mappings that are still open on a stack. Of members
with the same name the last one counts, at the place of the first.
-/

namespace Sparql.Json

/-- Why a text is no document. -/
inductive DocumentError where
  /-- It breaks the grammar. -/
  | malformed
  /-- It holds an integer of more digits than are read. -/
  | oversizedNumber
  /-- Its lists and mappings stand too deep inside each other. -/
  | tooDeep
deriving DecidableEq, Repr

/-- A list or a mapping that is open. The items of a list stand in reverse; in a mapping the name of the
member whose value is open stands beside the members before it. -/
inductive Frame where
  | list (items : List Value)
  | map (entries : List (Value × Value)) (name : String)
deriving Repr

/-- What may come next. -/
inductive Expectation where
  /-- A value, or in an empty list its end. -/
  | value (orEnd : Bool)
  /-- The name of a member, or in an empty mapping its end, after the given members. -/
  | name (entries : List (Value × Value)) (orEnd : Bool)
  /-- The colon after a name. -/
  | colon (entries : List (Value × Value)) (name : String)
  /-- What follows a complete value. -/
  | after (value : Value)
deriving Repr

/-- How far the reading has come. -/
structure Progress where
  stack : List Frame
  expected : Expectation
deriving Repr

namespace Progress

/-- A single value that is no list and no mapping. -/
def scalar? : Token → Option Value
  | .null => some .null
  | .bool value => some (.bool value)
  | .int value => some (.int value)
  | .float value => some (.float value)
  | .text value => some (.text value)
  | _ => none

/-- The progress after a value has begun with a token. -/
def beginValue (stack : List Frame) (orEnd : Bool) (token : Token) : Option Progress :=
  match token with
  | .openList => some ⟨.list [] :: stack, .value true⟩
  | .openMap => some ⟨stack, .name [] true⟩
  | .closeList =>
    match stack, orEnd with
    | .list items :: below, true => some ⟨below, .after (.list items.reverse)⟩
    | _, _ => none
  | token => (scalar? token).map fun value => ⟨stack, .after value⟩

/-- The progress after a token that follows a complete value. -/
def continueAfter (stack : List Frame) (value : Value) (token : Token) : Option Progress :=
  match stack, token with
  | .list items :: below, .comma => some ⟨.list (value :: items) :: below, .value false⟩
  | .list items :: below, .closeList => some ⟨below, .after (.list (value :: items).reverse)⟩
  | .map entries name :: below, .comma =>
    some ⟨below, .name (Value.insertEntry (.text name) value entries) false⟩
  | .map entries name :: below, .closeMap =>
    some ⟨below, .after (.map (Value.insertEntry (.text name) value entries))⟩
  | _, _ => none

/-- The progress after one more token. -/
def step (progress : Progress) (token : Token) : Option Progress :=
  match progress.expected, token with
  | .value orEnd, token => beginValue progress.stack orEnd token
  | .name entries _, .text name => some ⟨progress.stack, .colon entries name⟩
  | .name entries true, .closeMap => some ⟨progress.stack, .after (.map entries)⟩
  | .colon entries name, .colon => some ⟨.map entries name :: progress.stack, .value false⟩
  | .after value, token => continueAfter progress.stack value token
  | _, _ => none

/-- How many lists and mappings may stand inside each other. -/
def deepest : Nat := 985

/-- Why a document cannot go on with a token. -/
def refusal? (progress : Progress) (token : Token) : Option DocumentError :=
  match progress.expected, token with
  | .value _, .openList | .value _, .openMap => if deepest ≤ progress.stack.length then some .tooDeep else none
  | _, _ => none

/-- Reads on to the end. -/
def run (progress : Progress) : List Token → Except DocumentError Value
  | [] =>
    match progress with
    | ⟨[], .after value⟩ => .ok value
    | _ => .error .malformed
  | token :: rest =>
    match progress.refusal? token, progress.step token with
    | some error, _ => .error error
    | none, some next => next.run rest
    | none, none => .error (if token = .oversized then .oversizedNumber else .malformed)

end Progress

/-- The value of a document. -/
def parse (text : List Char) : Except DocumentError Value :=
  Progress.run ⟨[], .value false⟩ (tokens text)

end Sparql.Json
