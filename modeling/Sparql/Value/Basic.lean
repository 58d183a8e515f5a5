import Sparql.Calendar.Basic
import Sparql.Fault
import Sparql.Number.Decimal
import Sparql.Number.Shortest
import Sparql.Term.Pattern

/-!
# Loose values

Arguments of builder calls, fields of a configuration and the contents of a JSON document are values of
many kinds. The library accepts what can be understood and refuses the rest by name, so it needs one type
for all of them.
-/

namespace Sparql

/-- A shared object of a session, by its number. -/
inductive ObjectRef where
  | query (index : Nat)
  | group (index : Nat)
  | operation (index : Nat)
  | client
deriving DecidableEq, Repr

/-- How an object looks where something else quotes it. -/
structure Appearance where
  /-- The name of its kind. -/
  kind : String
  /-- What messages show of it, if it can be shown. -/
  display : Except Fault String
  /-- Its own text, if it has one. -/
  text : Except Fault String
deriving Repr

/-- A value whose kind is known only when it is looked at. -/
inductive Value where
  | null
  | bool (value : Bool)
  | int (value : Int)
  | float (value : Double)
  | decimal (value : Decimal)
  | text (value : String)
  | bytes (value : List UInt8)
  | date (value : Date)
  | time (value : TimeOfDay)
  | moment (value : Moment)
  | term (value : Term)
  | list (items : List Value)
  | tuple (items : List Value)
  | set (items : List Value)
  | map (entries : List (Value × Value))
  | pattern (value : Pattern)
  | branch (value : BindBranch)
  | graph (statements : List Statement)
  | object (ref : ObjectRef) (looks : Appearance)
  /-- What a call gave back: a key, a row or a result. -/
  | answer (looks : Appearance) (truth : Bool) (elements : Option (List Value))
deriving Repr, Inhabited

namespace Value

/-- The text of a string or of any term; other values have none. -/
def text? : Value → Option String
  | .text value => some value
  | .term value => some value.plainText
  | _ => none

/-- The characters in which a value can write a number: those of its text, or of bytes that are ASCII. The
separators among the control characters are blanks in a text only. -/
def numeral? : Value → Option (List Char)
  | .bytes value =>
    if value.any fun byte => 128 ≤ byte || (28 ≤ byte && byte ≤ 31) then none
    else some (value.map fun byte => Char.ofNat byte.toNat)
  | value => value.text?.map String.toList

/-- The items of a list, a tuple or a pattern. -/
def items? : Value → Option (List Value)
  | .list items => some items
  | .tuple items => some items
  | .pattern p => some (p.terms.map .term)
  | _ => none

/-- Whether the value can stand for a triple pattern: a list, a tuple or a pattern. -/
def isPatternLike (value : Value) : Bool := value.items?.isSome

/-- The entries of a mapping. -/
def entries? : Value → Option (List (Value × Value))
  | .map entries => some entries
  | _ => none

/-- The characters of a text as values. -/
def characters (text : String) : List Value := text.toList.map fun c => .text (String.singleton c)

/-- What iterating over the value yields; numbers, moments and nothing cannot be iterated. -/
def elements? : Value → Option (List Value)
  | .list items | .tuple items | .set items => some items
  | .map entries => some (entries.map (·.1))
  | .text value => some (characters value)
  | .bytes value => some (value.map fun b => .int b.toNat)
  | .term value => some (characters value.plainText)
  | .pattern p => some (p.terms.map .term)
  | .graph statements =>
    some (statements.map fun s => .tuple [.term s.subject, .term s.predicate, .term s.object])
  | .answer _ _ elements => elements
  | _ => none

/-- Whether a query object stands here. -/
def isQuery : Value → Bool
  | .object (.query _) _ => true
  | _ => false

/-- Whether the value counts as true: not zero, not empty, not false and not nothing. -/
def truth : Value → Bool
  | .null => false
  | .bool value => value
  | .int value => value != 0
  | .float value => !value.isZero
  | .decimal value => !value.isZero
  | .text value => value ≠ ""
  | .bytes value => !value.isEmpty
  | .term (.literal value) => !value.denotesNothing
  | .term value => value.plainText ≠ ""
  | .list items | .tuple items | .set items => !items.isEmpty
  | .map entries => !entries.isEmpty
  | .graph statements => !statements.isEmpty
  | .answer _ truth _ => truth
  | .date _ | .time _ | .moment _ | .pattern _ | .branch _ | .object .. => true

end Value

end Sparql
