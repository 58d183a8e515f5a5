import Sparql.Json.Token
import Sparql.Value.Display

/-!
# Writing JSON

The text of a value that is made of nothing, truth values, integers, texts, lists and mappings with textual
names. What is none of these is written as its plain text.
-/

namespace Sparql.Json

open Sparql.Text

/-- A character between quotes. Quotes, backslashes and control characters are escaped. -/
def escapeChar (c : Char) : List Char :=
  if c = '"' then ['\\', '"']
  else if c = '\\' then ['\\', '\\']
  else if c.toNat < 32 then '\\' :: 'u' :: hexDigits 4 c.toNat
  else [c]

/-- A text between quotes. -/
def quoteText (text : List Char) : List Char := '"' :: text.flatMap escapeChar ++ ['"']

mutual

/-- The text of a value. -/
def write : Value → List Char
  | .null => "null".toList
  | .bool value => if value then "true".toList else "false".toList
  | .int value => (toString value).toList
  | .list items => '[' :: writeItems items
  | .map entries => '\x7b' :: writeEntries entries
  | value => quoteText value.toText.toList

/-- The items of a list and its end. -/
def writeItems : List Value → List Char
  | [] => [']']
  | [value] => write value ++ [']']
  | value :: rest => write value ++ ',' :: writeItems rest

/-- The members of a mapping and its end. -/
def writeEntries : List (Value × Value) → List Char
  | [] => ['\x7d']
  | [(name, value)] => quoteText name.toText.toList ++ ':' :: write value ++ ['\x7d']
  | (name, value) :: rest =>
    quoteText name.toText.toList ++ ':' :: write value ++ ',' :: writeEntries rest

end

/-! ## Canonical JSON

One text for a value: no blanks between its parts, the members of mappings in the order of their names, and
no escapes but those that are needed, the short ones where there are any.
-/

namespace Canonical

/-- A character between quotes. -/
def escapeChar (c : Char) : List Char :=
  match c with
  | '"' => ['\\', '"']
  | '\\' => ['\\', '\\']
  | '\n' => ['\\', 'n']
  | '\r' => ['\\', 'r']
  | '\t' => ['\\', 't']
  | '\x08' => ['\\', 'b']
  | '\x0C' => ['\\', 'f']
  | c => if c.toNat < 32 then '\\' :: 'u' :: hexDigits 4 c.toNat else [c]

/-- A text between quotes. -/
def quote (text : String) : String := String.ofList ('"' :: text.toList.flatMap escapeChar ++ ['"'])

/-- The text of a number that need not be finite. -/
def ofDouble (value : Double) : String :=
  match value with
  | .nan => "NaN"
  | .infinite isNegative => if isNegative then "-Infinity" else "Infinity"
  | value => value.toText

/-- Members put in the order of their names. -/
def sorted (members : List (String × String)) : List (String × String) :=
  members.mergeSort fun a b => a.1 ≤ b.1

mutual

/-- The text of a value. What documents do not hold is written as its plain text. -/
def write : Value → String
  | .null => "null"
  | .bool value => if value then "true" else "false"
  | .int value => toString value
  | .float value => ofDouble value
  | .list items => "[" ++ String.intercalate "," (writeAll items) ++ "]"
  | .map entries =>
    let members := (sorted (writeEntries entries)).map fun (name, value) => quote name ++ ":" ++ value
    "\x7b" ++ String.intercalate "," members ++ "\x7d"
  | value => quote value.toText

/-- The texts of some values. -/
def writeAll : List Value → List String
  | [] => []
  | value :: rest => write value :: writeAll rest

/-- The names of some members and the texts of their values. -/
def writeEntries : List (Value × Value) → List (String × String)
  | [] => []
  | (name, value) :: rest => (name.toText, write value) :: writeEntries rest

end

end Canonical

end Sparql.Json
