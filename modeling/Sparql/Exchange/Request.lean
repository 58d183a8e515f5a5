import Sparql.Exchange.Wire
import Sparql.Settings.Basic
import Sparql.Text.Basic
import Sparql.Text.Case
import Sparql.Text.Hex
import Sparql.Text.Utf8

/-!
# Requests

How an exchange becomes a request. Parameters go into the address of a GET and into the body of a POST;
the headers that the protocol needs are written after the configured ones.
-/

/-!
## Form data

Parameters as the text of a request: names and values with all but unreserved characters escaped byte by
byte, a plus sign for a space, and ampersands between the parameters.
-/

namespace Sparql.FormData

/-- A byte that stands for itself. -/
def isUnreserved (byte : UInt8) : Bool :=
  let code := byte.toNat
  (48 ≤ code && code ≤ 57) || (65 ≤ code && code ≤ 90) || (97 ≤ code && code ≤ 122)
    || code == 45 || code == 46 || code == 95 || code == 126

/-- The escaped form of a byte. -/
def escapeByte (byte : UInt8) : List Char :=
  if isUnreserved byte then [Char.ofNat byte.toNat]
  else if byte = 32 then ['+']
  else ['%', Text.hexUpper (byte.toNat / 16), Text.hexUpper (byte.toNat % 16)]

/-- The escaped form of a text. -/
def escape (text : List Char) : List Char := (Text.Utf8.encodeChars text).flatMap escapeByte

/-- One parameter. -/
def parameter (name value : String) : String :=
  String.ofList (escape name.toList ++ '=' :: escape value.toList)

/-- All parameters. -/
def encode (parameters : List (String × String)) : String :=
  String.intercalate "&" (parameters.map fun (name, value) => parameter name value)

end Sparql.FormData

namespace Sparql

open Sparql.Text

/-! ## Addresses -/

namespace Address

/-- The text inside angle brackets, if it stands in some. -/
def unbracket (text : List Char) : List Char :=
  match text with
  | '<' :: rest => if text.getLast? = some '>' then trim rest.dropLast else text
  | _ => text

/-- The text after the mark of an address, if there is one. -/
def dropMark : List Char → List Char
  | 'U' :: 'R' :: 'L' :: ':' :: rest => trim rest
  | text => text

/-- The bare address: without blanks, brackets and mark around it. -/
def unwrap (text : List Char) : List Char := dropMark (unbracket (trim text))

/-- The text without an empty fragment at its end. -/
def dropEmptyFragment (text : List Char) : List Char :=
  if text.getLast? = some '#' then text.dropLast else text

/-- The address without its last fragment. -/
def dropFragment (text : List Char) : List Char :=
  if text.contains '#' then ((text.reverse.dropWhile (· ≠ '#')).drop 1).reverse else text

/-- Whether the address begins with a scheme and a colon. -/
def hasScheme (text : List Char) : Bool :=
  let scheme := text.takeWhile fun c => c ≠ '/' && c ≠ ':'
  !scheme.isEmpty && (text.drop scheme.length).head? = some ':'

/-- The address under which a request is sent. One without a scheme makes no sense. -/
def resolve (url : String) : Outcome String :=
  let bare := unwrap url.toList
  if hasScheme (dropFragment bare) then .ok (String.ofList (dropEmptyFragment bare))
  else misuse .badValue

end Address

/-! ## Headers -/

/-- Headers with one more under a name: an equal name keeps its place and takes the new value. -/
def setHeader (name : String) (value : Value) : List (String × Value) → List (String × Value)
  | [] => [(name, value)]
  | (n, v) :: rest => if n = name then (n, value) :: rest else (n, v) :: setHeader name value rest

/-- The name under which a header is sent. Only texts have one. -/
def headerName (key : Value) : Outcome String :=
  match key.text? with
  | some name => .ok (capitalized name)
  | none => misuse .noSuchOperation

/-- The headers as they are sent: those with the same name once, with the last value. -/
def sentHeaders (headers : List (Value × Value)) : Outcome (List (String × Value)) :=
  headers.foldlM (fun sent (key, value) => do
    let name ← headerName key
    return setHeader name value sent) []

/-- Headers in the order of their names. -/
def sortHeaders (headers : List (String × Value)) : List (String × Value) :=
  headers.mergeSort fun a b => a.1 ≤ b.1

/-- The configured headers between the client's name and what it accepts. -/
def configuredHeaders (settings : Settings) (accept : Option String) : Outcome (List (Value × Value)) := do
  let configured ← match settings.headers with
    | .map entries => .ok entries
    | _ => misuse .wrongKind
  let insertAll := configured.foldl (fun sum (key, value) => Value.insertEntry key value sum)
  let headers := insertAll [(.text "User-Agent", settings.userAgent)]
  return match accept with
    | some accept => Value.insertEntry (.text "Accept") (.text accept) headers
    | none => headers

/-- The content type of a posted form. -/
def formContentType : String := "application/x-www-form-urlencoded"

namespace Request

/-- The request that carries some parameters to an address. -/
def build (settings : Settings) (url : String) (parameters : List (String × String)) (method : HttpMethod)
    (accept : Option String) : Outcome Request := do
  let encoded := FormData.encode parameters
  let headers ← configuredHeaders settings accept
  match method with
  | .get =>
    let separator := if url.toList.contains '?' then "&" else "?"
    let url ← Address.resolve (url ++ separator ++ encoded)
    let sent ← sentHeaders headers
    return ⟨.get, url, none, settings.timeout, sortHeaders sent⟩
  | .post =>
    let url ← Address.resolve url
    let sent ← sentHeaders (Value.insertEntry (.text "Content-Type") (.text formContentType) headers)
    return ⟨.post, url, some encoded, settings.timeout, sortHeaders sent⟩

end Request

end Sparql
