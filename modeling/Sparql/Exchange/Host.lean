import Sparql.Exchange.Wire
import Sparql.Number.Reading

/-!
# The machine below an exchange

Requests and pauses are left to the machine that the program runs on. It may refuse either before anything
happens: a time that it cannot wait, or a header that cannot be written. No check of the library catches that,
so it ends the exchange by misuse.
-/

namespace Sparql

/-- What a machine refuses. -/
structure Host where
  /-- Why a request is not sent, if it is not. -/
  sendFault? : Request → Option Fault := fun _ => none
  /-- Why a pause is not made, if it is not. -/
  pauseFault? : Value → Option Fault := fun _ => none

instance : Repr Host := ⟨fun _ _ => .text "host"⟩

namespace Exchange

/-- Sends a request and waits for the answer. -/
def ask (host : Host) (request : Request) : Exchange (Option Answer) :=
  match host.sendFault? request with
  | some cause => fail (.fault cause)
  | none => do
    emit (.request request)
    receive

/-- Pauses. -/
def pause (host : Host) (delay : Value) : Exchange Unit :=
  match host.pauseFault? delay with
  | some cause => fail (.fault cause)
  | none => emit (.sleep delay)

end Exchange

/-!
## An interpreter

An interpreter takes integers and floating-point numbers for times, up to a limit. It writes headers byte by
byte, so their values must be of characters below 256, and without the end of a line unless a blank follows.
What it makes of the names of headers and of addresses is not told here.
-/

namespace Host

/-- Why a time in seconds is refused, if it is. -/
def timeFault? (limit : Nat) (time : Value) : Option Fault :=
  match time with
  | .bool _ => none
  | .int seconds =>
    if limit < seconds.natAbs then some .overflow
    else if seconds < 0 then some .badValue
    else none
  | .float seconds =>
    match seconds.truncate? with
    | none => some (if seconds.isInfinite then .overflow else .badValue)
    | some whole =>
      if limit < whole.natAbs then some .overflow
      else if seconds.isNegative then some .badValue
      else none
  | _ => some .wrongKind

/-- Whether a character continues the line before it. -/
def continuesLine (c : Char) : Bool := c = ' ' || c = '\t'

/-- Whether a line ends in a text and is not continued. -/
def hasLineEnd : List Char → Bool
  | [] => false
  | '\n' :: rest => !rest.head?.any continuesLine || hasLineEnd rest
  | '\r' :: rest => !rest.head?.any (fun c => continuesLine c || c = '\n') || hasLineEnd rest
  | _ :: rest => hasLineEnd rest

/-- Why a written value of a header is refused, if it is. -/
def writtenFault? (value : List Char) : Option Fault :=
  if value.any fun c => 256 ≤ c.toNat then some .unencodable
  else if hasLineEnd value then some .badValue
  else none

/-- Why the value of a header is refused, if it is. -/
def headerFault? (value : Value) : Option Fault :=
  match value with
  | .bool _ => none
  | .int number => if Number.isLong number then some .badValue else none
  | .bytes bytes => writtenFault? (bytes.map fun byte => Char.ofNat byte.toNat)
  | _ =>
    match value.text? with
    | some text => writtenFault? text.toList
    | none => some .wrongKind

/-- Why a limit of the time for an answer is refused, if it is. There need not be one. -/
def timeoutFault? (limit : Nat) (timeout : Value) : Option Fault :=
  match timeout with
  | .null => none
  | time => timeFault? limit time

/-- An interpreter that waits for answers and pauses no longer than some seconds. It writes the headers before it
waits. -/
def interpreter (longestWait longestPause : Nat) : Host where
  sendFault? request :=
    (request.headers.findSome? fun (_, value) => headerFault? value) <|> timeoutFault? longestWait request.timeout
  pauseFault? delay := timeFault? longestPause delay

end Host

end Sparql
