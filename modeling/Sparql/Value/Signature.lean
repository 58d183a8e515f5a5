import Sparql.Failure

/-!
# Named and positional arguments

A call gives some arguments by position and some by name. A signature says which name each position has and
what stands for an argument that is not given.
-/

namespace Sparql

/-- The arguments of a call. -/
structure Arguments where
  positional : List Value := []
  named : List (String × Value) := []
deriving Repr, Inhabited

/-- A parameter, with what it is when not given; a required one has no such value. -/
structure Parameter where
  name : String
  absent : Option Value := none

namespace Arguments

/-- The value under a name. -/
def named? (arguments : Arguments) (name : String) : Option Value :=
  (arguments.named.find? (·.1 == name)).map (·.2)

/-- The value of each parameter in turn, from the positions that are left. -/
def assign (arguments : Arguments) : List Parameter → List Value → Outcome (List Value)
  | [], [] => .ok []
  | [], _ :: _ => misuse .wrongKind
  | parameter :: parameters, value :: positional =>
    if (arguments.named? parameter.name).isSome then misuse .wrongKind
    else (assign arguments parameters positional).map (value :: ·)
  | parameter :: parameters, [] =>
    match arguments.named? parameter.name <|> parameter.absent with
    | some value => (assign arguments parameters []).map (value :: ·)
    | none => misuse .wrongKind

/-- The values of the parameters in order. A name that no parameter has is misuse. -/
def bind (arguments : Arguments) (parameters : List Parameter) : Outcome (List Value) :=
  if arguments.named.all fun (name, _) => parameters.any (·.name == name) then
    arguments.assign parameters arguments.positional
  else misuse .wrongKind

/-- The values of the parameters that only a name can give; other names are misuse. -/
def options (arguments : Arguments) (parameters : List Parameter) : Outcome (List Value) :=
  bind { arguments with positional := [] } parameters

end Arguments

end Sparql
