/-!
# Base 64

Binary data as text in groups of four characters. Reading skips what is outside the alphabet and needs the
padding that completes the last group.
-/

namespace Sparql.Text.Base64

/-- The character of a value below 64. -/
def digit (value : Nat) : Char :=
  if value < 26 then Char.ofNat (65 + value)
  else if value < 52 then Char.ofNat (71 + value)
  else if value < 62 then Char.ofNat (value - 4)
  else if value = 62 then '+' else '/'

/-- The value of a character of the alphabet. -/
def value? (c : Char) : Option Nat :=
  let code := c.toNat
  if 65 ≤ code ∧ code ≤ 90 then some (code - 65)
  else if 97 ≤ code ∧ code ≤ 122 then some (code - 71)
  else if 48 ≤ code ∧ code ≤ 57 then some (code + 4)
  else if c = '+' then some 62
  else if c = '/' then some 63
  else none

/-- The padded text of some bytes. -/
def encode : List UInt8 → List Char
  | [] => []
  | [a] =>
    let bits := a.toNat * 16
    [digit (bits / 64), digit (bits % 64), '=', '=']
  | [a, b] =>
    let bits := (a.toNat * 256 + b.toNat) * 4
    [digit (bits / 4096), digit (bits / 64 % 64), digit (bits % 64), '=']
  | a :: b :: c :: rest =>
    let bits := (a.toNat * 256 + b.toNat) * 256 + c.toNat
    digit (bits / 262144) :: digit (bits / 4096 % 64) :: digit (bits / 64 % 64) :: digit (bits % 64)
      :: encode rest

/-- How far a group has been read: the characters seen, the bits not yet given out, the padding seen. -/
structure Group where
  seen : Nat := 0
  bits : Nat := 0
  padding : Nat := 0

/-- Reads on with the bytes given out so far in reverse. Text after a completed padding is ignored. -/
def decodeOnto (bytes : List UInt8) (group : Group) : List Char → Option (List UInt8)
  | [] => if group.seen = 0 then some bytes.reverse else none
  | c :: rest =>
    if c = '=' then
      if 2 ≤ group.seen ∧ 4 ≤ group.seen + group.padding + 1 then some bytes.reverse
      else decodeOnto bytes { group with padding := group.padding + 1 } rest
    else match value? c with
      | none => decodeOnto bytes group rest
      | some value =>
        match group.seen with
        | 0 => decodeOnto bytes ⟨1, value, 0⟩ rest
        | 1 => decodeOnto (UInt8.ofNat (group.bits * 4 + value / 16) :: bytes) ⟨2, value % 16, 0⟩ rest
        | 2 => decodeOnto (UInt8.ofNat (group.bits * 16 + value / 4) :: bytes) ⟨3, value % 4, 0⟩ rest
        | _ => decodeOnto (UInt8.ofNat (group.bits * 64 + value) :: bytes) ⟨0, 0, 0⟩ rest

/-- The bytes of an ASCII text. -/
def decode? (text : List Char) : Option (List UInt8) :=
  if text.all (·.toNat < 128) then decodeOnto [] {} text else none

end Sparql.Text.Base64
