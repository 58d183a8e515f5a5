/-!
# UTF-8

Reading and writing bytes as text. A sequence is well formed if it is the shortest form of a character;
reading either stops at the first byte that starts no such sequence or puts U+FFFD for every maximal part
that is none.
-/

namespace Sparql.Text.Utf8

/-- The bytes of a text. -/
def encodeChars (text : List Char) : List UInt8 := text.flatMap String.utf8EncodeChar

/-- The bytes of a string. -/
def encode (text : String) : List UInt8 := encodeChars text.toList

/-- What the first bytes of a sequence are. -/
inductive Lead where
  /-- A whole character of the given code point and the bytes after it. -/
  | char (code : Nat) (rest : List UInt8)
  /-- A maximal part of no character and the bytes after it. -/
  | broken (rest : List UInt8)

/-- Whether a byte continues a sequence. -/
def isContinuation (b : UInt8) : Bool := 0x80 ≤ b && b ≤ 0xBF

/-- The closed range of the second byte after a given first byte, and how many bytes follow the first. -/
def secondRange? (first : UInt8) : Option (UInt8 × UInt8 × Nat) :=
  if 0xC2 ≤ first && first ≤ 0xDF then some (0x80, 0xBF, 1)
  else if first == 0xE0 then some (0xA0, 0xBF, 2)
  else if first == 0xED then some (0x80, 0x9F, 2)
  else if 0xE1 ≤ first && first ≤ 0xEF then some (0x80, 0xBF, 2)
  else if first == 0xF0 then some (0x90, 0xBF, 3)
  else if 0xF1 ≤ first && first ≤ 0xF3 then some (0x80, 0xBF, 3)
  else if first == 0xF4 then some (0x80, 0x8F, 3)
  else none

/-- The six payload bits of a continuation byte. -/
def payload (b : UInt8) : Nat := b.toNat % 64

/-- Reads one character, or the part of one, that starts with `first`. -/
def lead (first : UInt8) (rest : List UInt8) : Lead :=
  if first < 0x80 then .char first.toNat rest
  else match secondRange? first with
    | none => .broken rest
    | some (low, high, count) =>
      match rest with
      | [] => .broken rest
      | b2 :: rest2 =>
        if !(low ≤ b2 && b2 ≤ high) then .broken rest
        else if count == 1 then .char (first.toNat % 32 * 64 + payload b2) rest2
        else match rest2 with
          | [] => .broken rest2
          | b3 :: rest3 =>
            if !isContinuation b3 then .broken rest2
            else if count == 2 then
              .char ((first.toNat % 16 * 64 + payload b2) * 64 + payload b3) rest3
            else match rest3 with
              | [] => .broken rest3
              | b4 :: rest4 =>
                if !isContinuation b4 then .broken rest3
                else .char
                  (((first.toNat % 8 * 64 + payload b2) * 64 + payload b3) * 64 + payload b4) rest4

/-- The bytes that a step leaves. -/
def Lead.rest : Lead → List UInt8
  | .char _ rest => rest
  | .broken rest => rest

/-- Every step uses up the first byte at least. -/
theorem lead_rest_length (first : UInt8) (rest : List UInt8) :
    (lead first rest).rest.length ≤ rest.length := by
  unfold lead
  repeat' (first | split | (simp only [Lead.rest]; simp; done) | (simp only [Lead.rest]; grind))

/-- Reads on after the characters read so far, which stand in reverse. -/
def decodeOnto (read : List Char) : List UInt8 → Option (List Char)
  | [] => some read.reverse
  | first :: rest =>
    match _h : lead first rest with
    | .broken _ => none
    | .char code remaining => decodeOnto (Char.ofNat code :: read) remaining
termination_by bytes => bytes.length
decreasing_by
  have := lead_rest_length first rest
  rw [_h] at this
  simpa [Lead.rest] using Nat.lt_succ_of_le this

/-- The text of a sequence of bytes, if all of it is well formed. -/
def decode? (bytes : List UInt8) : Option (List Char) := decodeOnto [] bytes

/-- `decodeOnto` with U+FFFD for every maximal part that is not well formed. -/
def decodeLossyOnto (read : List Char) : List UInt8 → List Char
  | [] => read.reverse
  | first :: rest =>
    match _h : lead first rest with
    | .broken remaining => decodeLossyOnto (Char.ofNat 0xFFFD :: read) remaining
    | .char code remaining => decodeLossyOnto (Char.ofNat code :: read) remaining
termination_by bytes => bytes.length
decreasing_by
  all_goals
    have := lead_rest_length first rest
    rw [_h] at this
    simpa [Lead.rest] using Nat.lt_succ_of_le this

/-- The text of a sequence of bytes, whatever they are. -/
def decodeLossy (bytes : List UInt8) : List Char := decodeLossyOnto [] bytes

/-- The bytes without a leading byte-order mark. -/
def dropMark : List UInt8 → List UInt8
  | 0xEF :: 0xBB :: 0xBF :: rest => rest
  | bytes => bytes

end Sparql.Text.Utf8
