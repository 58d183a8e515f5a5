import Sparql.Text.Basic
import Sparql.Text.CaseTable

/-!
# Letter case

Full case mapping of texts in any script. The lower case of a capital sigma depends on its place: at the
end of a word it is the final form.
-/

namespace Sparql.Text

/-- The shift of the first run that holds the code point. -/
def caseShift? (runs : List (Nat × Nat × Nat × Int)) (code : Nat) : Option Int :=
  (runs.find? fun (first, last, step, _) =>
    first ≤ code && code ≤ last && (code - first) % step == 0).map (·.2.2.2)

/-- A code point moved by the run that holds it. -/
def shiftCase (runs : List (Nat × Nat × Nat × Int)) (c : Char) : Char :=
  match caseShift? runs c.toNat with
  | some shift => Char.ofNat (c.toNat + shift).toNat
  | none => c

/-- The expansion of a letter, if its image has several letters. -/
def expansion? (expansions : List (Nat × List Nat)) (c : Char) : Option (List Char) :=
  (expansions.find? (·.1 == c.toNat)).map (·.2.map Char.ofNat)

/-- Lower case of one letter, away from its context. -/
def lowerChar (c : Char) : List Char :=
  if c.toNat < 128 then [c.toLower]
  else if c.toNat == 304 then [Char.ofNat 105, Char.ofNat 775]
  else [shiftCase lowerRuns c]

/-- Upper case of one letter. -/
def upperChar (c : Char) : List Char :=
  if c.toNat < 128 then [c.toUpper]
  else (expansion? upperExpansions c).getD [shiftCase upperRuns c]

/-- Title case of one letter. -/
def titleChar (c : Char) : List Char :=
  if c.toNat < 128 then [c.toUpper]
  else (expansion? titleExceptions c).getD (upperChar c)

/-- Whether the nearest character that is not skipped is a cased letter. -/
def meetsCased (text : List Char) : Bool :=
  match text.dropWhile fun c => inRanges caseIgnorableRanges c.toNat with
  | [] => false
  | c :: _ => inRanges casedRanges c.toNat

/-- Lower case of a text, given what stands before it, nearest character first. -/
def lowerFrom (before : List Char) : List Char → List Char
  | [] => []
  | c :: rest =>
    let image :=
      if c.toNat == 0x3A3 then
        if meetsCased before && !meetsCased rest then [Char.ofNat 0x3C2] else [Char.ofNat 0x3C3]
      else lowerChar c
    image ++ lowerFrom (c :: before) rest

/-- Lower case of a text. -/
def toLower (text : List Char) : List Char := lowerFrom [] text

/-- Upper case of a text. -/
def toUpper (text : List Char) : List Char := text.flatMap upperChar

/-- The first letter in title case and the others in lower case. -/
def capitalize : List Char → List Char
  | [] => []
  | c :: rest => titleChar c ++ lowerFrom [c] rest

/-- `toLower` on strings. -/
def lowered (text : String) : String := String.ofList (toLower text.toList)

/-- `toUpper` on strings. -/
def uppered (text : String) : String := String.ofList (toUpper text.toList)

/-- `capitalize` on strings. -/
def capitalized (text : String) : String := String.ofList (capitalize text.toList)

end Sparql.Text
