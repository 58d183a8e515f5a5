import Sparql.Term.Lexical
import Sparql.Text.Hex

/-!
# Pieces of written graphs

What several notations for graphs share: escapes in texts and the tags of languages. Each reader gives back
what it has not read.
-/

namespace Sparql.Graph

open Sparql.Text

/-- The character that a single letter after a backslash stands for. -/
def escapedBy? (c : Char) : Option Char :=
  match c with
  | 't' => some '\t'
  | 'b' => some '\x08'
  | 'n' => some '\n'
  | 'r' => some '\r'
  | 'f' => some '\x0C'
  | '"' => some '"'
  | '\'' => some '\''
  | '\\' => some '\\'
  | _ => none

/-- How many digits the code of an escape has. -/
def codeLength? (c : Char) : Option Nat :=
  match c with
  | 'u' => some 4
  | 'U' => some 8
  | _ => none

/-- What stands behind the first letters and digits. -/
def behindSubtag (text : List Char) : List Char := text.dropWhile Char.isAlphanum

/-- What stands behind a language tag, once its first part has been read. -/
def behindSubtags : List Char → List Char
  | '-' :: c :: rest => if c.isAlphanum then behindSubtags (behindSubtag rest) else '-' :: c :: rest
  | rest => rest
termination_by text => text.length
decreasing_by
  simp only [List.length_cons]
  have : (behindSubtag rest).length ≤ rest.length := (List.dropWhile_sublist _).length_le
  omega

/-- A language tag that begins with characters of some kind, and what stands behind it. -/
def languageTag? (begins : Char → Bool) (text : List Char) : Option (String × List Char) :=
  let rest := text.dropWhile begins
  if rest.length = text.length then none
  else
    let rest := behindSubtags rest
    some (String.ofList (text.take (text.length - rest.length)), rest)

/-- The literal with a language or a datatype, if it can be built. -/
def literal? (text : List Char) (language datatype : Option String) : Option Term :=
  match Literal.ofText (String.ofList text) language datatype with
  | .ok literal => some (.literal literal)
  | .error _ => none

end Sparql.Graph
