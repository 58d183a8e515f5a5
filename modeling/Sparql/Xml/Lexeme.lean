import Sparql.Xml.Character

/-!
# Lexemes of XML

Names, quoted values, comments and instructions, each read from the beginning of a text together with what
stands behind it; and texts with references in them.
-/

namespace Sparql.Xml

/-- The text after a given beginning. -/
def after? : List Char → List Char → Option (List Char)
  | [], text => some text
  | _ :: _, [] => none
  | c :: beginning, d :: text => if c = d then after? beginning text else none

/-- The text before the first occurrence of a mark and the text after it; what comes before the place where
the search starts stands in reverse. -/
def splitFrom (mark : List Char) (before : List Char) : List Char → Option (List Char × List Char)
  | [] => none
  | c :: text =>
    match after? mark (c :: text) with
    | some rest => some (before.reverse, rest)
    | none => splitFrom mark (c :: before) text

/-- The text before the first occurrence of a mark and the text after it. -/
def splitAt? (mark : String) (text : List Char) : Option (List Char × List Char) :=
  splitFrom mark.toList [] text

/-- The text without the blanks it begins with. -/
def skipSpace (text : List Char) : List Char := text.dropWhile isSpace

/-- The text after blanks, of which there is one at least. -/
def afterSpace? : List Char → Option (List Char)
  | c :: rest => if isSpace c then some (skipSpace rest) else none
  | [] => none

/-- The text behind a word and the blanks after it, of which there is one at least. -/
def afterWord? (word : String) (text : List Char) : Option (List Char) :=
  (after? word.toList text).bind afterSpace?

/-- The name that a text begins with. -/
def name? (practice : Practice) (text : List Char) : Option (List Char × List Char) :=
  match text with
  | [] => none
  | c :: rest =>
    if practice.isNameStart c then
      some (c :: rest.takeWhile practice.isNameCharacter, rest.dropWhile practice.isNameCharacter)
    else none

/-- The name without a colon that a text begins with. -/
def simpleName? (practice : Practice) (text : List Char) : Option (List Char × List Char) :=
  (name? practice text).filter fun (name, _) => !name.contains ':'

/-- The text between the quotes that a text begins with. -/
def quoted? : List Char → Option (List Char × List Char)
  | [] => none
  | quote :: rest =>
    if quote = '"' || quote = '\'' then
      match rest.dropWhile (· ≠ quote) with
      | _ :: after => some (rest.takeWhile (· ≠ quote), after)
      | [] => none
    else none

/-- The attribute that a text begins with: its name and what stands between its quotes. -/
def attribute? (practice : Practice) (text : List Char) : Option ((List Char × List Char) × List Char) := do
  let (name, rest) ← name? practice text
  match skipSpace rest with
  | '=' :: rest =>
    let (value, rest) ← quoted? (skipSpace rest)
    if value.contains '<' then none
    return ((name, value), rest)
  | _ => none

/-- The end of a tag after some attributes, which stand in reverse. Every attribute follows a blank. -/
def attributesFrom (practice : Practice) (read : List (List Char × List Char)) :
    Nat → List Char → Option (List (List Char × List Char) × Bool × List Char)
  | 0, _ => none
  | fuel + 1, text =>
    match skipSpace text with
    | '>' :: rest => some (read.reverse, false, rest)
    | '/' :: '>' :: rest => some (read.reverse, true, rest)
    | next =>
      if next.length = text.length then none
      else match attribute? practice next with
        | some (first, rest) => attributesFrom practice (first :: read) fuel rest
        | none => none

/-- The text of a comment, from behind its opening. Two hyphens stand at its end only. -/
def comment? (text : List Char) : Option (List Char × List Char) := do
  let (body, rest) ← splitAt? "--" text
  match rest with
  | '>' :: rest => return (body, rest)
  | _ => none

/-- Whether a name is kept for the declaration of a document, in either case. -/
def isReservedTarget (name : List Char) : Bool := name.map Char.toLower == ['x', 'm', 'l']

/-- The target and the text of an instruction, from behind its opening. -/
def instruction? (practice : Practice) (text : List Char) :
    Option ((List Char × List Char) × List Char) := do
  let (target, rest) ← simpleName? practice text
  if isReservedTarget target then none
  let (body, after) ← splitAt? "?>" rest
  match body with
  | [] => return ((target, []), after)
  | c :: _ => if isSpace c then return ((target, skipSpace body), after) else none

/-! ## References -/

/-- A part of a text: a character, however it is written, or the name of a declared text. -/
inductive Fragment where
  | char (c : Char)
  | entity (name : List Char)
deriving DecidableEq, Repr

/-- What stands between an ampersand and a semicolon. -/
def reference? (practice : Practice) : List Char → Option Fragment
  | '#' :: number => (numbered? number).map Fragment.char
  | name =>
    match predefined? name with
    | some c => some (.char c)
    | none => if practice.isName name then some (.entity name) else none

/-- Reads on after some fragments, which stand in reverse, perhaps inside a reference. -/
def fragmentsFrom (practice : Practice) (read : List Fragment) (reference : Option (List Char)) :
    List Char → Option (List Fragment)
  | [] => if reference.isSome then none else some read.reverse
  | c :: rest =>
    match reference with
    | none =>
      if c = '&' then fragmentsFrom practice read (some []) rest
      else fragmentsFrom practice (.char c :: read) none rest
    | some name =>
      if c = ';' then
        match reference? practice name.reverse with
        | some fragment => fragmentsFrom practice (fragment :: read) none rest
        | none => none
      else fragmentsFrom practice read (some (c :: name)) rest

/-- The fragments of a text. Every ampersand must begin a reference. -/
def fragments? (practice : Practice) (text : List Char) : Option (List Fragment) :=
  fragmentsFrom practice [] none text

end Sparql.Xml
