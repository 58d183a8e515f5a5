import Mathlib.Data.List.Basic
import Sparql.Text.Basic

/-!
# The tokens of query text

Query text is read as tokens, each as long as it can be, with spaces, line ends and comments between them. A
literal is one token together with its language or datatype. Words stand for keywords, numbers and names with
a prefix; every other character is a mark.
-/

namespace Sparql.Syntax

open Sparql.Text

/-- The keywords that tell the parts of a query apart. -/
inductive Keyword where
  | base
  | prologue
  | ask
  | select
  | construct
  | describe
  | «where»
  | optional
  | minus
  | union
  | graph
  | service
  | silent
  | filter
  | not
  | «exists»
  | bind
  | as
  | values
deriving DecidableEq, Repr

namespace Keyword

/-- All keywords. -/
def all : List Keyword :=
  [base, prologue, ask, select, construct, describe, «where», optional, minus, union, graph, service,
    silent, filter, not, «exists», bind, as, values]

/-- A keyword in capitals. -/
def spelling : Keyword → String
  | base => "BASE"
  | prologue => "PREFIX"
  | ask => "ASK"
  | select => "SELECT"
  | construct => "CONSTRUCT"
  | describe => "DESCRIBE"
  | «where» => "WHERE"
  | optional => "OPTIONAL"
  | minus => "MINUS"
  | union => "UNION"
  | graph => "GRAPH"
  | service => "SERVICE"
  | silent => "SILENT"
  | filter => "FILTER"
  | not => "NOT"
  | «exists» => "EXISTS"
  | bind => "BIND"
  | as => "AS"
  | values => "VALUES"

/-- The keyword that a word is, in capitals or not. -/
def ofWord? (word : List Char) : Option Keyword :=
  all.find? fun keyword => keyword.spelling.toList = word.map Char.toUpper

end Keyword

/-- A token. All but keywords hold the characters that they are written with. -/
inductive Token where
  | keyword (keyword : Keyword)
  | mark (c : Char)
  | word (text : List Char)
  | iri (text : List Char)
  | variable (text : List Char)
  | blank (text : List Char)
  | literal (text : List Char)
deriving DecidableEq, Repr

/-! ## Characters -/

/-- A character that may stand between tokens. -/
def isSpace (c : Char) : Bool := c = ' ' || c = '\t' || c = '\n' || c = '\r'

/-- The letters of names, in ranges of code points. -/
def letterRanges : List (Nat × Nat) :=
  [(0x41, 0x5A), (0x5F, 0x5F), (0x61, 0x7A), (0xC0, 0xD6), (0xD8, 0xF6), (0xF8, 0x2FF), (0x370, 0x37D),
    (0x37F, 0x1FFF), (0x200C, 0x200D), (0x2070, 0x218F), (0x2C00, 0x2FEF), (0x3001, 0xD7FF),
    (0xF900, 0xFDCF), (0xFDF0, 0xFFFD), (0x10000, 0xEFFFF)]

/-- A letter, an underscore or a digit. -/
def isNameStart (c : Char) : Bool := inRanges letterRanges c.toNat || c.isDigit

/-- A character of a name after its first. -/
def isNameChar (c : Char) : Bool :=
  isNameStart c || inRanges [(0xB7, 0xB7), (0x300, 0x36F), (0x203F, 0x2040)] c.toNat

/-- A character of a word. -/
def isWordChar (c : Char) : Bool := isNameChar c || c = ':'

/-- A character of the label of a blank node after its first. -/
def isLabelChar (c : Char) : Bool := isNameChar c || c = '-' || c = '.'

/-- A character between angle brackets. -/
def isIriChar (c : Char) : Bool :=
  0x20 < c.toNat && !("<>\"\x7b|\x7d^\\".toList.contains c) && c.toNat != 0x60

/-- A character that may follow a backslash in a string. -/
def isEscapable (c : Char) : Bool := "tbnrf\\\"'".toList.contains c

/-- A character that a string may begin with. -/
def isQuote (c : Char) : Bool := c = '"' || c = '\''

/-! ## Tokens -/

/-- What is read at the beginning of a text, and what stands behind it. -/
abbrev Reading (α : Type) := Option (α × List Char)

/-- An IRI behind its opening bracket, and its closing bracket. -/
def readIri? (text : List Char) : Reading (List Char) :=
  match text.dropWhile isIriChar with
  | '>' :: rest => some (text.takeWhile isIriChar ++ ['>'], rest)
  | _ => none

/-- The string behind a single quote, up to the next. Line ends are escaped in it. -/
def readShort? (quote : Char) : List Char → Reading (List Char)
  | [] => none
  | c :: rest =>
    if c = quote then some ([c], rest)
    else if c = '\\' then
      match rest with
      | [] => none
      | d :: rest =>
        if isEscapable d then (readShort? quote rest).map (Prod.map (c :: d :: ·) id) else none
    else if c = '\n' || c = '\r' then none
    else (readShort? quote rest).map (Prod.map (c :: ·) id)

/-- The string behind three quotes, up to the next three. -/
def readLong? (quote : Char) : List Char → Reading (List Char)
  | [] => none
  | c :: rest =>
    if c = quote && rest.take 2 = [quote, quote] then some ([c, quote, quote], rest.drop 2)
    else if c = '\\' then
      match rest with
      | [] => none
      | d :: rest =>
        if isEscapable d then (readLong? quote rest).map (Prod.map (c :: d :: ·) id) else none
    else (readLong? quote rest).map (Prod.map (c :: ·) id)

/-- A string behind its first quote. -/
def readString? (quote : Char) (text : List Char) : Reading (List Char) :=
  if text.take 2 = [quote, quote] then
    (readLong? quote (text.drop 2)).map (Prod.map (quote :: quote :: ·) id)
  else readShort? quote text

/-- Letters, and perhaps further parts of letters and digits behind hyphens. -/
def isLanguageTag (tag : List Char) : Bool :=
  match tag.splitOn '-' with
  | [] => false
  | primary :: others =>
    !primary.isEmpty && primary.all Char.isAlpha
      && others.all fun part => !part.isEmpty && part.all Char.isAlphanum

/-- A character of a language tag. -/
def isTagChar (c : Char) : Bool := c.isAlphanum || c = '-'

/-- The language or the datatype behind a string, if there is either. -/
def readSuffix (text : List Char) : List Char × List Char :=
  match text with
  | '@' :: behind =>
    let tag := behind.takeWhile isTagChar
    if isLanguageTag tag then ('@' :: tag, behind.dropWhile isTagChar) else ([], text)
  | '^' :: '^' :: '<' :: behind =>
    match readIri? behind with
    | some (iri, rest) => ('^' :: '^' :: '<' :: iri, rest)
    | none => ([], text)
  | _ => ([], text)

/-- A literal behind its first quote. -/
def readLiteral? (quote : Char) (text : List Char) : Reading Token :=
  (readString? quote text).map fun (body, behind) =>
    (.literal (quote :: body ++ (readSuffix behind).1), (readSuffix behind).2)

/-- An IRI behind its opening bracket; if there is none, the bracket is a mark. -/
def readIriOrMark (text : List Char) : Token × List Char :=
  match readIri? text with
  | some (iri, rest) => (.iri ('<' :: iri), rest)
  | none => (.mark '<', text)

/-- A variable behind its sign; without a name the sign is a mark. -/
def readVariable (sign : Char) (text : List Char) : Token × List Char :=
  let name := text.takeWhile isNameChar
  if name.head?.any isNameStart then (.variable (sign :: name), text.dropWhile isNameChar)
  else (.mark sign, text)

/-- The label that a run of characters begins with. It does not end in a point. -/
def labelOf (run : List Char) : List Char := (run.reverse.dropWhile (· = '.')).reverse

/-- A blank node behind its colon; without a label what was read is a word. -/
def readBlank (text : List Char) : Token × List Char :=
  let run := text.takeWhile isLabelChar
  if (labelOf run).head?.any isNameStart then
    (.blank ('_' :: ':' :: labelOf run), run.drop (labelOf run).length ++ text.dropWhile isLabelChar)
  else (.word ['_', ':'], text)

/-- A word as a token: a keyword if it is one. -/
def wordToken (word : List Char) : Token :=
  match Keyword.ofWord? word with
  | some keyword => .keyword keyword
  | none => .word word

/-- The token at the beginning of a text. Only a string that is broken off is none. -/
def readToken? : List Char → Reading Token
  | [] => none
  | c :: rest =>
    if c = '<' then some (readIriOrMark rest)
    else if c = '_' && rest.head? = some ':' then some (readBlank rest.tail)
    else if c = '?' || c = '$' then some (readVariable c rest)
    else if isQuote c then readLiteral? c rest
    else if isWordChar c then some (wordToken (c :: rest.takeWhile isWordChar), rest.dropWhile isWordChar)
    else some (.mark c, rest)

/-! ## Texts -/

/-- The tokens of a text that is no longer than `fuel`. -/
def lexFrom : Nat → List Char → Option (List Token)
  | _, [] => some []
  | 0, _ :: _ => none
  | fuel + 1, c :: rest =>
    if isSpace c then lexFrom fuel rest
    else if c = '#' then lexFrom fuel (rest.dropWhile fun c => c ≠ '\n' && c ≠ '\r')
    else match readToken? (c :: rest) with
      | some (token, rest) => (lexFrom fuel rest).map (token :: ·)
      | none => none

/-- The tokens of a text. -/
def lex (text : List Char) : Option (List Token) := lexFrom text.length text

example : lex "?s a <x#y> . Filter(1<2)".toList =
    some [.variable "?s".toList, .word "a".toList, .iri "<x#y>".toList, .mark '.', .keyword .filter,
      .mark '(', .word "1".toList, .mark '<', .word "2".toList, .mark ')'] := by
  decide +kernel

/-! ## What stands behind a token -/

variable {quote c : Char} {text body rest : List Char} {token : Token}

theorem readIri?_suffix (read : readIri? text = some (body, rest)) : rest <:+ text := by
  unfold readIri? at read
  split at read
  · rename_i found
    cases read
    exact (List.suffix_cons '>' rest).trans (found ▸ List.dropWhile_suffix _)
  · cases read

theorem readShort?_suffix (read : readShort? quote text = some (body, rest)) : rest <:+ text := by
  fun_induction readShort? quote text generalizing body rest with
  | case1 | case3 | case5 | case6 => cases read
  | case2 behind =>
      cases read
      exact List.suffix_cons quote behind
  | case4 d behind escapable _ ih =>
      rcases Option.map_eq_some_iff.mp read with ⟨⟨inner, left⟩, isRead, same⟩
      cases same
      exact ((ih isRead).trans (List.suffix_cons d behind)).trans (List.suffix_cons _ _)
  | case7 c behind _ _ _ ih =>
      rcases Option.map_eq_some_iff.mp read with ⟨⟨inner, left⟩, isRead, same⟩
      cases same
      exact (ih isRead).trans (List.suffix_cons c behind)

theorem readLong?_suffix (read : readLong? quote text = some (body, rest)) : rest <:+ text := by
  fun_induction readLong? quote text generalizing body rest with
  | case1 | case3 | case5 => cases read
  | case2 c behind =>
      cases read
      exact (List.drop_suffix 2 behind).trans (List.suffix_cons c behind)
  | case4 d behind escapable _ ih =>
      rcases Option.map_eq_some_iff.mp read with ⟨⟨inner, left⟩, isRead, same⟩
      cases same
      exact ((ih isRead).trans (List.suffix_cons d behind)).trans (List.suffix_cons _ _)
  | case6 c behind _ _ ih =>
      rcases Option.map_eq_some_iff.mp read with ⟨⟨inner, left⟩, isRead, same⟩
      cases same
      exact (ih isRead).trans (List.suffix_cons c behind)

theorem readString?_suffix (read : readString? quote text = some (body, rest)) : rest <:+ text := by
  unfold readString? at read
  split at read
  · rcases Option.map_eq_some_iff.mp read with ⟨⟨inner, left⟩, isRead, same⟩
    cases same
    exact (readLong?_suffix isRead).trans (List.drop_suffix 2 text)
  · exact readShort?_suffix read

theorem readSuffix_suffix (text : List Char) : (readSuffix text).2 <:+ text := by
  unfold readSuffix
  split
  · dsimp only
    split
    · exact (List.dropWhile_suffix _).trans (List.suffix_cons _ _)
    · exact List.suffix_rfl
  · rename_i behind
    have within : behind <:+ '^' :: '^' :: '<' :: behind := ⟨['^', '^', '<'], rfl⟩
    split
    · exact (readIri?_suffix ‹_›).trans within
    · exact List.suffix_rfl
  · exact List.suffix_rfl

theorem readLiteral?_suffix (read : readLiteral? quote text = some (token, rest)) : rest <:+ text := by
  rcases Option.map_eq_some_iff.mp read with ⟨⟨inner, left⟩, isRead, same⟩
  cases same
  exact (readSuffix_suffix left).trans (readString?_suffix isRead)

theorem readIriOrMark_suffix (text : List Char) : (readIriOrMark text).2 <:+ text := by
  unfold readIriOrMark
  split
  · exact readIri?_suffix ‹_›
  · exact List.suffix_rfl

theorem readVariable_suffix (sign : Char) (text : List Char) : (readVariable sign text).2 <:+ text := by
  unfold readVariable
  dsimp only
  split
  · exact List.dropWhile_suffix _
  · exact List.suffix_rfl

theorem readBlank_suffix (text : List Char) : (readBlank text).2 <:+ text := by
  unfold readBlank
  dsimp only
  split
  · have whole := List.takeWhile_append_dropWhile (p := isLabelChar) (l := text)
    generalize text.takeWhile isLabelChar = run at whole ⊢
    rcases List.drop_suffix (labelOf run).length run with ⟨label, same⟩
    exact ⟨label, by rw [← List.append_assoc, same, whole]⟩
  · exact List.suffix_rfl

/-- A token takes at least one character. -/
theorem readToken?_suffix (read : readToken? (c :: text) = some (token, rest)) : rest <:+ text := by
  simp only [readToken?] at read
  split at read
  · have within := readIriOrMark_suffix text
    rwa [Option.some.inj read] at within
  split at read
  · have within := readBlank_suffix text.tail
    rw [Option.some.inj read] at within
    exact within.trans (List.tail_suffix text)
  split at read
  · have within := readVariable_suffix c text
    rwa [Option.some.inj read] at within
  split at read
  · exact readLiteral?_suffix read
  split at read
  · cases read
    exact List.dropWhile_suffix _
  · cases read
    exact List.suffix_rfl

end Sparql.Syntax
