import Sparql.Proofs.Syntax.StringToken
import Sparql.Proofs.Term.Literal
import Sparql.Query.Build
import Sparql.Query.Text

/-!
# Strings in queries

A string is written between quotes, and the grammar reads the token that this gives back as the string: nothing of
the string gets outside the quotes. There is one exception. In a string of several lines the last quote is escaped
unless a backslash stands before it; but that backslash is written twice, so it does not escape the quote. The
token then ends one quote too early, and a single quote is left over behind it.
-/

namespace Sparql.Literal

open Syntax

variable {text body inner written rest : List Char} {c : Char}

/-- A text of several lines that ends in a backslash and a quote. -/
def EndsOpen (text : List Char) : Prop := '\n' ∈ text ∧ ['\\', '"'] <:+ text

instance (text : List Char) : Decidable (EndsOpen text) := inferInstanceAs (Decidable (_ ∧ _))

/-! ## One line -/

theorem writesChar_short (inLine : c ≠ '\n') : WritesChar ['"', '\\', '\n', '\r'] (escapeShort c) c := by
  unfold escapeShort
  split_ifs with isBackslash isQuote isReturn
  · subst isBackslash
    exact .escape rfl
  · subst isQuote
    exact .escape rfl
  · subst isReturn
    exact .escape rfl
  · exact .plain (by simp [isBackslash, isQuote, isReturn, inLine])

theorem shortBody_escaped (oneLine : '\n' ∉ text) : ShortBody '"' (text.flatMap escapeShort) text := by
  induction text with
  | nil => exact .nil
  | cons c text ih =>
      rw [List.mem_cons, not_or] at oneLine
      rw [List.flatMap_cons]
      exact .cons (writesChar_short (Ne.symm oneLine.1)) (ih oneLine.2)

/-! ## Several lines -/

theorem writesChar_long (notQuote : c ≠ '"') : WritesChar ['"', '\\'] (escapeLong c) c := by
  unfold escapeLong
  split_ifs with isBackslash isReturn
  · subst isBackslash
    exact .escape rfl
  · subst isReturn
    exact .escape rfl
  · exact .plain (by simp [isBackslash, notQuote])

/-- A text before its last quote is escaped. -/
def escapeLines (text : List Char) : List Char := escapeTriples (text.flatMap escapeLong)

theorem escapeLong_quote : escapeLong '"' = ['"'] := rfl

theorem escapeTriples_of_ne (notQuote : c ≠ '"') : escapeTriples (c :: rest) = c :: escapeTriples rest := by
  rw [escapeTriples]
  rintro others rfl
  exact absurd rfl notQuote

theorem escapeLines_of_ne (notQuote : c ≠ '"') : escapeLines (c :: text) = escapeLong c ++ escapeLines text := by
  unfold escapeLines escapeLong
  rw [List.flatMap_cons]
  split_ifs
  · simp [escapeTriples_of_ne]
  · simp [escapeTriples_of_ne]
  · simp [escapeTriples_of_ne notQuote]

theorem escapeLines_three : escapeLines ('"' :: '"' :: '"' :: text) =
    ['\\', '"'] ++ (['\\', '"'] ++ (['\\', '"'] ++ escapeLines text)) := by
  simp [escapeLines, escapeLong_quote, escapeTriples]

theorem exists_of_flatMap_escapeLong (isWritten : text.flatMap escapeLong = '"' :: rest) :
    ∃ others, text = '"' :: others ∧ others.flatMap escapeLong = rest := by
  cases text with
  | nil => cases isWritten
  | cons c others =>
      rw [List.flatMap_cons] at isWritten
      unfold escapeLong at isWritten
      split_ifs at isWritten
      · simp at isWritten
      · simp at isWritten
      · simp only [List.singleton_append, List.cons.injEq] at isWritten
        exact ⟨others, by rw [isWritten.1], isWritten.2⟩

/-- A quote that is not the first of three stands as it is. -/
theorem escapeLines_quote (notThree : ∀ others, text ≠ '"' :: '"' :: others) :
    escapeLines ('"' :: text) = '"' :: escapeLines text := by
  unfold escapeLines
  rw [List.flatMap_cons, escapeLong_quote, List.singleton_append, escapeTriples]
  intro others _ isWritten
  rcases exists_of_flatMap_escapeLong isWritten with ⟨behind, rfl, isBehind⟩
  rcases exists_of_flatMap_escapeLong isBehind with ⟨last, rfl, _⟩
  exact notThree last rfl

/-- A text that is written as what can stand between triple quotes, and at most two quotes behind it. Where the former
ends in a quote, three quotes stood on end. -/
structure SplitsAt (text body inner : List Char) (quotes : Nat) : Prop where
  few : quotes ≤ 2
  isText : inner ++ List.replicate quotes '"' = text
  isWritten : body ++ List.replicate quotes '"' = escapeLines text
  within : LongBody '"' body inner
  endsInThree : inner.getLast? = some '"' → ['"', '"', '"'] <:+ inner

theorem endsInThree_append (front : List Char) (notEmpty : inner ≠ [])
    (endsInThree : inner.getLast? = some '"' → ['"', '"', '"'] <:+ inner)
    (isLast : (front ++ inner).getLast? = some '"') : ['"', '"', '"'] <:+ front ++ inner := by
  rw [List.getLast?_append_of_ne_nil _ notEmpty] at isLast
  exact (endsInThree isLast).trans (List.suffix_append _ _)

namespace SplitsAt

variable {quotes : Nat}

theorem three (splits : SplitsAt text body inner quotes) :
    ∃ body inner, SplitsAt ('"' :: '"' :: '"' :: text) body inner quotes := by
  have escape : WritesChar ['"', '\\'] ['\\', '"'] '"' := .escape rfl
  have few : 0 ≤ 2 := Nat.zero_le 2
  refine ⟨_, '"' :: '"' :: '"' :: inner, splits.few, by simp [splits.isText], ?_,
    .cons few escape (.cons few escape (.cons few escape splits.within)), ?_⟩
  · simp [escapeLines_three, splits.isWritten]
  · intro isLast
    by_cases isEmpty : inner = []
    · simp [isEmpty]
    · exact endsInThree_append ['"', '"', '"'] isEmpty splits.endsInThree isLast

/-- Of two quotes and a third one behind them, none is alone. -/
theorem quote (splits : SplitsAt text body inner quotes) (notThree : ∀ others, text ≠ '"' :: '"' :: others) :
    ∃ body inner quotes, SplitsAt ('"' :: text) body inner quotes := by
  have isWritten := escapeLines_quote notThree
  rcases splits with ⟨few, rfl, bodyWritten, within, endsInThree⟩
  cases within with
  | nil =>
      have fewer : quotes + 1 ≤ 2 := by
        by_contra many
        obtain rfl : quotes = 2 := by omega
        exact notThree [] rfl
      exact ⟨[], [], quotes + 1, fewer, rfl, by rw [isWritten, ← bodyWritten]; rfl, .nil, by simp⟩
  | @cons count written body inner c fewBefore first others =>
      have fewer : count + 1 ≤ 2 := by
        by_contra many
        obtain rfl : count = 2 := by omega
        exact notThree _ rfl
      refine ⟨_, _, quotes, few, ?_, ?_, .cons fewer first others, ?_⟩
      · rfl
      · rw [isWritten, ← bodyWritten]
        rfl
      · exact endsInThree_append ['"'] (by simp) endsInThree

theorem ordinary (splits : SplitsAt text body inner quotes) (notQuote : c ≠ '"') :
    ∃ body inner, SplitsAt (c :: text) body inner quotes := by
  refine ⟨_, c :: inner, splits.few, by simp [splits.isText], ?_,
    .cons (Nat.zero_le 2) (writesChar_long notQuote) splits.within, ?_⟩
  · simp [escapeLines_of_ne notQuote, splits.isWritten]
  · intro isLast
    by_cases isEmpty : inner = []
    · simp [isEmpty, notQuote] at isLast
    · exact endsInThree_append [c] isEmpty splits.endsInThree isLast

end SplitsAt

theorem exists_splitsAt (text : List Char) : ∃ body inner quotes, SplitsAt text body inner quotes := by
  -- Three quotes are escaped in one step, so the induction is that of the escaping, not that of the list.
  induction text using escapeTriples.induct with
  | case1 rest ih =>
      rcases ih with ⟨body, inner, quotes, splits⟩
      rcases splits.three with ⟨body, inner, splits⟩
      exact ⟨body, inner, quotes, splits⟩
  | case2 c rest notThree ih =>
      rcases ih with ⟨body, inner, quotes, splits⟩
      by_cases isQuote : c = '"'
      · subst isQuote
        exact splits.quote fun others isRest => notThree others rfl isRest
      · rcases splits.ordinary isQuote with ⟨body, inner, splits⟩
        exact ⟨body, inner, quotes, splits⟩
  | case3 => exact ⟨[], [], 0, by omega, rfl, rfl, .nil, by simp⟩

/-! ### The last quote -/

theorem escapeLast_of_ne (notLast : body.getLast? ≠ some '"') : escapeLast body = body := by
  unfold escapeLast
  split
  · rfl
  · next isReversed => simp [List.getLast?_eq_head?_reverse, isReversed] at notLast
  · rfl

theorem escapeLast_escaped : escapeLast (body ++ ['\\', '"']) = body ++ ['\\', '"'] := by
  simp [escapeLast]

theorem escapeLast_open (isLast : body.getLast? = some '\\') : escapeLast (body ++ ['"']) = body ++ ['"'] := by
  rcases List.getLast?_eq_some_iff.mp isLast with ⟨front, rfl⟩
  simp [escapeLast]

theorem escapeLast_quote (notLast : body.getLast? ≠ some '\\') :
    escapeLast (body ++ ['"']) = body ++ ['\\', '"'] := by
  unfold escapeLast
  rw [List.reverse_append, List.reverse_singleton, List.singleton_append]
  split
  · next isReversed =>
      rw [List.cons.injEq] at isReversed
      simp [List.getLast?_eq_head?_reverse, isReversed.2] at notLast
  · next isReversed =>
      rw [List.cons.injEq] at isReversed
      rw [← isReversed.2, List.reverse_reverse]
  · next isReversed => exact absurd rfl (isReversed _)

/-- No other letter than a backslash stands for one. -/
theorem eq_backslash_of_escaped? {letter : Char} (means : escaped? letter = some '\\') : letter = '\\' := by
  unfold escaped? at means
  split at means <;> simp_all

theorem getLast?_body (within : LongBody '"' body inner) :
    body.getLast? = some '\\' ↔ inner.getLast? = some '\\' := by
  rcases within.exists_last with ⟨rfl, rfl⟩ | ⟨front, written, before, c, rfl, rfl, first⟩
  · rfl
  · cases first with
    | plain free => simp
    | @escape letter c means =>
        simp only [List.getLast?_append, List.getLast?_cons_cons, List.getLast?_singleton, Option.some_or,
          Option.some.injEq]
        constructor
        · rintro rfl
          simpa [escaped?] using means.symm
        · rintro rfl
          exact eq_backslash_of_escaped? means

/-- A quote at the end of what can stand between triple quotes is behind a backslash. -/
theorem escapeLast_body (within : LongBody '"' body inner) : escapeLast body = body := by
  rcases within.exists_last with ⟨rfl, rfl⟩ | ⟨front, written, before, c, rfl, rfl, first⟩
  · rfl
  · cases first with
    | plain free =>
        rw [List.mem_cons, not_or] at free
        exact escapeLast_of_ne (by simp [free.1])
    | @escape letter c means =>
        by_cases isQuote : letter = '"'
        · subst isQuote
          exact escapeLast_escaped
        · exact escapeLast_of_ne (by simp [isQuote])

/-- Unless a text ends in a backslash and a quote, triple quotes hold all of it. -/
theorem longBody_of_closed (closed : ¬ ['\\', '"'] <:+ text) : LongBody '"' (escapeLast (escapeLines text)) text := by
  rcases exists_splitsAt text with ⟨body, inner, quotes, few, rfl, isWritten, within, -⟩
  have escape : WritesChar ['"', '\\'] ['\\', '"'] '"' := .escape rfl
  have lengths : quotes = 0 ∨ quotes = 1 ∨ quotes = 2 := by omega
  rw [← isWritten]
  rcases lengths with rfl | rfl | rfl
  · simpa [escapeLast_body within] using within
  · have notOpen : body.getLast? ≠ some '\\' := by
      intro isLast
      rcases List.getLast?_eq_some_iff.mp ((getLast?_body within).mp isLast) with ⟨front, rfl⟩
      exact closed ⟨front, by simp⟩
    have last : LongBody '"' ['\\', '"'] ['"'] := .cons (Nat.zero_le 2) escape .nil
    rw [List.replicate_one, escapeLast_quote notOpen]
    exact within.append last
  · have last : LongBody '"' ['"', '\\', '"'] ['"', '"'] :=
      .cons (show 1 ≤ 2 by decide) escape .nil
    have isEscaped : escapeLast (body ++ ['"'] ++ ['"']) = body ++ ['"'] ++ ['\\', '"'] :=
      escapeLast_quote (by simp)
    simp only [List.append_assoc, List.cons_append, List.nil_append] at isEscaped
    rw [show List.replicate 2 '"' = ['"', '"'] from rfl, isEscaped]
    exact within.append last

/-- The last of the quotes on end is the one behind the backslash, and no backslash is written before it. -/
theorem longBody_of_open (isOpen : ['\\', '"'] <:+ text) :
    ∃ body, escapeLast (escapeLines text) = body ++ ['"'] ∧ LongBody '"' body text.dropLast := by
  rcases exists_splitsAt text with ⟨body, inner, quotes, few, rfl, isWritten, within, endsInThree⟩
  have lengths : quotes = 0 ∨ quotes = 1 ∨ quotes = 2 := by omega
  rw [← isWritten]
  rcases lengths with rfl | rfl | rfl
  · -- A backslash before the last quote leaves it alone, but here it is the last of three.
    rw [List.replicate_zero, List.append_nil] at isOpen
    rcases isOpen with ⟨front, rfl⟩
    have ended := endsInThree (by simp)
    rw [← List.reverse_prefix] at ended
    simp at ended
  · rw [List.replicate_one] at isOpen ⊢
    rcases isOpen with ⟨front, isText⟩
    have same : front ++ ['\\'] ++ ['"'] = inner ++ ['"'] := by simpa using isText
    obtain rfl : front ++ ['\\'] = inner := List.append_cancel_right same
    have isLast : (front ++ ['\\']).getLast? = some '\\' := List.getLast?_concat
    refine ⟨body, escapeLast_open ((getLast?_body within).mpr isLast), ?_⟩
    rwa [List.dropLast_concat]
  · rw [← List.reverse_prefix] at isOpen
    simp [List.replicate_succ] at isOpen

/-! ## Reading strings -/

theorem quote_of_lines (several : '\n' ∈ text) :
    quote text = List.replicate 3 '"' ++ (escapeLast (escapeLines text) ++ List.replicate 3 '"') := by
  simp [quote, escapeLines, several, List.replicate_succ]

theorem beginsWithString_quote (closed : ¬ EndsOpen text) (behind : rest.head? ≠ some '"') :
    BeginsWithString (quote text ++ rest) text rest (quote text) := by
  by_cases several : '\n' ∈ text
  · have within := longBody_of_closed fun isOpen => closed ⟨several, isOpen⟩
    rw [quote_of_lines several, List.append_assoc, List.append_assoc]
    exact beginsWithString_long rfl within
  · have isQuoted : quote text = '"' :: (text.flatMap escapeShort ++ ['"']) := by simp [quote, several]
    rw [isQuoted, List.cons_append, List.append_assoc]
    exact beginsWithString_short rfl (shortBody_escaped several) behind

theorem exists_beginsWithString_open (rest : List Char) (isOpen : EndsOpen text) :
    ∃ token, BeginsWithString (quote text ++ rest) text.dropLast ('"' :: rest) token := by
  rcases longBody_of_open isOpen.2 with ⟨body, isWritten, within⟩
  have isQuoted : quote text ++ rest =
      List.replicate 3 '"' ++ (body ++ (List.replicate 3 '"' ++ '"' :: rest)) := by
    rw [quote_of_lines isOpen.1, isWritten]
    simp [List.replicate_succ]
  rw [isQuoted]
  exact ⟨_, beginsWithString_long rfl within⟩

theorem dropLast_ne_of_endsOpen (isOpen : EndsOpen text) : text.dropLast ≠ text := by
  intro same
  rcases isOpen.2 with ⟨front, rfl⟩
  have lengths := congrArg List.length same
  simp at lengths

theorem toList_toText_plain (text : String) : (plain text).toText.toList = quote text.toList := by
  simp [toText, chars, spelled, plain, LexicalSpace.ofDatatype]

theorem ofDatatype_xsdString : LexicalSpace.ofDatatype (some Vocabulary.xsdString) = .other := by
  decide +kernel

theorem ofText_xsdString (text : String) :
    ofText text none (some Vocabulary.xsdString) = .ok ⟨text, none, some Vocabulary.xsdString⟩ := by
  rw [ofText_typed, typed, ofDatatype_xsdString]
  rfl

theorem toText_xsdString (text : String) : toText ⟨text, none, some Vocabulary.xsdString⟩ =
    (plain text).toText ++ ("^^<" ++ Vocabulary.xsdString ++ ">") := by
  have notEmpty : Vocabulary.xsdString ≠ "" := by decide +kernel
  apply String.toList_injective
  rw [String.toList_append, toList_toText_plain]
  simp [toText, chars, spelled, ofDatatype_xsdString]

/-- A cell of inline data, a value that a variable is bound to, a plain literal and a literal of the datatype of strings
are all written as the same quoted text, which the last one has its datatype behind. The grammar reads this text as one
token that means the string, whatever stands behind it that is no quote, unless the string has several lines and ends
in a backslash and a quote. Then the token is one quote shorter, means all but the last character, and leaves that quote
over. -/
theorem string_within_quotes (text name : String) :
    ∃ quoted : String,
      (∃ cell, cellOf (.text text) = .ok cell ∧ cellText cell = .ok quoted) ∧
      (∃ value, (Value.text text).spell = .ok value ∧
        BindBranch.bindText name value = "BIND(" ++ quoted ++ " AS " ++ variableText name ++ ")") ∧
      (∃ literal, ofText text none none = .ok literal ∧ (Term.literal literal).render = .ok quoted) ∧
      (∃ literal, ofText text none (some Vocabulary.xsdString) = .ok literal ∧
        (Term.literal literal).render = .ok (quoted ++ ("^^<" ++ Vocabulary.xsdString ++ ">"))) ∧
      ∀ rest : List Char, rest.head? ≠ some '"' →
        ((∃ token, BeginsWithString (quoted.toList ++ rest) text.toList rest token) ↔ ¬ EndsOpen text.toList) ∧
        (EndsOpen text.toList →
          ∃ token, BeginsWithString (quoted.toList ++ rest) text.toList.dropLast ('"' :: rest) token) := by
  refine ⟨(plain text).toText, ⟨_, rfl, rfl⟩, ⟨text, rfl, rfl⟩, ⟨plain text, ofText_plain, rfl⟩,
    ⟨_, ofText_xsdString text, congrArg Except.ok (toText_xsdString text)⟩, ?_⟩
  intro rest behind
  rw [toList_toText_plain]
  refine ⟨⟨?_, fun closed => ⟨_, beginsWithString_quote closed behind⟩⟩, exists_beginsWithString_open rest⟩
  rintro ⟨token, begins⟩ isOpen
  rcases exists_beginsWithString_open rest isOpen with ⟨shorter, beginsShorter⟩
  exact dropLast_ne_of_endsOpen isOpen (beginsShorter.unique begins).2.1

/-- A line end, a backslash and a quote. -/
def openText : String := "\n\\\""

theorem cell_of_openText :
    let written := "\"\"\"\n\\\\\"\"\"\""
    cellOf (.text openText) = .ok (some (.literal (plain openText))) ∧
    cellText (some (.literal (plain openText))) = .ok written ∧
    (∃ token, BeginsWithString (written.toList ++ " )".toList) "\n\\".toList "\" )".toList token) ∧
    ¬ ∃ token, BeginsWithString (written.toList ++ " )".toList) openText.toList " )".toList token := by
  intro written
  have isOpen : EndsOpen openText.toList := by decide
  have isWritten : written.toList = quote openText.toList := by decide +kernel
  rcases exists_beginsWithString_open " )".toList isOpen with ⟨token, begins⟩
  have sameText : (plain openText).toText = written :=
    String.toList_injective ((toList_toText_plain openText).trans isWritten.symm)
  rw [isWritten]
  refine ⟨rfl, congrArg Except.ok sameText, ⟨token, begins⟩, ?_⟩
  rintro ⟨other, otherBegins⟩
  exact dropLast_ne_of_endsOpen isOpen (begins.unique otherBegins).2.1

end Sparql.Literal
