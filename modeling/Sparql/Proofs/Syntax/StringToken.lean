import Sparql.Proofs.Syntax.Token

/-!
# String tokens

The strings of the query grammar, each with the text that it means. A string stands between single or triple
quotes of either kind. Inside single quotes nothing breaks a line; inside triple quotes one or two quotes may stand
before a character. A backslash and a letter stand for a character.

A text begins with at most one string that no longer string of the text goes beyond, and the string means one text
only. So it is fixed where such a token ends and what it says.
-/

namespace Sparql.Syntax

/-- The character that a letter stands for behind a backslash. -/
def escaped? (letter : Char) : Option Char :=
  match letter with
  | 't' => some '\t'
  | 'b' => some '\x08'
  | 'n' => some '\n'
  | 'r' => some '\r'
  | 'f' => some '\x0c'
  | '\\' => some '\\'
  | '"' => some '"'
  | '\'' => some '\''
  | _ => none

/-- A character of a string as it is written: as it is, unless it is barred, or as an escape. -/
inductive WritesChar (barred : List Char) : List Char → Char → Prop
  | plain {c : Char} (free : c ∉ barred) : WritesChar barred [c] c
  | escape {letter c : Char} (means : escaped? letter = some c) : WritesChar barred ['\\', letter] c

/-- What stands between single quotes, and its meaning. -/
inductive ShortBody (quote : Char) : List Char → List Char → Prop
  | nil : ShortBody quote [] []
  | cons {written body text : List Char} {c : Char} (first : WritesChar [quote, '\\', '\n', '\r'] written c)
      (others : ShortBody quote body text) : ShortBody quote (written ++ body) (c :: text)

/-- What stands between triple quotes, and its meaning. -/
inductive LongBody (quote : Char) : List Char → List Char → Prop
  | nil : LongBody quote [] []
  | cons {quotes : Nat} {written body text : List Char} {c : Char} (few : quotes ≤ 2)
      (first : WritesChar [quote, '\\'] written c) (others : LongBody quote body text) :
      LongBody quote (List.replicate quotes quote ++ (written ++ body)) (List.replicate quotes quote ++ c :: text)

/-- A string of the grammar, and its meaning. -/
inductive IsString : List Char → List Char → Prop
  | short {quote : Char} {body text : List Char} (isQuote : isQuote quote) (within : ShortBody quote body text) :
      IsString (quote :: (body ++ [quote])) text
  | long {quote : Char} {body text : List Char} (isQuote : isQuote quote) (within : LongBody quote body text) :
      IsString (List.replicate 3 quote ++ (body ++ List.replicate 3 quote)) text

/-- A text that begins with a string of the grammar and goes on behind it. Every string that it begins with is a
part of this one, as tokens are as long as they can be. -/
structure BeginsWithString (text meaning rest : List Char) (token : List Char) : Prop where
  isString : IsString token meaning
  isText : token ++ rest = text
  longest : ∀ other otherMeaning, IsString other otherMeaning → other <+: text → other <+: token

variable {quote c d : Char} {barred written other body text otherBody otherText rest otherRest : List Char}

/-! ## Characters -/

theorem ne_backslash (isQuote : isQuote quote) : quote ≠ '\\' := by
  rintro rfl
  simp [Syntax.isQuote] at isQuote

/-- An escape and a character that stands for itself begin differently. -/
theorem WritesChar.unique (backslash : '\\' ∈ barred) (first : WritesChar barred written c)
    (second : WritesChar barred other d) (same : written ++ rest = other ++ otherRest) :
    written = other ∧ c = d ∧ rest = otherRest := by
  cases first with
  | plain free =>
      cases second with
      | plain _ =>
          simp only [List.singleton_append, List.cons.injEq] at same
          exact ⟨by rw [same.1], same⟩
      | escape _ =>
          simp only [List.cons_append, List.nil_append, List.cons.injEq] at same
          exact absurd (same.1 ▸ backslash) free
  | escape means =>
      cases second with
      | plain free =>
          simp only [List.cons_append, List.nil_append, List.cons.injEq] at same
          exact absurd (same.1 ▸ backslash) free
      | escape otherMeans =>
          simp only [List.cons_append, List.nil_append, List.cons.injEq, true_and] at same
          rcases same with ⟨rfl, sameRest⟩
          exact ⟨rfl, Option.some.inj (means.symm.trans otherMeans), sameRest⟩

theorem WritesChar.exists_cons (isQuote : isQuote quote) (barredQuote : quote ∈ barred)
    (writes : WritesChar barred written c) : ∃ d others, written = d :: others ∧ d ≠ quote := by
  cases writes with
  | plain free =>
      refine ⟨c, [], rfl, ?_⟩
      rintro rfl
      exact free barredQuote
  | escape _ => exact ⟨'\\', _, rfl, (ne_backslash isQuote).symm⟩

/-! ## Strings between single quotes -/

/-- No quote stands at the beginning of what is between single quotes. -/
theorem ShortBody.eq_nil_of_append (isQuote : isQuote quote) (within : ShortBody quote body text)
    (same : body ++ rest = quote :: otherRest) : body = [] := by
  cases within with
  | nil => rfl
  | cons first _ =>
      rcases first.exists_cons isQuote (.head _) with ⟨d, others, rfl, notQuote⟩
      exact absurd (List.cons.inj same).1 notQuote

/-- The first quote that no backslash stands before is the closing one. -/
theorem ShortBody.unique (isQuote : isQuote quote) (within : ShortBody quote body text)
    (otherWithin : ShortBody quote otherBody otherText)
    (same : body ++ quote :: rest = otherBody ++ quote :: otherRest) :
    body = otherBody ∧ text = otherText ∧ rest = otherRest := by
  induction within generalizing otherBody otherText with
  | nil =>
      cases otherWithin with
      | nil => exact ⟨rfl, rfl, (List.cons.inj same).2⟩
      | cons first _ =>
          rcases first.exists_cons isQuote (.head _) with ⟨d, others, rfl, notQuote⟩
          exact absurd (List.cons.inj same).1.symm notQuote
  | cons first _ ih =>
      cases otherWithin with
      | nil =>
          rcases first.exists_cons isQuote (.head _) with ⟨d, others, rfl, notQuote⟩
          exact absurd (List.cons.inj same).1 notQuote
      | cons otherFirst otherOthers =>
          rw [List.append_assoc, List.append_assoc] at same
          rcases first.unique (by simp) otherFirst same with ⟨rfl, rfl, sameBehind⟩
          rcases ih otherOthers sameBehind with ⟨rfl, rfl, sameRest⟩
          exact ⟨rfl, rfl, sameRest⟩

/-! ## Strings between triple quotes -/

/-- Quotes before another character can be counted. -/
theorem replicate_append_injective {count otherCount : Nat} (notQuote : c ≠ quote) (otherNotQuote : d ≠ quote)
    (same : List.replicate count quote ++ c :: rest = List.replicate otherCount quote ++ d :: otherRest) :
    count = otherCount ∧ c :: rest = d :: otherRest := by
  induction count generalizing otherCount with
  | zero =>
      cases otherCount with
      | zero => exact ⟨rfl, same⟩
      | succ otherCount =>
          simp only [List.replicate_zero, List.nil_append, List.replicate_succ, List.cons_append,
            List.cons.injEq] at same
          exact absurd same.1 notQuote
  | succ count ih =>
      cases otherCount with
      | zero =>
          simp only [List.replicate_zero, List.nil_append, List.replicate_succ, List.cons_append,
            List.cons.injEq] at same
          exact absurd same.1.symm otherNotQuote
      | succ otherCount =>
          simp only [List.replicate_succ, List.cons_append, List.cons.injEq, true_and] at same
          rcases ih same with ⟨rfl, sameRest⟩
          exact ⟨rfl, sameRest⟩

/-- Two quotes before another character are no three. -/
theorem replicate_append_ne_three {count : Nat} (few : count ≤ 2) (notQuote : c ≠ quote) :
    List.replicate count quote ++ c :: rest ≠ List.replicate 3 quote ++ otherRest := by
  intro same
  have cases : count = 0 ∨ count = 1 ∨ count = 2 := by omega
  rcases cases with rfl | rfl | rfl <;> simp [List.replicate_succ, notQuote] at same

/-- The first three quotes on end are the closing ones. -/
theorem LongBody.unique (isQuote : isQuote quote) (within : LongBody quote body text)
    (otherWithin : LongBody quote otherBody otherText)
    (same : body ++ (List.replicate 3 quote ++ rest) = otherBody ++ (List.replicate 3 quote ++ otherRest)) :
    body = otherBody ∧ text = otherText ∧ rest = otherRest := by
  induction within generalizing otherBody otherText with
  | nil =>
      cases otherWithin with
      | nil => exact ⟨rfl, rfl, List.append_cancel_left same⟩
      | cons few first _ =>
          rcases first.exists_cons isQuote (.head _) with ⟨d, others, rfl, notQuote⟩
          simp only [List.append_assoc, List.cons_append] at same
          exact absurd same.symm (replicate_append_ne_three few notQuote)
  | cons few first _ ih =>
      rcases first.exists_cons isQuote (.head _) with ⟨d, others, rfl, notQuote⟩
      cases otherWithin with
      | nil =>
          simp only [List.append_assoc, List.cons_append] at same
          exact absurd same (replicate_append_ne_three few notQuote)
      | cons _ otherFirst otherOthers =>
          rcases otherFirst.exists_cons isQuote (.head _) with ⟨e, _, rfl, otherNotQuote⟩
          simp only [List.append_assoc, List.cons_append] at same
          rcases replicate_append_injective notQuote otherNotQuote same with ⟨rfl, sameBehind⟩
          rw [← List.cons_append, ← List.cons_append] at sameBehind
          rcases first.unique (by simp) otherFirst sameBehind with ⟨sameWritten, rfl, sameLater⟩
          rcases ih otherOthers sameLater with ⟨rfl, rfl, sameRest⟩
          exact ⟨by rw [sameWritten], rfl, sameRest⟩

theorem LongBody.append (within : LongBody quote body text) (behind : LongBody quote otherBody otherText) :
    LongBody quote (body ++ otherBody) (text ++ otherText) := by
  induction within with
  | nil => exact behind
  | cons few first _ ih =>
      rw [List.append_assoc, List.append_assoc, List.append_assoc, List.cons_append]
      exact .cons few first ih

/-- The last character of what is between triple quotes, unless there is nothing. -/
theorem LongBody.exists_last (within : LongBody quote body text) :
    body = [] ∧ text = [] ∨ ∃ front written before c, body = front ++ written ∧ text = before ++ [c] ∧
      WritesChar [quote, '\\'] written c := by
  induction within with
  | nil => exact .inl ⟨rfl, rfl⟩
  | @cons quotes written body text c few first _ ih =>
      right
      rcases ih with ⟨rfl, rfl⟩ | ⟨front, last, before, d, rfl, rfl, isLast⟩
      · exact ⟨List.replicate quotes quote, written, List.replicate quotes quote, c, by simp, rfl, first⟩
      · exact ⟨List.replicate quotes quote ++ (written ++ front), last, List.replicate quotes quote ++ c :: before, d,
          by simp, by simp, isLast⟩

/-! ## The string that a text begins with -/

/-- A string between single quotes is the longest unless it is empty and another quote stands behind it. -/
theorem beginsWithString_short (isQuote : isQuote quote) (within : ShortBody quote body text)
    (behind : rest.head? ≠ some quote) :
    BeginsWithString (quote :: (body ++ quote :: rest)) text rest (quote :: (body ++ [quote])) where
  isString := .short isQuote within
  isText := by simp
  longest := by
    rintro other otherMeaning isString ⟨otherRest, isText⟩
    cases isString with
    | short _ otherWithin =>
        simp only [List.cons_append, List.append_assoc, List.cons.injEq, List.nil_append] at isText
        rcases isText with ⟨rfl, isText⟩
        rcases otherWithin.unique isQuote within isText with ⟨rfl, _, _⟩
        exact List.prefix_rfl
    | long _ _ =>
        simp only [List.replicate_succ, List.cons_append, List.cons.injEq] at isText
        rcases isText with ⟨rfl, isText⟩
        obtain rfl := within.eq_nil_of_append isQuote isText.symm
        simp only [List.nil_append, List.cons.injEq, true_and] at isText
        simp [← isText] at behind

/-- A string between triple quotes is the longest, whatever stands behind it. -/
theorem beginsWithString_long (isQuote : isQuote quote) (within : LongBody quote body text) :
    BeginsWithString (List.replicate 3 quote ++ (body ++ (List.replicate 3 quote ++ rest))) text rest
      (List.replicate 3 quote ++ (body ++ List.replicate 3 quote)) where
  isString := .long isQuote within
  isText := by simp
  longest := by
    rintro other otherMeaning isString ⟨otherRest, isText⟩
    cases isString with
    | short _ otherWithin =>
        simp only [List.replicate_succ, List.cons_append, List.append_assoc, List.cons.injEq] at isText
        rcases isText with ⟨rfl, isText⟩
        obtain rfl := otherWithin.eq_nil_of_append isQuote isText
        simp [List.replicate_succ, List.prefix_iff_eq_append]
    | @long otherQuote _ _ _ otherWithin =>
        have sameQuote : otherQuote = quote := by
          simp only [List.replicate_succ, List.cons_append, List.cons.injEq] at isText
          exact isText.1
        subst sameQuote
        simp only [List.append_assoc] at isText
        rcases otherWithin.unique isQuote within (List.append_cancel_left isText) with ⟨rfl, _, _⟩
        exact List.prefix_rfl

/-- What a string means. -/
theorem IsString.meaning_unique {token meaning otherMeaning : List Char} (isString : IsString token meaning)
    (other : IsString token otherMeaning) : meaning = otherMeaning := by
  cases isString with
  | @short quote body _ isQuote within =>
      generalize isToken : quote :: (body ++ [quote]) = token at other
      cases other with
      | short _ otherWithin =>
          rcases List.cons.inj isToken with ⟨rfl, same⟩
          exact (within.unique isQuote otherWithin same).2.1
      | long _ _ =>
          simp only [List.replicate_succ, List.cons_append, List.cons.injEq] at isToken
          rcases isToken with ⟨rfl, isToken⟩
          obtain rfl := within.eq_nil_of_append isQuote isToken
          simp at isToken
  | @long quote body _ isQuote within =>
      generalize isToken : List.replicate 3 quote ++ (body ++ List.replicate 3 quote) = token at other
      cases other with
      | short _ otherWithin =>
          simp only [List.replicate_succ, List.cons_append, List.cons.injEq] at isToken
          rcases isToken with ⟨rfl, isToken⟩
          obtain rfl := otherWithin.eq_nil_of_append isQuote isToken.symm
          simp at isToken
      | @long otherQuote otherBody _ _ otherWithin =>
          have sameQuote : quote = otherQuote := by
            simp only [List.replicate_succ, List.cons_append, List.cons.injEq] at isToken
            exact isToken.1
          subst sameQuote
          have same : body ++ (List.replicate 3 quote ++ []) = otherBody ++ (List.replicate 3 quote ++ []) := by
            simpa using List.append_cancel_left isToken
          exact (within.unique isQuote otherWithin same).2.1

/-- A text begins with one string, which means one text. -/
theorem BeginsWithString.unique {meaning otherMeaning token otherToken : List Char}
    (begins : BeginsWithString text meaning rest token)
    (other : BeginsWithString text otherMeaning otherRest otherToken) :
    token = otherToken ∧ meaning = otherMeaning ∧ rest = otherRest := by
  have within := begins.longest _ _ other.isString ⟨_, other.isText⟩
  have around := other.longest _ _ begins.isString ⟨_, begins.isText⟩
  have same : token = otherToken := around.eq_of_length_le within.length_le
  subst same
  exact ⟨rfl, begins.isString.meaning_unique other.isString,
    List.append_cancel_left (begins.isText.trans other.isText.symm)⟩

end Sparql.Syntax
