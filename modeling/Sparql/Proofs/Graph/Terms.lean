import Sparql.Graph.NTriples
import Sparql.Proofs.Term.Literal

/-!
# Terms of lines

How IRIs and literals are written in documents with a statement on every line, and that they are read as what is
written, whatever stands behind them. A character stands for itself, or it is written with a backslash: by a letter, as
strings allow, or by its code. A literal with a datatype means the literal that the text and the datatype make.
-/

namespace Sparql.Graph.NTriples

open Sparql.Text

/-! ## Written characters -/

/-- A character as it is written: as it is, unless it is barred, or as a backslash and a letter, or by its code. -/
inductive WritesChar (short : Char → Option Char) (barred : Char → Bool) : List Char → Char → Prop
  | plain {c : Char} (free : barred c = false) (notBackslash : c ≠ '\\') : WritesChar short barred [c] c
  | escape {letter c : Char} (means : short letter = some c) : WritesChar short barred ['\\', letter] c
  | code {mark c : Char} {digits : List Char} (length : codeLength? mark = some digits.length)
      (isCode : hexNumber? digits = some c.toNat) : WritesChar short barred ('\\' :: mark :: digits) c

/-- A text as its written characters. -/
inductive WritesText (short : Char → Option Char) (barred : Char → Bool) : List Char → List Char → Prop
  | nil : WritesText short barred [] []
  | cons {written body text : List Char} {c : Char} (first : WritesChar short barred written c)
      (others : WritesText short barred body text) : WritesText short barred (written ++ body) (c :: text)

/-- A character that may stand in every text: it ends no IRI and no string, and begins no escape. -/
def IsBare (c : Char) : Prop := endsIri c = false ∧ c ≠ ':' ∧ c ≠ '\\'

instance : DecidablePred IsBare := fun c => inferInstanceAs (Decidable (endsIri c = false ∧ c ≠ ':' ∧ c ≠ '\\'))

variable {short : Char → Option Char} {barred : Char → Bool} {c d mark : Char}
  {written body text rest read digits : List Char}

theorem isBare_of_hexValue? (isDigit : (hexValue? d).isSome) : IsBare d := by
  have bounds : 48 ≤ d.toNat ∧ d.toNat ≤ 57 ∨ 97 ≤ d.toNat ∧ d.toNat ≤ 102 ∨ 65 ≤ d.toNat ∧ d.toNat ≤ 70 := by
    unfold hexValue? at isDigit
    dsimp only at isDigit
    split_ifs at isDigit with decimal lower upper
    · exact .inl decimal
    · exact .inr (.inl lower)
    · exact .inr (.inr upper)
    · cases isDigit
  have differs : ∀ c : Char, c.toNat ∈ [34, 58, 60, 62, 92] → d ≠ c := by
    rintro c mem rfl
    simp at mem
    omega
  have notBlank : isBlank d = false := by
    simp [isBlank]
    omega
  refine ⟨?_, differs ':' (by decide), differs '\\' (by decide)⟩
  simp [endsIri, notBlank, differs '"' (by decide), differs '<' (by decide), differs '>' (by decide)]

/-- Only digits make a number. -/
theorem forall_isSome_of_foldl {sum : Option Nat}
    (isSome : (digits.foldl (fun sum c => do return (← sum) * 16 + (← hexValue? c)) sum).isSome) :
    sum.isSome ∧ ∀ d ∈ digits, (hexValue? d).isSome := by
  induction digits generalizing sum with
  | nil => exact ⟨isSome, by simp⟩
  | cons d digits ih =>
      rcases ih isSome with ⟨isSum, areDigits⟩
      cases sum <;> cases isDigit : hexValue? d <;> simp [isDigit] at isSum
      exact ⟨rfl, by simpa [isDigit] using areDigits⟩

theorem isBare_of_codeLength? {length : Nat} (isMark : codeLength? mark = some length) : IsBare mark := by
  unfold codeLength? at isMark
  split at isMark <;> first | decide | cases isMark

/-- What a text is written with are characters that may stand in it, and what may stand behind a backslash. -/
theorem WritesText.forall_mem {holds : Char → Prop} (writes : WritesText short barred body text)
    (backslash : holds '\\') (plain : ∀ c, barred c = false → c ≠ '\\' → holds c)
    (letters : ∀ letter c, short letter = some c → holds letter) (bare : ∀ c, IsBare c → holds c) :
    ∀ c ∈ body, holds c := by
  induction writes with
  | nil => simp
  | cons first _ ih =>
      rw [List.forall_mem_append]
      refine ⟨?_, ih⟩
      cases first with
      | plain free notBackslash => simpa using plain _ free notBackslash
      | escape means => simpa using ⟨backslash, letters _ _ means⟩
      | code length isCode =>
          simp only [List.mem_cons, forall_eq_or_imp]
          have areDigits := (forall_isSome_of_foldl (Option.isSome_of_eq_some isCode)).2
          exact ⟨backslash, bare _ (isBare_of_codeLength? length), fun d mem => bare _ (isBare_of_hexValue? (areDigits d mem))⟩

/-- Whether no character of a text needs an escape. -/
def isFree (barred : Char → Bool) (text : List Char) : Bool := text.all fun c => !barred c && c ≠ '\\'

/-- A text of which nothing is barred may be written as it is. -/
theorem writesText_self (free : isFree barred text) : WritesText short barred text text := by
  induction text with
  | nil => exact .nil
  | cons c text ih =>
      simp only [isFree, List.all_cons, Bool.and_eq_true, Bool.not_eq_true', decide_eq_true_eq] at free
      exact .cons (.plain free.1.1 free.1.2) (ih free.2)

/-! ### What is read -/

theorem unescapeOnto_skip (read : List Char) (passed : List Char) (rest : List Char) :
    unescapeOnto read passed.length (passed ++ rest) = unescapeOnto read 0 rest := by
  induction passed with
  | nil => rfl
  | cons c passed ih =>
      rw [List.length_cons, List.cons_append, unescapeOnto]
      exact ih

theorem character?_toNat (c : Char) : character? c.toNat = some c := by
  have valid : c.toNat < 0xD800 ∨ 0xDFFF < c.toNat ∧ c.toNat < 0x110000 := c.valid
  have inRange : ¬ 0x10FFFF < c.toNat := by omega
  have notHalf : ¬ (0xD800 ≤ c.toNat ∧ c.toNat ≤ 0xDFFF) := by omega
  rw [character?, if_neg inRange, if_neg notHalf, Char.ofNat_toNat]

theorem coded?_append (length : codeLength? mark = some digits.length) (isCode : hexNumber? digits = some c.toNat)
    (rest : List Char) : coded? mark (digits ++ rest) = some (some c, digits.length) := by
  simp [coded?, length, leadingCode?, isCode, character?_toNat]

theorem escapedBy?_of_codeLength? {length : Nat} (isMark : codeLength? mark = some length) : escapedBy? mark = none := by
  unfold codeLength? at isMark
  split at isMark <;> first | rfl | cases isMark

/-- A text is read back from its written characters, if the letters behind backslashes are those that are read. -/
theorem unescapeOnto_append (areRead : ∀ letter c, short letter = some c → escapedBy? letter = some c)
    (writes : WritesText short barred body text) (read rest : List Char) :
    unescapeOnto read 0 (body ++ rest) = unescapeOnto (text.reverse ++ read) 0 rest := by
  induction writes generalizing read with
  | nil => rfl
  | @cons written body text c first others ih =>
      have front : unescapeOnto read 0 (written ++ (body ++ rest)) = unescapeOnto (c :: read) 0 (body ++ rest) := by
        -- Behind a backslash the reader has the character at once and passes over what is left of its code.
        cases first with
        | plain free notBackslash =>
            rw [List.singleton_append, unescapeOnto]
            exact fun _ _ isBackslash _ => notBackslash isBackslash
        | @escape letter _ means =>
            rw [List.cons_append, List.cons_append, List.nil_append, unescapeOnto, areRead letter c means]
            exact unescapeOnto_skip (c :: read) [letter] (body ++ rest)
        | @code mark _ digits length isCode =>
            rw [List.cons_append, List.cons_append, unescapeOnto, escapedBy?_of_codeLength? length,
              coded?_append length isCode]
            exact unescapeOnto_skip (c :: read) (mark :: digits) (body ++ rest)
      rw [List.append_assoc, front, ih, List.reverse_cons, List.append_assoc, List.singleton_append]

theorem unescape?_of_writes (areRead : ∀ letter c, short letter = some c → escapedBy? letter = some c)
    (writes : WritesText short barred body text) : unescape? body = some text := by
  have whole := unescapeOnto_append areRead writes [] []
  rw [List.append_nil, List.append_nil] at whole
  rw [unescape?, whole, unescapeOnto, List.reverse_reverse]

/-! ## IRIs -/

/-- No letter stands behind a backslash. -/
def noLetters : Char → Option Char := fun _ => none

/-- What a scheme does not hold: what no IRI holds, and the colon that ends it. -/
def endsScheme (c : Char) : Bool := endsIri c || c = ':'

/-- An IRI between its brackets, as it is written: a scheme, a colon and what stands behind it. -/
inductive WritesIri : List Char → String → Prop
  | iri {scheme path begins goesOn : List Char} (notEmpty : scheme ≠ []) (isScheme : WritesText noLetters endsScheme scheme begins)
      (isPath : WritesText noLetters endsIri path goesOn) :
      WritesIri ('<' :: (scheme ++ ':' :: (path ++ ['>']))) (String.ofList (begins ++ ':' :: goesOn))

theorem noLetters_areRead : ∀ letter c, noLetters letter = some c → escapedBy? letter = some c := by
  rintro letter c ⟨⟩

theorem not_endsIri_of_writes (writes : WritesText noLetters endsIri body text) : ∀ c ∈ body, endsIri c = false :=
  writes.forall_mem (by decide) (fun _ free _ => free) (by rintro _ _ ⟨⟩) fun _ bare => bare.1

theorem not_endsScheme_of_writes (writes : WritesText noLetters endsScheme body text) :
    ∀ c ∈ body, endsScheme c = false :=
  writes.forall_mem (by decide) (fun _ free _ => free) (by rintro _ _ ⟨⟩) fun c bare => by
    simp [endsScheme, bare.1, bare.2.1]

/-- A colon may be written as it is. -/
theorem unescape?_iri {scheme path begins goesOn : List Char} (isScheme : WritesText noLetters endsScheme scheme begins)
    (isPath : WritesText noLetters endsIri path goesOn) :
    unescape? (scheme ++ ':' :: path) = some (begins ++ ':' :: goesOn) := by
  have colon : WritesText noLetters endsIri (':' :: path) (':' :: goesOn) :=
    .cons (.plain (by decide) (by decide)) isPath
  have whole := unescapeOnto_append noLetters_areRead colon begins.reverse []
  rw [unescape?, unescapeOnto_append noLetters_areRead isScheme, List.append_nil]
  rw [List.append_nil] at whole
  rw [whole, unescapeOnto]
  simp

/-- An IRI is read up to its closing bracket. -/
theorem iri?_append {chars : List Char} {iri : String} (writes : WritesIri chars iri) (rest : List Char) :
    ∃ body, chars = '<' :: body ∧ iri? (body ++ rest) = some (iri, rest) := by
  cases writes with
  | @iri scheme path begins goesOn notEmpty isScheme isPath =>
      refine ⟨_, rfl, ?_⟩
      have inScheme : ∀ c ∈ scheme, decide (c ≠ ':') = true := by
        intro c mem
        have free := not_endsScheme_of_writes isScheme c mem
        simp only [endsScheme, Bool.or_eq_false_iff, decide_eq_false_iff_not] at free
        simpa using free.2
      have inPath : ∀ c ∈ path, (!endsIri c) = true := by
        intro c mem
        simp [not_endsIri_of_writes isPath c mem]
      have text : scheme ++ ':' :: (path ++ ['>']) ++ rest = scheme ++ (':' :: (path ++ '>' :: rest)) := by simp
      have takeScheme : (scheme ++ (':' :: (path ++ '>' :: rest))).takeWhile (· ≠ ':') = scheme := by
        rw [List.takeWhile_append_of_pos inScheme]
        simp
      have dropScheme : (scheme ++ (':' :: (path ++ '>' :: rest))).dropWhile (· ≠ ':') = ':' :: (path ++ '>' :: rest) := by
        rw [List.dropWhile_append_of_pos inScheme]
        simp
      have closes : endsIri '>' = true := by decide
      have takePath : (path ++ '>' :: rest).takeWhile (!endsIri ·) = path := by
        rw [List.takeWhile_append_of_pos inPath]
        simp [closes]
      have dropPath : (path ++ '>' :: rest).dropWhile (!endsIri ·) = '>' :: rest := by
        rw [List.dropWhile_append_of_pos inPath]
        simp [closes]
      have notEmpty : scheme.isEmpty = false := by simpa using notEmpty
      rw [text, iri?, takeScheme, dropScheme]
      simp [notEmpty, takePath, dropPath, unescape?_iri isScheme isPath]

/-! ## Strings -/

/-- What no string holds: its quote, and what ends the line. -/
def endsString (c : Char) : Bool := c = '"' || c = '\n' || c = '\r'

/-- What stands between the quotes of a string, and its meaning. -/
abbrev WritesString : List Char → List Char → Prop := WritesText escapedBy? endsString

theorem quotedOnto_cons (notQuote : c ≠ '"') (notBackslash : c ≠ '\\') (read rest : List Char) :
    quotedOnto read (c :: rest) = quotedOnto (c :: read) rest := by
  rw [quotedOnto, if_neg notBackslash]
  · exact notQuote
  · exact fun _ _ isBackslash _ => notBackslash isBackslash

theorem quotedOnto_bare (areBare : ∀ d ∈ digits, IsBare d) (read rest : List Char) :
    quotedOnto read (digits ++ rest) = quotedOnto (digits.reverse ++ read) rest := by
  induction digits generalizing read with
  | nil => rfl
  | cons d digits ih =>
      rw [List.forall_mem_cons] at areBare
      have notQuote : d ≠ '"' := by
        rintro rfl
        exact absurd areBare.1.1 (by decide)
      rw [List.cons_append, quotedOnto_cons notQuote areBare.1.2.2, ih areBare.2, List.reverse_cons, List.append_assoc,
        List.singleton_append]

/-- A string is read up to its closing quote. -/
theorem quotedOnto_append (writes : WritesString body text) (read rest : List Char) :
    quotedOnto read (body ++ '"' :: rest) = some (read.reverse ++ body, rest) := by
  induction writes generalizing read with
  | nil => simp [quotedOnto]
  | @cons written body text c first others ih =>
      have front : quotedOnto read (written ++ (body ++ '"' :: rest)) =
          quotedOnto (written.reverse ++ read) (body ++ '"' :: rest) := by
        -- No digit of a code is a quote, so the string does not end in an escape.
        cases first with
        | plain free notBackslash =>
            simp only [endsString, Bool.or_eq_false_iff, decide_eq_false_iff_not] at free
            exact quotedOnto_cons free.1.1 notBackslash _ _
        | escape means => rfl
        | @code mark _ digits length isCode =>
            have areBare : ∀ d ∈ digits, IsBare d := fun d mem =>
              isBare_of_hexValue? ((forall_isSome_of_foldl (Option.isSome_of_eq_some isCode)).2 d mem)
            rw [List.cons_append, List.cons_append, quotedOnto, quotedOnto_bare areBare]
            simp
      rw [List.append_assoc, front, ih]
      simp

/-! ## Languages -/

/-- A language tag: letters, and then letters and digits behind hyphens. -/
inductive IsTag : List Char → Prop
  | tag {first : List Char} {others : List (List Char)} (notEmpty : first ≠ []) (areLetters : ∀ c ∈ first, c.isAlpha)
      (areParts : ∀ part ∈ others, part ≠ [] ∧ ∀ c ∈ part, c.isAlphanum) : IsTag (first ++ others.flatMap ('-' :: ·))

/-- What may stand behind a term: a blank, another term that stands between brackets, a stop or nothing. -/
def EndsTerm (rest : List Char) : Prop := ∀ c ∈ rest.head?, isGap c ∨ c = '<' ∨ c = '.'

theorem EndsTerm.not_alphanum (ends : EndsTerm rest) : ∀ c ∈ rest.head?, c.isAlphanum = false ∧ c ≠ '-' := by
  intro c isHead
  have cases : c = ' ' ∨ c = '\t' ∨ c = '<' ∨ c = '.' := by
    simpa [isGap, or_assoc] using ends c isHead
  rcases cases with rfl | rfl | rfl | rfl <;> decide

theorem dropWhile_eq_self_of_head? {holds : Char → Bool} (notFirst : ∀ c ∈ rest.head?, holds c = false) :
    rest.dropWhile holds = rest := by
  cases rest with
  | nil => rfl
  | cons c rest => exact List.dropWhile_cons_of_neg (by simp [notFirst c rfl])

section Tag

variable {others : List (List Char)}

/-- Parts behind hyphens begin with a hyphen, unless there are none. -/
theorem head?_parts (others : List (List Char)) (rest : List Char) :
    ∀ c ∈ (others.flatMap ('-' :: ·) ++ rest).head?, c = '-' ∨ c ∈ rest.head? := by
  cases others with
  | nil => exact fun c isHead => .inr isHead
  | cons part others =>
      intro c isHead
      simp at isHead
      exact .inl isHead.symm

theorem not_alphanum_parts (ends : ∀ c ∈ rest.head?, c.isAlphanum = false) :
    ∀ c ∈ (others.flatMap ('-' :: ·) ++ rest).head?, c.isAlphanum = false := by
  intro c isHead
  rcases head?_parts others rest c isHead with rfl | inRest
  · decide
  · exact ends c inRest

theorem behindSubtags_append (areParts : ∀ part ∈ others, part ≠ [] ∧ ∀ c ∈ part, c.isAlphanum) (ends : EndsTerm rest) :
    behindSubtags (others.flatMap ('-' :: ·) ++ rest) = rest := by
  have behind : ∀ c ∈ rest.head?, c.isAlphanum = false := fun c isHead => (ends.not_alphanum c isHead).1
  induction others with
  | nil =>
      rw [List.flatMap_nil, List.nil_append, behindSubtags]
      rintro c others rfl
      exact (ends.not_alphanum '-' rfl).2 rfl
  | cons part others ih =>
      rw [List.forall_mem_cons] at areParts
      rcases areParts with ⟨⟨notEmpty, areCharacters⟩, areParts⟩
      rcases List.exists_cons_of_ne_nil notEmpty with ⟨c, part, rfl⟩
      rw [List.forall_mem_cons] at areCharacters
      have dropped : behindSubtag (part ++ (others.flatMap ('-' :: ·) ++ rest)) = others.flatMap ('-' :: ·) ++ rest := by
        rw [behindSubtag, List.dropWhile_append_of_pos areCharacters.2,
          dropWhile_eq_self_of_head? (not_alphanum_parts behind)]
      have text : ((c :: part) :: others).flatMap ('-' :: ·) ++ rest =
          '-' :: c :: (part ++ (others.flatMap ('-' :: ·) ++ rest)) := by
        simp
      rw [text, behindSubtags, if_pos areCharacters.1, dropped, ih areParts]

theorem isSubtags_parts (areParts : ∀ part ∈ others, part ≠ [] ∧ ∀ c ∈ part, c.isAlphanum) :
    Literal.isSubtags (others.flatMap ('-' :: ·)) := by
  induction others with
  | nil => simp [Literal.isSubtags]
  | cons part others ih =>
      rw [List.forall_mem_cons] at areParts
      rcases areParts with ⟨⟨notEmpty, areCharacters⟩, areParts⟩
      rcases List.exists_cons_of_ne_nil notEmpty with ⟨c, part, rfl⟩
      rw [List.forall_mem_cons] at areCharacters
      have notFirst : ∀ c ∈ (others.flatMap ('-' :: ·) ++ []).head?, c.isAlphanum = false :=
        not_alphanum_parts (by simp)
      rw [List.append_nil] at notFirst
      have dropped : (part ++ others.flatMap ('-' :: ·)).dropWhile Literal.isTagCharacter = others.flatMap ('-' :: ·) := by
        have sameClass : Literal.isTagCharacter = Char.isAlphanum := rfl
        rw [sameClass, List.dropWhile_append_of_pos areCharacters.2, dropWhile_eq_self_of_head? notFirst]
      rw [List.flatMap_cons, List.cons_append, List.cons_append, Literal.isSubtags, dropped, ih areParts, Bool.and_true]
      exact areCharacters.1

theorem isAlphanum_of_isAlpha (isAlpha : c.isAlpha) : c.isAlphanum := by
  simp [Char.isAlphanum, isAlpha]

/-- A language tag is read up to what may stand behind a term. -/
theorem languageTag?_append {tag : List Char} (isTag : IsTag tag) (ends : EndsTerm rest) :
    languageTag? Char.isAlpha (tag ++ rest) = some (String.ofList tag, rest) := by
  cases isTag with
  | @tag first others notEmpty areLetters areParts =>
      have notLetter : ∀ c ∈ (others.flatMap ('-' :: ·) ++ rest).head?, c.isAlpha = false := by
        intro c isHead
        have notCharacter := not_alphanum_parts (fun c isHead => (ends.not_alphanum c isHead).1) c isHead
        by_contra isAlpha
        simp [isAlphanum_of_isAlpha (by simpa using isAlpha)] at notCharacter
      have dropped : (first ++ others.flatMap ('-' :: ·) ++ rest).dropWhile Char.isAlpha =
          others.flatMap ('-' :: ·) ++ rest := by
        rw [List.append_assoc, List.dropWhile_append_of_pos areLetters, dropWhile_eq_self_of_head? notLetter]
      have shorter : (others.flatMap ('-' :: ·) ++ rest).length ≠ (first ++ others.flatMap ('-' :: ·) ++ rest).length := by
        have := List.length_pos_iff.mpr notEmpty
        simp only [List.length_append]
        omega
      have taken (tag : List Char) : (tag ++ rest).take ((tag ++ rest).length - rest.length) = tag := by
        rw [List.length_append, Nat.add_sub_cancel, List.take_left]
      rw [languageTag?, dropped, if_neg shorter, behindSubtags_append areParts ends]
      simp only [taken]

theorem isLanguageTag_ofList {tag : List Char} (isTag : IsTag tag) : Literal.isLanguageTag (String.ofList tag) := by
  cases isTag with
  | @tag first others notEmpty areLetters areParts =>
      rcases List.exists_cons_of_ne_nil notEmpty with ⟨c, first, rfl⟩
      rw [List.forall_mem_cons] at areLetters
      have notLetter : ∀ c ∈ (others.flatMap ('-' :: ·)).head?, c.isAlpha = false := by
        intro c isHead
        rcases head?_parts others [] c (by simpa using isHead) with rfl | ⟨⟨⟩⟩
        decide
      have sameClass : Literal.isTagLetter = Char.isAlpha := rfl
      have dropped : (first ++ others.flatMap ('-' :: ·)).dropWhile Char.isAlpha = others.flatMap ('-' :: ·) := by
        rw [List.dropWhile_append_of_pos areLetters.2, dropWhile_eq_self_of_head? notLetter]
      rw [Literal.isLanguageTag, String.toList_ofList, List.cons_append]
      simp only [sameClass, dropped, isSubtags_parts areParts, areLetters.1, Bool.and_self]

end Tag

/-! ## Terms -/

/-- A literal as it is written: a string between quotes, and behind them a language, a datatype or nothing. -/
inductive WritesLiteral : List Char → Literal → Prop
  | plain {body text : List Char} (within : WritesString body text) :
      WritesLiteral ('"' :: (body ++ ['"'])) (.plain (String.ofList text))
  | tagged {body text tag : List Char} (within : WritesString body text) (isTag : IsTag tag) :
      WritesLiteral ('"' :: (body ++ '"' :: '@' :: tag)) ⟨String.ofList text, some (String.ofList tag), none⟩
  | typed {body text datatype : List Char} {iri : String} {literal : Literal} (within : WritesString body text)
      (isDatatype : WritesIri datatype iri) (isBuilt : Literal.ofText (String.ofList text) none (some iri) = .ok literal) :
      WritesLiteral ('"' :: (body ++ '"' :: '^' :: '^' :: datatype)) literal

/-- An object as it is written. -/
inductive WritesObject : List Char → Term → Prop
  | iri {chars : List Char} {iri : String} (writes : WritesIri chars iri) : WritesObject chars (.iri iri)
  | literal {chars : List Char} {literal : Literal} (writes : WritesLiteral chars literal) :
      WritesObject chars (.literal literal)

section Terms

variable {chars : List Char} {iri : String} {literal : Literal} {term : Term}

theorem resource?_append (writes : WritesIri chars iri) (rest : List Char) :
    resource? (chars ++ rest) = some (.iri iri, rest) := by
  rcases iri?_append writes rest with ⟨body, rfl, isRead⟩
  simp [resource?, isRead]

theorem predicate?_append (writes : WritesIri chars iri) (rest : List Char) :
    predicate? (chars ++ rest) = some (.iri iri, rest) := by
  rcases iri?_append writes rest with ⟨body, rfl, isRead⟩
  simp [predicate?, isRead]

theorem unescape?_string {body text : List Char} (within : WritesString body text) : unescape? body = some text :=
  unescape?_of_writes (fun _ _ => id) within

/-- Behind a plain literal stands neither a language nor a datatype. -/
theorem EndsTerm.neither (ends : EndsTerm rest) : (∀ tag, rest ≠ '@' :: tag) ∧ datatype? rest = some (none, rest) := by
  constructor
  · rintro tag rfl
    simpa [isGap] using ends '@' rfl
  · unfold datatype?
    split
    · simpa [isGap] using ends '^' rfl
    · rfl

/-- A literal is read up to what may stand behind a term. -/
theorem literalTerm?_append (writes : WritesLiteral chars literal) (ends : EndsTerm rest) :
    ∃ body, chars = '"' :: body ∧ literalTerm? (body ++ rest) = some (.literal literal, rest) := by
  cases writes with
  | @plain body text within =>
      refine ⟨_, rfl, ?_⟩
      rcases ends.neither with ⟨noTag, noDatatype⟩
      rw [List.append_assoc, List.singleton_append, literalTerm?, quotedOnto_append within]
      simp [unescape?_string within, noDatatype, literal?]
  | @tagged body text tag within isTag =>
      refine ⟨_, rfl, ?_⟩
      have notEmpty : String.ofList tag ≠ "" := by
        intro isEmpty
        have isLanguageTag := isLanguageTag_ofList isTag
        rw [isEmpty] at isLanguageTag
        cases isLanguageTag
      have built : literal? text (some (String.ofList tag)) none =
          some (.literal ⟨String.ofList text, some (String.ofList tag), none⟩) := by
        rw [literal?, Literal.ofText_tagged notEmpty, if_pos (isLanguageTag_ofList isTag)]
      rw [List.append_assoc, List.cons_append, List.cons_append, literalTerm?, quotedOnto_append within]
      simp [unescape?_string within, languageTag?_append isTag ends, built]
  | @typed body text datatype iri literal within isDatatype isBuilt =>
      refine ⟨_, rfl, ?_⟩
      rcases iri?_append isDatatype rest with ⟨name, rfl, isRead⟩
      rw [List.append_assoc, List.cons_append, List.cons_append, List.cons_append, List.cons_append, literalTerm?,
        quotedOnto_append within]
      simp [unescape?_string within, datatype?, isRead, literal?, isBuilt]

theorem object?_append (writes : WritesObject chars term) (ends : EndsTerm rest) :
    object? (chars ++ rest) = some (term, rest) := by
  cases writes with
  | iri writes =>
      rcases iri?_append writes rest with ⟨body, rfl, isRead⟩
      simp [object?, resource?, isRead]
  | literal writes =>
      rcases literalTerm?_append writes ends with ⟨body, rfl, isRead⟩
      rw [List.cons_append, object?, isRead]

end Terms

end Sparql.Graph.NTriples
