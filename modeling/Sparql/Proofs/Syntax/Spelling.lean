import Sparql.Proofs.Syntax.Token

/-!
# Query text part by part

A token cannot be made longer, nor a broken text made whole, by closing parentheses and a space behind it. So a
text that is put together from parts has the tokens of its parts.

What follows a part is left open: `Closes` is what may follow it, and each reader is shown to read the same with that
behind its text. `Spells` says so of a whole part, and is all that is used of the readers elsewhere.
-/

namespace Sparql.Syntax

variable {quote c : Char} {text more body rest : List Char} {token : Token} {tokens : List Token}

/-! ## Tokens with more text behind them -/

/-- What may stand behind a part of a text: closing parentheses, and then a space unless the text ends. -/
inductive Closes : List Char → Prop
  | nil : Closes []
  | space (rest : List Char) : Closes (' ' :: rest)
  | bracket {rest : List Char} : Closes rest → Closes (')' :: rest)

theorem Closes.head (closes : Closes more) : ∀ c ∈ more.head?, c = ' ' ∨ c = ')' := by
  cases closes <;> simp

/-- A run that stops at spaces and parentheses stops behind a part. -/
theorem Closes.takeWhile_append {stays : Char → Bool} (closes : Closes more)
    (space : stays ' ' = false) (bracket : stays ')' = false) (text : List Char) :
    (text ++ more).takeWhile stays = text.takeWhile stays := by
  induction text with
  | nil => cases closes <;> simp [space, bracket]
  | cons c text ih => simp [List.takeWhile_cons, ih]

theorem Closes.dropWhile_append {stays : Char → Bool} (closes : Closes more)
    (space : stays ' ' = false) (bracket : stays ')' = false) (text : List Char) :
    (text ++ more).dropWhile stays = text.dropWhile stays ++ more := by
  induction text with
  | nil => cases closes <;> simp [space, bracket]
  | cons c text ih =>
      simp only [List.cons_append, List.dropWhile_cons, ih]
      split <;> rfl

/-- Parentheses may stand in an IRI, but a space cannot. -/
theorem Closes.readIri?_eq_none (closes : Closes more) : readIri? more = none := by
  have noBracket : ∀ rest, more.dropWhile isIriChar ≠ '>' :: rest := by
    induction closes with
    | nil => simp
    | space rest => simp [show isIriChar ' ' = false by decide]
    | bracket _ ih => simpa [show isIriChar ')' = true by decide] using ih
  unfold readIri?
  split
  · exact absurd ‹_› (noBracket _)
  · rfl

theorem readIri?_cons (c : Char) (text : List Char) :
    readIri? (c :: text) =
      if isIriChar c then (readIri? text).map (Prod.map (c :: ·) id)
      else if c = '>' then some (['>'], text) else none := by
  unfold readIri?
  by_cases isChar : isIriChar c
  · simp only [List.dropWhile_cons, List.takeWhile_cons, isChar, if_true]
    split <;> rfl
  · simp only [List.dropWhile_cons, List.takeWhile_cons, isChar, Bool.false_eq_true, if_false]
    split
    · rename_i same
      cases same
      rfl
    · rename_i different
      have notBracket : c ≠ '>' := fun same => different text (same ▸ rfl)
      simp [notBracket]

/-- What was read with more text behind it. -/
def Reading.followedBy {α : Type} (read : Reading α) (more : List Char) : Reading α :=
  read.map (Prod.map id (· ++ more))

theorem readIri?_append (closes : Closes more) (text : List Char) :
    readIri? (text ++ more) = (readIri? text).followedBy more := by
  induction text with
  | nil => exact closes.readIri?_eq_none
  | cons c text ih =>
      simp only [List.cons_append, readIri?_cons, ih, Reading.followedBy]
      split
      · simp [Function.comp_def, Prod.map]
      · split <;> rfl

theorem readShort?_append (read : readShort? quote text = some (body, rest)) :
    readShort? quote (text ++ more) = some (body, rest ++ more) := by
  fun_induction readShort? quote text generalizing body rest with
  | case1 | case3 | case5 | case6 => cases read
  | case2 behind =>
      cases read
      unfold readShort?
      simp
  | case4 d behind escapable notQuote ih =>
      rcases Option.map_eq_some_iff.mp read with ⟨⟨inner, left⟩, isRead, same⟩
      cases same
      unfold readShort?
      simp [notQuote, escapable, ih isRead]
  | case7 c behind notQuote notEscape plain ih =>
      rcases Option.map_eq_some_iff.mp read with ⟨⟨inner, left⟩, isRead, same⟩
      cases same
      simp only [Bool.or_eq_true, decide_eq_true_eq] at plain
      unfold readShort?
      simp [notQuote, notEscape, plain, ih isRead]

/-- What closes a part is no quote. -/
theorem Closes.take_eq_quotes (closes : Closes more) (isQuote : isQuote quote) (text : List Char) :
    (text ++ more).take 2 = [quote, quote] ↔ text.take 2 = [quote, quote] := by
  have notHead : ∀ c ∈ more.head?, c ≠ quote := by
    intro c mem
    rcases closes.head c mem with rfl | rfl <;> rintro rfl <;> cases isQuote
  match text with
  | [] => cases more <;> simp_all
  | [_] => cases more <;> simp_all
  | _ :: _ :: _ => simp

theorem readLong?_append (closes : Closes more) (isQuote : isQuote quote)
    (read : readLong? quote text = some (body, rest)) :
    readLong? quote (text ++ more) = some (body, rest ++ more) := by
  fun_induction readLong? quote text generalizing body rest with
  | case1 | case3 | case5 => cases read
  | case2 c behind ends =>
      cases read
      simp only [Bool.and_eq_true, decide_eq_true_eq] at ends
      have long : 2 ≤ behind.length := by
        have sameLength := congrArg List.length ends.2
        simp only [List.length_take, List.length_cons, List.length_nil] at sameLength
        omega
      unfold readLong?
      simp [ends, List.take_append_of_le_length long, List.drop_append_of_le_length long]
  | case4 d behind escapable goesOn ih =>
      rcases Option.map_eq_some_iff.mp read with ⟨⟨inner, left⟩, isRead, same⟩
      cases same
      have notQuote : quote ≠ '\\' := by
        rintro rfl
        cases isQuote
      unfold readLong?
      simp [notQuote.symm, escapable, ih isRead]
  | case6 c behind goesOn notEscape ih =>
      rcases Option.map_eq_some_iff.mp read with ⟨⟨inner, left⟩, isRead, same⟩
      cases same
      simp only [Bool.and_eq_true, decide_eq_true_eq] at goesOn
      unfold readLong?
      simp [closes.take_eq_quotes isQuote, goesOn, notEscape, ih isRead]

theorem readString?_append (closes : Closes more) (isQuote : isQuote quote)
    (read : readString? quote text = some (body, rest)) :
    readString? quote (text ++ more) = some (body, rest ++ more) := by
  unfold readString? at read ⊢
  simp only [closes.take_eq_quotes isQuote]
  split at read
  · rename_i isLong
    rcases Option.map_eq_some_iff.mp read with ⟨⟨inner, left⟩, isRead, same⟩
    cases same
    have long : 2 ≤ text.length := by
      have sameLength := congrArg List.length isLong
      simp only [List.length_take, List.length_cons, List.length_nil] at sameLength
      omega
    simp [isLong, List.drop_append_of_le_length long, readLong?_append closes isQuote isRead]
  · rename_i isShort
    simp [isShort, readShort?_append read]

theorem readSuffix_eq_nil (noTag : ∀ behind, text ≠ '@' :: behind)
    (noType : ∀ behind, text ≠ '^' :: '^' :: '<' :: behind) : readSuffix text = ([], text) := by
  unfold readSuffix
  split
  · exact absurd rfl (noTag _)
  · exact absurd rfl (noType _)
  · rfl

theorem readSuffix_append (closes : Closes more) (text : List Char) :
    readSuffix (text ++ more) = ((readSuffix text).1, (readSuffix text).2 ++ more) := by
  by_cases isTag : ∃ behind, text = '@' :: behind
  · rcases isTag with ⟨behind, rfl⟩
    simp only [readSuffix, List.cons_append]
    rw [closes.takeWhile_append (by decide) (by decide), closes.dropWhile_append (by decide) (by decide)]
    split <;> rfl
  by_cases isType : ∃ behind, text = '^' :: '^' :: '<' :: behind
  · rcases isType with ⟨behind, rfl⟩
    simp only [readSuffix, List.cons_append, readIri?_append closes]
    cases readIri? behind <;> rfl
  have noTag : ∀ behind, text ++ more ≠ '@' :: behind := by
    intro behind same
    rcases List.append_eq_cons_iff.mp same with ⟨_, isMore⟩ | ⟨left, isText, _⟩
    · cases closes <;> cases isMore
    · exact isTag ⟨left, isText⟩
  have noType : ∀ behind, text ++ more ≠ '^' :: '^' :: '<' :: behind := by
    intro behind same
    match text with
    | [] => cases closes <;> cases same
    | [_] => cases closes <;> cases same
    | [_, _] => cases closes <;> cases same
    | a :: b :: c :: left =>
        cases same
        exact isType ⟨left, rfl⟩
  rw [readSuffix_eq_nil noTag noType,
    readSuffix_eq_nil (fun behind same => isTag ⟨behind, same⟩) (fun behind same => isType ⟨behind, same⟩)]

theorem readLiteral?_append (closes : Closes more) (isQuote : isQuote quote)
    (read : readLiteral? quote text = some (token, rest)) :
    readLiteral? quote (text ++ more) = some (token, rest ++ more) := by
  rcases Option.map_eq_some_iff.mp read with ⟨⟨body, behind⟩, isRead, same⟩
  cases same
  unfold readLiteral?
  simp [readString?_append closes isQuote isRead, readSuffix_append closes]

theorem readIriOrMark_append (closes : Closes more) (text : List Char) :
    readIriOrMark (text ++ more) = Prod.map id (· ++ more) (readIriOrMark text) := by
  unfold readIriOrMark
  rw [readIri?_append closes]
  cases readIri? text <;> rfl

theorem readVariable_append (closes : Closes more) (sign : Char) (text : List Char) :
    readVariable sign (text ++ more) = Prod.map id (· ++ more) (readVariable sign text) := by
  unfold readVariable
  rw [closes.takeWhile_append (by decide) (by decide), closes.dropWhile_append (by decide) (by decide)]
  dsimp only
  split <;> rfl

theorem readBlank_append (closes : Closes more) (text : List Char) :
    readBlank (text ++ more) = Prod.map id (· ++ more) (readBlank text) := by
  unfold readBlank
  rw [closes.takeWhile_append (by decide) (by decide), closes.dropWhile_append (by decide) (by decide)]
  dsimp only
  split
  · simp
  · rfl

/-- What closes a part does not make its last token any longer. -/
theorem readToken?_append (closes : Closes more) (read : readToken? text = some (token, rest)) :
    readToken? (text ++ more) = some (token, rest ++ more) := by
  cases text with
  | nil => cases read
  | cons c text =>
      have sameHead : (text ++ more).head? = some ':' ↔ text.head? = some ':' := by
        cases text with
        | nil => cases closes <;> simp
        | cons _ _ => rfl
      simp only [List.cons_append, readToken?, sameHead] at read ⊢
      split at read
      · rw [if_pos ‹_›, readIriOrMark_append closes, Option.some.inj read]
        rfl
      rw [if_neg ‹_›]
      split at read
      · rename_i isBlank
        have isColon : c = '_' ∧ text.head? = some ':' := by simpa using isBlank
        have notNil : text ≠ [] := by
          rintro rfl
          cases isColon.2
        rw [if_pos isBlank, List.tail_append_of_ne_nil notNil, readBlank_append closes,
          Option.some.inj read]
        rfl
      rw [if_neg ‹_›]
      split at read
      · rw [if_pos ‹_›, readVariable_append closes, Option.some.inj read]
        rfl
      rw [if_neg ‹_›]
      split at read
      · rw [if_pos ‹_›, readLiteral?_append closes ‹_› read]
      rw [if_neg ‹_›]
      split at read
      · cases read
        rw [if_pos ‹_›, closes.takeWhile_append (by decide) (by decide),
          closes.dropWhile_append (by decide) (by decide)]
      · cases read
        rw [if_neg ‹_›]

/-! ## The tokens of a text -/

/-- A text has the same tokens however much longer it might be. -/
theorem lexFrom_congr {short long : Nat} (fits : text.length ≤ short) (atMost : short ≤ long) :
    lexFrom long text = lexFrom short text := by
  induction short generalizing text long with
  | zero =>
      cases List.length_eq_zero_iff.mp (Nat.le_zero.mp fits)
      unfold lexFrom
      rfl
  | succ short ih =>
      cases text with
      | nil =>
          unfold lexFrom
          rfl
      | cons c text =>
          cases long with
          | zero => omega
          | succ long =>
              have within : ∀ {left : List Char}, left <:+ text → lexFrom long left = lexFrom short left := by
                intro left isSuffix
                have shorter := isSuffix.length_le
                simp only [List.length_cons] at fits
                exact ih (by omega) (by omega)
              simp only [lexFrom]
              rw [within List.suffix_rfl, within (List.dropWhile_suffix _)]
              split
              · rfl
              split
              · rfl
              cases isRead : readToken? (c :: text) with
              | none => rfl
              | some read => simp only [within (readToken?_suffix isRead)]

/-- A character that a token begins with. -/
def startsToken (c : Char) : Bool := !isSpace c && c != '#'

theorem startsToken_iff : startsToken c ↔ isSpace c = false ∧ c ≠ '#' := by
  simp [startsToken]

@[simp]
theorem lex_nil : lex [] = some [] := rfl

theorem lex_space (isSpace : isSpace c) (text : List Char) : lex (c :: text) = lex text := by
  simp [lex, lexFrom, isSpace]

theorem lex_token (starts : startsToken c) (read : readToken? (c :: text) = some (token, rest)) :
    lex (c :: text) = (lex rest).map (token :: ·) := by
  have same : lexFrom text.length rest = lex rest :=
    lexFrom_congr (Nat.le_refl _) (readToken?_suffix read).length_le
  simp [lex, lexFrom, startsToken_iff.mp starts, read] at same ⊢
  rw [same]

theorem lex_broken (starts : startsToken c) (read : readToken? (c :: text) = none) :
    lex (c :: text) = none := by
  simp [lex, lexFrom, startsToken_iff.mp starts, read]

/-- A text is read from its beginning: a space is passed over, or a token is read. -/
theorem text_induction {holds : List Char → Prop} (nil : holds [])
    (space : ∀ c text, isSpace c → holds text → holds (c :: text))
    (comment : ∀ text, holds ('#' :: text))
    (token : ∀ c text, startsToken c →
      (∀ token rest, readToken? (c :: text) = some (token, rest) → rest <:+ text ∧ holds rest) →
      holds (c :: text))
    (text : List Char) : holds text := by
  induction isLength : text.length using Nat.strongRecOn generalizing text with
  | _ length ih =>
      subst isLength
      cases text with
      | nil => exact nil
      | cons c text =>
          have within : ∀ rest, rest <:+ text → holds rest := fun rest isSuffix =>
            ih rest.length (Nat.lt_succ_of_le isSuffix.length_le) rest rfl
          by_cases isSpace : isSpace c
          · exact space c text isSpace (within text List.suffix_rfl)
          by_cases isComment : c = '#'
          · exact isComment ▸ comment text
          · refine token c text (startsToken_iff.mpr ⟨by simpa using isSpace, isComment⟩) ?_
            exact fun _ rest read => ⟨readToken?_suffix read, within rest (readToken?_suffix read)⟩

/-- A text without strings and comments has tokens. -/
theorem exists_tokens (plain : ∀ c ∈ text, isQuote c = false ∧ c ≠ '#') :
    ∃ tokens, lex text = some tokens := by
  induction text using text_induction with
  | nil => exact ⟨[], rfl⟩
  | space c text isSpace ih =>
      rw [lex_space isSpace]
      exact ih fun d mem => plain d (List.mem_cons_of_mem c mem)
  | comment text => exact absurd rfl (plain '#' List.mem_cons_self).2
  | token c text starts ih =>
      have notQuote := (plain c List.mem_cons_self).1
      have isSome : (readToken? (c :: text)).isSome := by
        simp only [readToken?, notQuote, Bool.false_eq_true, if_false]
        repeat' split
        all_goals rfl
      rcases Option.isSome_iff_exists.mp isSome with ⟨⟨token, rest⟩, read⟩
      rcases ih token rest read with ⟨isSuffix, others⟩
      rcases others fun d mem => plain d (List.mem_cons_of_mem c (isSuffix.subset mem)) with
        ⟨tokens, isTokens⟩
      rw [lex_token starts read, isTokens]
      exact ⟨_, rfl⟩

/-- The first of the tokens of a text that begins with one. -/
theorem exists_of_lex_eq_some (starts : startsToken c) (isTokens : lex (c :: text) = some tokens) :
    ∃ token rest others, readToken? (c :: text) = some (token, rest) ∧ lex rest = some others ∧
      tokens = token :: others := by
  rcases read : readToken? (c :: text) with _ | ⟨token, rest⟩
  · rw [lex_broken starts read] at isTokens
    cases isTokens
  · rw [lex_token starts read] at isTokens
    rcases Option.map_eq_some_iff.mp isTokens with ⟨others, isOthers, rfl⟩
    exact ⟨token, rest, others, rfl, isOthers, rfl⟩

theorem readToken?_mark {mark : Char} (read : readToken? (c :: text) = some (.mark mark, rest)) :
    mark = c := by
  simp only [readToken?] at read
  split at read
  · simp only [readIriOrMark] at read
    split at read <;> cases read
    exact (‹c = '<'›).symm
  split at read
  · simp only [readBlank] at read
    split at read <;> cases read
  split at read
  · simp only [readVariable] at read
    split at read <;> cases read
    rfl
  split at read
  · rcases Option.map_eq_some_iff.mp read with ⟨_, _, same⟩
    cases same
  split at read
  · simp only [wordToken] at read
    split at read <;> cases read
  · cases read
    rfl

theorem readToken?_eq_mark (notStarts : startsToken c = false) :
    readToken? (c :: text) = some (.mark c, text) := by
  have isSpaceOrHash : (((c = ' ' ∨ c = '\t') ∨ c = '\n') ∨ c = '\r') ∨ c = '#' := by
    by_contra different
    simp_all [startsToken, isSpace]
  rcases isSpaceOrHash with (((rfl | rfl) | rfl) | rfl) | rfl <;> rfl

/-- A mark of a text is one of its characters. -/
theorem mem_of_mark_mem {mark : Char} (noComment : '#' ∉ text) (isTokens : lex text = some tokens)
    (mem : .mark mark ∈ tokens) : mark ∈ text := by
  induction text using text_induction generalizing tokens with
  | nil =>
      cases isTokens
      cases mem
  | space c text isSpace ih =>
      rw [lex_space isSpace] at isTokens
      exact List.mem_cons_of_mem c (ih (fun d => noComment (List.mem_cons_of_mem c d)) isTokens mem)
  | comment text => exact absurd List.mem_cons_self noComment
  | token c text starts ih =>
      rcases exists_of_lex_eq_some starts isTokens with ⟨token, rest, others, read, isOthers, rfl⟩
      rcases ih token rest read with ⟨isSuffix, holds⟩
      rcases List.mem_cons.mp mem with rfl | mem
      · exact readToken?_mark read ▸ List.mem_cons_self
      · have left : '#' ∉ rest := fun d => noComment (List.mem_cons_of_mem c (isSuffix.subset d))
        exact List.mem_cons_of_mem c (isSuffix.subset (holds left isOthers mem))

/-- What closes a part does not change its tokens. -/
theorem lex_append (closes : Closes more) (noComment : '#' ∉ text) (isTokens : lex text = some tokens) :
    lex (text ++ more) = (lex more).map (tokens ++ ·) := by
  induction text using text_induction generalizing tokens with
  | nil =>
      cases isTokens
      simp
  | space c text isSpace ih =>
      rw [lex_space isSpace] at isTokens
      rw [List.cons_append, lex_space isSpace]
      exact ih (fun d => noComment (List.mem_cons_of_mem c d)) isTokens
  | comment text => exact absurd List.mem_cons_self noComment
  | token c text starts ih =>
      rcases exists_of_lex_eq_some starts isTokens with ⟨token, rest, others, read, isOthers, rfl⟩
      rcases ih token rest read with ⟨isSuffix, holds⟩
      have left : '#' ∉ rest := fun d => noComment (List.mem_cons_of_mem c (isSuffix.subset d))
      have longer : readToken? (c :: (text ++ more)) = some (token, rest ++ more) :=
        readToken?_append closes read
      rw [List.cons_append, lex_token starts longer, holds left isOthers, Option.map_map]
      rfl

/-! ## Parts -/

/-- Whether a text has the given tokens wherever it stands as a part. -/
def Spells (text : List Char) (tokens : List Token) : Prop :=
  ∀ ⦃more⦄, Closes more → lex (text ++ more) = (lex more).map (tokens ++ ·)

/-- Whether a text has the given tokens whatever follows it. -/
def Opens (text : List Char) (tokens : List Token) : Prop :=
  ∀ more, lex (text ++ more) = (lex more).map (tokens ++ ·)

namespace Spells

variable {first second : List Char} {firstTokens secondTokens : List Token}

theorem nil : Spells [] [] := by
  intro more _
  simp

theorem lex_eq (spells : Spells text tokens) : lex text = some tokens := by
  have alone := spells Closes.nil
  simpa using alone

/-- A text without comments has the same tokens wherever it stands. -/
theorem of_lex (noComment : '#' ∉ text) (isTokens : lex text = some tokens) : Spells text tokens :=
  fun _ closes => lex_append closes noComment isTokens

/-- A text that is a single token is one wherever it stands, even with a hash sign inside. -/
theorem of_readToken? (read : readToken? text = some (token, [])) (notMark : ∀ c, token ≠ .mark c) :
    Spells text [token] := by
  intro more closes
  cases text with
  | nil => cases read
  | cons c text =>
      have starts : startsToken c := by
        by_contra notStarts
        rw [readToken?_eq_mark (by simpa using notStarts)] at read
        cases read
        exact notMark c rfl
      have longer : readToken? (c :: (text ++ more)) = some (token, more) := readToken?_append closes read
      rw [List.cons_append, lex_token starts longer]
      rfl

theorem spaced (spellsFirst : Spells first firstTokens) (spellsSecond : Spells second secondTokens) :
    Spells (first ++ ' ' :: second) (firstTokens ++ secondTokens) := by
  intro more closes
  rw [List.append_assoc, List.cons_append, spellsFirst (.space _), lex_space rfl, spellsSecond closes,
    Option.map_map]
  simp [Function.comp_def]

theorem bracketed (spells : Spells text tokens) : Spells (text ++ [')']) (tokens ++ [.mark ')']) := by
  intro more closes
  have bracket : lex (')' :: more) = (lex more).map (.mark ')' :: ·) := lex_token rfl rfl
  rw [List.append_assoc, List.singleton_append, spells closes.bracket, bracket, Option.map_map]
  simp [Function.comp_def]

end Spells

theorem Opens.nil : Opens [] [] := by
  intro more
  simp

theorem Opens.space (opens : Opens text tokens) : Opens (' ' :: text) tokens := by
  intro more
  rw [List.cons_append, lex_space rfl, opens]

theorem Opens.cons (starts : startsToken c)
    (read : ∀ more, readToken? (c :: (text ++ more)) = some (token, rest ++ more)) (opens : Opens rest tokens) :
    Opens (c :: text) (token :: tokens) := by
  intro more
  rw [List.cons_append, lex_token starts (read more), opens, Option.map_map]
  rfl

theorem Opens.append (opens : Opens text tokens) {behind : List Char} {others : List Token}
    (spells : Spells behind others) : Spells (text ++ behind) (tokens ++ others) := by
  intro more closes
  rw [List.append_assoc, opens, spells closes, Option.map_map]
  simp [Function.comp_def]

end Sparql.Syntax
