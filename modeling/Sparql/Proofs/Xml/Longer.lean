import Mathlib.Data.List.TakeWhile
import Sparql.Xml.Piece

/-!
# Reading from a longer text

What is read from the beginning of a text is read as well when more text follows, with the same left over and the
additional text behind it. Where the end of what is read is seen only by what comes next, something must be left
over. A longer text may also be read with more steps to spare.

Elements and attributes are declared alike when more text follows and when declared texts may become longer.
-/

namespace Sparql.Xml

variable {practice : Practice} {text rest : List Char}

/-- What finds something in a text but not in an empty one. -/
theorem ne_nil {α : Type} {read : List Char → Option α} {value : α} (notEmpty : read [] = none)
    (isRead : read text = some value) : text ≠ [] := by
  rintro rfl
  rw [notEmpty] at isRead
  cases isRead

/-! ## Marks and blanks -/

theorem after?_eq_some {mark : List Char} : after? mark text = some rest ↔ text = mark ++ rest := by
  induction mark generalizing text with
  | nil => simp [after?]
  | cons c mark ih =>
      rcases text with _ | ⟨d, text⟩
      · simp [after?]
      · rw [after?, List.cons_append, List.cons.injEq]
        split
        · simp [*]
        · simp [eq_comm, *]

theorem after?_longer {mark : List Char} (isRead : after? mark text = some rest) (more : List Char) :
    after? mark (text ++ more) = some (rest ++ more) := by
  rw [after?_eq_some] at isRead ⊢
  rw [isRead, List.append_assoc]

/-- The mark that a search finds stands in the text. -/
theorem length_of_splitFrom {mark before body : List Char} (isSplit : splitFrom mark before text = some (body, rest)) :
    mark.length ≤ text.length := by
  induction text generalizing before with
  | nil => cases isSplit
  | cons c text ih =>
      rw [splitFrom] at isSplit
      split at isSplit
      · rename_i isFound
        rw [after?_eq_some.mp isFound, List.length_append]
        exact Nat.le_add_right _ _
      · exact Nat.le_succ_of_le (ih isSplit)

theorem splitFrom_longer {mark before body : List Char}
    (isSplit : splitFrom mark before text = some (body, rest)) (more : List Char) :
    splitFrom mark before (text ++ more) = some (body, rest ++ more) := by
  induction text generalizing before with
  | nil => cases isSplit
  | cons c text ih =>
      rw [splitFrom] at isSplit
      rw [List.cons_append, splitFrom]
      split at isSplit
      · rename_i isFound
        cases isSplit
        rw [← List.cons_append, after?_longer isFound]
      · rename_i notFound
        -- the mark is found later, so that the text is long enough to tell that it does not stand here
        have isLong : mark.length ≤ (c :: text).length := Nat.le_succ_of_le (length_of_splitFrom isSplit)
        have notFoundLonger : after? mark (c :: (text ++ more)) = none := by
          rw [Option.eq_none_iff_forall_ne_some]
          intro others isFound
          have isPrefix : mark <+: c :: text :=
            List.prefix_of_prefix_length_le ⟨others, (after?_eq_some.mp isFound).symm⟩
              (List.prefix_append (c :: text) more) isLong
          rcases isPrefix with ⟨others, isPrefix⟩
          rw [after?_eq_some.mpr isPrefix.symm] at notFound
          cases notFound
        rw [notFoundLonger]
        exact ih isSplit

theorem splitAt?_longer {mark : String} {body : List Char} (isSplit : splitAt? mark text = some (body, rest))
    (more : List Char) : splitAt? mark (text ++ more) = some (body, rest ++ more) :=
  splitFrom_longer isSplit more

theorem dropWhile_longer {p : Char → Bool} (isLeft : text.dropWhile p ≠ []) (more : List Char) :
    (text ++ more).dropWhile p = text.dropWhile p ++ more := by
  rw [List.dropWhile_append, if_neg (by simpa using isLeft)]

theorem takeWhile_longer {p : Char → Bool} (isLeft : text.dropWhile p ≠ []) (more : List Char) :
    (text ++ more).takeWhile p = text.takeWhile p := by
  rw [List.takeWhile_append, if_neg]
  intro isWhole
  have isLength := congrArg List.length (List.takeWhile_append_dropWhile (p := p) (l := text))
  rw [List.length_append, isWhole] at isLength
  exact isLeft (List.length_eq_zero_iff.mp (by omega))

theorem skipSpace_longer {c : Char} (isRead : skipSpace text = c :: rest) (more : List Char) :
    skipSpace (text ++ more) = c :: (rest ++ more) := by
  rw [skipSpace, dropWhile_longer, ← skipSpace, isRead, List.cons_append]
  rw [← skipSpace, isRead]
  exact List.cons_ne_nil _ _

theorem ne_nil_of_skipSpace {c : Char} (isRead : skipSpace text = c :: rest) : text ≠ [] := by
  rintro rfl
  cases isRead

theorem afterSpace?_longer (isRead : afterSpace? text = some rest) (isLeft : rest ≠ []) (more : List Char) :
    afterSpace? (text ++ more) = some (rest ++ more) := by
  rcases text with _ | ⟨c, text⟩
  · cases isRead
  · simp only [afterSpace?, List.cons_append] at isRead ⊢
    split at isRead
    · rename_i isBlank
      cases isRead
      rcases List.exists_cons_of_ne_nil isLeft with ⟨d, others, isRest⟩
      rw [if_pos isBlank, skipSpace_longer isRest, isRest, List.cons_append]
    · cases isRead

theorem afterSpace?_eq_none_longer (notRead : afterSpace? text = none) (isText : text ≠ []) (more : List Char) :
    afterSpace? (text ++ more) = none := by
  rcases text with _ | ⟨c, text⟩
  · exact absurd rfl isText
  · simpa [afterSpace?] using notRead

theorem afterWord?_longer {word : String} (isRead : afterWord? word text = some rest) (isLeft : rest ≠ [])
    (more : List Char) : afterWord? word (text ++ more) = some (rest ++ more) := by
  rw [afterWord?, Option.bind_eq_some_iff] at isRead
  rcases isRead with ⟨behind, isWord, isRead⟩
  rw [afterWord?, after?_longer isWord, Option.bind_some, afterSpace?_longer isRead isLeft]

/-! ## Names and values -/

theorem name?_longer {name : List Char} (isRead : name? practice text = some (name, rest)) (isLeft : rest ≠ [])
    (more : List Char) : name? practice (text ++ more) = some (name, rest ++ more) := by
  rcases text with _ | ⟨c, text⟩
  · cases isRead
  · simp only [name?, List.cons_append] at isRead ⊢
    split at isRead
    · rename_i isStart
      cases isRead
      rw [if_pos isStart, takeWhile_longer isLeft, dropWhile_longer isLeft]
    · cases isRead

/-- No mark of a tag begins a name. -/
theorem exists_start_of_name? {name : List Char} (isRead : name? practice text = some (name, rest)) :
    ∃ c others, text = c :: others ∧ c ∉ ['(', '#', '-', '/', '?', '!', '>'] := by
  rcases text with _ | ⟨c, text⟩
  · cases isRead
  · rw [name?] at isRead
    split at isRead
    · rename_i isStart
      refine ⟨c, text, rfl, fun isMark => ?_⟩
      simp only [List.mem_cons, List.not_mem_nil, or_false] at isMark
      rcases isMark with rfl | rfl | rfl | rfl | rfl | rfl | rfl <;> cases practice <;> revert isStart <;> decide
    · cases isRead

theorem filter_longer {α : Type} {p : α × List Char → Bool} {read longer : Option (α × List Char)} {value : α}
    {more : List Char} (isRead : read.filter p = some (value, rest))
    (isLonger : read = some (value, rest) → longer = some (value, rest ++ more))
    (sameTest : p (value, rest ++ more) = p (value, rest)) : longer.filter p = some (value, rest ++ more) := by
  rw [Option.filter_eq_some_iff] at isRead ⊢
  exact ⟨isLonger isRead.1, sameTest ▸ isRead.2⟩

theorem simpleName?_longer {name : List Char} (isRead : simpleName? practice text = some (name, rest))
    (isLeft : rest ≠ []) (more : List Char) : simpleName? practice (text ++ more) = some (name, rest ++ more) :=
  filter_longer isRead (fun isName => name?_longer isName isLeft more) rfl

theorem quoted?_longer {value : List Char} (isRead : quoted? text = some (value, rest)) (more : List Char) :
    quoted? (text ++ more) = some (value, rest ++ more) := by
  rcases text with _ | ⟨quote, text⟩
  · cases isRead
  · simp only [quoted?, List.cons_append] at isRead ⊢
    split at isRead
    · rename_i isQuote
      rw [if_pos isQuote]
      split at isRead
      · rename_i c after isEnd
        cases isRead
        have isLeft : text.dropWhile (fun c => decide (c ≠ quote)) ≠ [] := isEnd ▸ List.cons_ne_nil _ _
        rw [dropWhile_longer isLeft, takeWhile_longer isLeft, isEnd]
        rfl
      · cases isRead
    · cases isRead

theorem attribute?_longer {given : List Char × List Char} (isRead : attribute? practice text = some (given, rest))
    (more : List Char) : attribute? practice (text ++ more) = some (given, rest ++ more) := by
  simp only [attribute?, Option.bind_eq_bind, Option.bind_eq_some_iff, Prod.exists] at isRead
  rcases isRead with ⟨name, behind, isName, isRead⟩
  split at isRead
  · rename_i others isEqual
    simp only [Option.bind_eq_some_iff, Prod.exists] at isRead
    rcases isRead with ⟨value, left, isValue, isRead⟩
    split at isRead
    · cases isRead
    · rename_i noOpening
      cases isRead
      rcases List.exists_cons_of_ne_nil (ne_nil rfl isValue) with ⟨quote, inner, isQuoted⟩
      rw [isQuoted] at isValue
      simp only [attribute?, Option.bind_eq_bind, name?_longer isName (ne_nil_of_skipSpace isEqual),
        Option.bind_some, skipSpace_longer isEqual, skipSpace_longer isQuoted]
      rw [← List.cons_append, quoted?_longer isValue, Option.bind_some, if_neg noOpening]
      rfl
  · cases isRead

/-- No mark of a tag begins an attribute. -/
theorem exists_start_of_attribute? {given : List Char × List Char}
    (isRead : attribute? practice text = some (given, rest)) :
    ∃ c others, text = c :: others ∧ c ∉ ['(', '#', '-', '/', '?', '!', '>'] := by
  simp only [attribute?, Option.bind_eq_bind, Option.bind_eq_some_iff, Prod.exists] at isRead
  rcases isRead with ⟨name, behind, isName, -⟩
  exact exists_start_of_name? isName

theorem attributesFrom_longer {read : List (List Char × List Char)} {fuel : Nat} {isEmpty : Bool}
    {given : List (List Char × List Char)}
    (isRead : attributesFrom practice read fuel text = some (given, isEmpty, rest)) (spare : Nat) (more : List Char) :
    attributesFrom practice read (fuel + spare) (text ++ more) = some (given, isEmpty, rest ++ more) := by
  induction fuel generalizing read text with
  | zero => cases isRead
  | succ fuel ih =>
      rw [Nat.add_right_comm]
      rw [attributesFrom] at isRead ⊢
      split at isRead
      · rename_i isEnd
        cases isRead
        simp [skipSpace_longer isEnd]
      · rename_i isEnd
        cases isRead
        simp [skipSpace_longer isEnd]
      · split at isRead
        · cases isRead
        · rename_i isShorter
          split at isRead
          · rename_i first left isFirst
            rcases exists_start_of_attribute? isFirst with ⟨c, others, isNext, notMark⟩
            rw [isNext] at isShorter isFirst
            have isShorterLonger : (c :: (others ++ more)).length ≠ (text ++ more).length := by
              rw [List.length_append, List.length_cons, List.length_append]
              rw [List.length_cons] at isShorter
              omega
            have isFirstLonger := attribute?_longer isFirst more
            rw [List.cons_append] at isFirstLonger
            rw [skipSpace_longer isNext]
            split
            · rename_i isEnd
              exact absurd ((List.cons.inj isEnd).1 ▸ notMark) (by decide)
            · rename_i isEnd
              exact absurd ((List.cons.inj isEnd).1 ▸ notMark) (by decide)
            · rw [if_neg isShorterLonger, isFirstLonger]
              exact ih isRead
          · cases isRead

theorem comment?_longer {body : List Char} (isRead : comment? text = some (body, rest))
    (more : List Char) : comment? (text ++ more) = some (body, rest ++ more) := by
  simp only [comment?, Option.bind_eq_bind, Option.bind_eq_some_iff, Prod.exists] at isRead
  rcases isRead with ⟨inner, left, isSplit, isRead⟩
  split at isRead
  · cases isRead
    simp [comment?, splitAt?_longer isSplit]
  · cases isRead

theorem instruction?_longer {read : List Char × List Char} (isRead : instruction? practice text = some (read, rest))
    (more : List Char) : instruction? practice (text ++ more) = some (read, rest ++ more) := by
  simp only [instruction?, Option.bind_eq_bind, Option.bind_eq_some_iff, Prod.exists] at isRead
  rcases isRead with ⟨target, behind, isTarget, isRead⟩
  split at isRead
  · cases isRead
  · rename_i notReserved
    simp only [Option.bind_eq_some_iff, Prod.exists] at isRead
    rcases isRead with ⟨body, after, isSplit, isRead⟩
    simp only [instruction?, Option.bind_eq_bind, simpleName?_longer isTarget (ne_nil rfl isSplit),
      Option.bind_some, notReserved,
      splitAt?_longer isSplit]
    split at isRead
    · cases isRead
      rfl
    · split at isRead
      · cases isRead
        simp [*]
      · cases isRead

/-! ## Tags and other pieces -/

/-- Whether a piece adds characters to the innermost element. -/
def Piece.isRun : Piece → Bool
  | .text _ => true
  | .verbatim _ => true
  | _ => false

theorem closeTag?_longer {piece : Piece} (isRead : closeTag? practice text = some (piece, rest)) (more : List Char) :
    closeTag? practice (text ++ more) = some (piece, rest ++ more) := by
  simp only [closeTag?, Option.bind_eq_bind, Option.bind_eq_some_iff, Prod.exists] at isRead
  rcases isRead with ⟨name, behind, isName, isRead⟩
  split at isRead
  · rename_i others isEnd
    cases isRead
    simp [closeTag?, name?_longer isName (ne_nil_of_skipSpace isEnd), skipSpace_longer isEnd]
  · cases isRead

theorem openTag?_longer {piece : Piece} (isRead : openTag? practice text = some (piece, rest)) (more : List Char) :
    openTag? practice (text ++ more) = some (piece, rest ++ more) := by
  simp only [openTag?, Option.bind_eq_bind, Option.bind_eq_some_iff, Prod.exists] at isRead
  rcases isRead with ⟨name, behind, isName, given, isEmpty, left, isGiven, isRead⟩
  cases isRead
  have isLeft : behind ≠ [] := by
    rintro rfl
    cases isGiven
  have isFuel : (behind ++ more).length + 1 = behind.length + 1 + more.length := by
    rw [List.length_append, Nat.add_right_comm]
  simp only [openTag?, Option.bind_eq_bind, name?_longer isName isLeft, Option.bind_some, isFuel,
    attributesFrom_longer isGiven]
  rfl

/-- No mark of a tag begins the rest of an opening tag. -/
theorem exists_start_of_openTag? {piece : Piece} (isRead : openTag? practice text = some (piece, rest)) :
    ∃ c others, text = c :: others ∧ c ∉ ['(', '#', '-', '/', '?', '!', '>'] := by
  simp only [openTag?, Option.bind_eq_bind, Option.bind_eq_some_iff, Prod.exists] at isRead
  rcases isRead with ⟨name, behind, isName, -⟩
  exact exists_start_of_name? isName

/-- A piece that begins with a mark is cut alike when more text follows. -/
theorem piece?_longer {piece : Piece} (isRead : piece? practice ('<' :: text) = some (piece, rest))
    (more : List Char) : piece? practice ('<' :: (text ++ more)) = some (piece, rest ++ more) := by
  unfold piece? at isRead
  split at isRead
  · rename_i isText
    cases isText
    exact closeTag?_longer isRead more
  · rename_i isText
    cases isText
    simp only [Option.map_eq_some_iff, Prod.exists] at isRead
    rcases isRead with ⟨target, body, left, isInstruction, isRead⟩
    cases isRead
    simp [piece?, instruction?_longer isInstruction]
  · rename_i isText
    cases isText
    simp only [Option.map_eq_some_iff, Prod.exists] at isRead
    rcases isRead with ⟨body, left, isComment, isRead⟩
    cases isRead
    simp [piece?, comment?_longer isComment]
  · rename_i notComment isText
    cases isText
    simp only [Option.bind_eq_bind, Option.bind_eq_some_iff, Prod.exists] at isRead
    rcases isRead with ⟨behind, isMark, body, left, isSplit, isRead⟩
    cases isRead
    rw [after?_eq_some] at isMark
    simp [piece?, isMark, after?, splitAt?_longer isSplit]
  · rename_i isText
    cases isText
    rcases exists_start_of_openTag? isRead with ⟨c, others, rfl, notMark⟩
    simp only [List.mem_cons, List.not_mem_nil, or_false, not_or] at notMark
    simpa [piece?, notMark] using openTag?_longer isRead more
  · rename_i notOpening
    exact (notOpening text rfl).elim

namespace DocumentType

variable {type next : DocumentType} (extra : Nat)

/-! ## Longer declared texts -/

/-- The type where declared texts may become longer. -/
def raise (type : DocumentType) (extra : Nat) : DocumentType := { type with limit := type.limit + extra }

@[simp]
theorem practice_raise (type : DocumentType) (extra : Nat) : (type.raise extra).practice = type.practice := rfl

@[simp]
theorem isDeaf_raise (type : DocumentType) (extra : Nat) : (type.raise extra).isDeaf = type.isDeaf := rfl

theorem measured_raise (type : DocumentType) (extra : Nat) :
    (type.raise extra).measured = type.measured.raise extra := rfl

theorem declareRule_raise (type : DocumentType) (rule : AttributeRule) (extra : Nat) :
    (type.raise extra).declareRule rule = (type.declareRule rule).raise extra := by
  rw [declareRule, declareRule, apply_ite (DocumentType.raise · extra)]
  rfl

theorem declareEntity_raise (type : DocumentType) (name : List Char) (entity : Entity) (extra : Nat) :
    (type.raise extra).declareEntity name entity = (type.declareEntity name entity).raise extra := by
  rw [declareEntity, declareEntity, apply_ite (DocumentType.raise · extra)]
  rfl

theorem declareParameter_raise (type : DocumentType) (name : List Char) (text : Option (List Char)) (extra : Nat) :
    (type.raise extra).declareParameter name text = (type.declareParameter name text).raise extra := by
  rw [declareParameter, declareParameter, apply_ite (DocumentType.raise · extra)]
  rfl

theorem expand_raise (isFlat : Bool) (depth : Nat) (fragments : List Fragment) :
    (type.raise extra).expand isFlat depth fragments = type.expand isFlat depth fragments := by
  induction depth generalizing fragments with
  | zero => rfl
  | succ depth ih =>
      simp only [expand, ih]
      rfl

theorem expanded?_raise {isFlat : Bool} {fragments : List Fragment} {whole : List Char}
    (isExpanded : type.expanded? isFlat fragments = some whole) :
    (type.raise extra).expanded? isFlat fragments = some whole := by
  rw [expanded?, Option.ite_none_right_eq_some] at isExpanded
  have fits : type.sizeOf fragments ≤ type.limit + extra := Nat.le_add_right_of_le isExpanded.1
  rw [expanded?, expand_raise]
  exact (if_pos fits).trans isExpanded.2

theorem value?_raise {kind : AttributeKind} {raw : List Char} {value : List Fragment}
    (isValue : type.value? kind raw = some value) : (type.raise extra).value? kind raw = some value := by
  simp only [value?, Option.bind_eq_bind, Option.bind_eq_some_iff] at isValue ⊢
  rcases isValue with ⟨fragments, isRead, whole, isExpanded, isKept⟩
  exact ⟨fragments, isRead, whole, expanded?_raise extra isExpanded, isKept⟩

theorem textOf?_raise {value : List Fragment} {text : String} (isText : type.textOf? value = some text) :
    (type.raise extra).textOf? value = some text := by
  rw [textOf?, Option.map_eq_some_iff] at isText ⊢
  rcases isText with ⟨whole, isExpanded, isText⟩
  exact ⟨whole, expanded?_raise extra isExpanded, isText⟩

theorem spaceOf?_raise {kind : AttributeKind} {value : List Fragment} {space : String}
    (isSpace : type.spaceOf? kind value = some space) : (type.raise extra).spaceOf? kind value = some space := by
  simp only [spaceOf?, Option.bind_eq_bind, Option.bind_eq_some_iff] at isSpace ⊢
  rcases isSpace with ⟨whole, isExpanded, isSpace⟩
  exact ⟨whole, expanded?_raise extra isExpanded, isSpace⟩

/-! ## Content models -/

theorem closing?_longer (isRead : closing? text = some rest) (more : List Char) :
    closing? (text ++ more) = some (rest ++ more) := by
  rw [closing?] at isRead
  split at isRead
  · rename_i isEnd
    cases isRead
    simp [closing?, skipSpace_longer isEnd]
  · cases isRead

theorem declaredName?_longer {name : List Char} (isRead : declaredName? practice text = some (name, rest))
    (isLeft : rest ≠ []) (more : List Char) : declaredName? practice (text ++ more) = some (name, rest ++ more) :=
  filter_longer isRead (fun isName => name?_longer isName isLeft more) rfl

theorem exists_start_of_declaredName? {name : List Char} (isRead : declaredName? practice text = some (name, rest)) :
    ∃ c others, text = c :: others ∧ c ∉ ['(', '#', '-', '/', '?', '!', '>'] :=
  exists_start_of_name? (Option.filter_eq_some_iff.mp isRead).1

theorem behindMark_longer (isText : text ≠ []) (more : List Char) :
    behindMark (text ++ more) = behindMark text ++ more := by
  rcases text with _ | ⟨c, text⟩
  · exact absurd rfl isText
  · rw [List.cons_append]
    unfold behindMark
    split <;> simp_all

theorem modelFrom_nil {fuel : Nat} {groups : List (Option Char)} {isNext : Bool}
    (isRead : modelFrom practice fuel groups isNext [] = some rest) : rest = [] := by
  unfold modelFrom at isRead
  split at isRead
  · cases isRead
  · cases isRead
    rfl
  · cases isRead
  · cases isRead

theorem modelFrom_longer {fuel : Nat} {groups : List (Option Char)} {isNext : Bool}
    (isRead : modelFrom practice fuel groups isNext text = some rest) (isLeft : rest ≠ []) (spare : Nat)
    (more : List Char) : modelFrom practice (fuel + spare) groups isNext (text ++ more) = some (rest ++ more) := by
  -- the mark behind a member is followed by something, since the model goes on or leaves something over
  have behind {fuel groups isNext next}
      (isRead : modelFrom practice fuel groups isNext (behindMark next) = some rest) : next ≠ [] := by
    rintro rfl
    exact isLeft (modelFrom_nil isRead)
  induction fuel generalizing groups isNext text with
  | zero => cases isRead
  | succ fuel ih =>
      rw [Nat.add_right_comm]
      rcases groups with _ | ⟨between, outer⟩
      · rw [modelFrom] at isRead ⊢
        cases isRead
        rfl
      cases isNext with
      | true =>
          rw [modelFrom] at isRead ⊢
          split at isRead
          · rename_i isOpening
            simpa only [skipSpace_longer isOpening] using ih isRead
          · split at isRead
            · rename_i name left isName
              rcases exists_start_of_declaredName? isName with ⟨c, others, isNext, notMark⟩
              have isNameLonger := declaredName?_longer isName (behind isRead) more
              rw [isNext, List.cons_append] at isNameLonger
              rw [skipSpace_longer isNext]
              split
              · rename_i isOpening
                exact absurd ((List.cons.inj isOpening).1 ▸ notMark) (by decide)
              · rw [isNameLonger]
                simpa only [behindMark_longer (behind isRead)] using ih isRead
            · cases isRead
      | false =>
          rw [modelFrom] at isRead ⊢
          split at isRead
          · rename_i isClosing
            simpa only [skipSpace_longer isClosing, behindMark_longer (behind isRead)] using ih isRead
          · rename_i c others notClosing isNext
            rw [skipSpace_longer isNext]
            split at isRead
            · rename_i isMark
              split
              · rename_i isClosing
                exact (notClosing (List.cons.inj isClosing).1).elim
              · rename_i isCons
                cases isCons
                simpa only [if_pos isMark] using ih isRead
              · rename_i isNil
                cases isNil
            · cases isRead
          · cases isRead

theorem mixedFrom_longer {fuel : Nat} {hasNames : Bool} (isRead : mixedFrom practice hasNames fuel text = some rest)
    (isLeft : rest ≠ []) (spare : Nat) (more : List Char) :
    mixedFrom practice hasNames (fuel + spare) (text ++ more) = some (rest ++ more) := by
  induction fuel generalizing hasNames text with
  | zero => cases isRead
  | succ fuel ih =>
      rw [Nat.add_right_comm]
      rw [mixedFrom] at isRead ⊢
      split at isRead
      · rename_i isEnd
        cases isRead
        simp [skipSpace_longer isEnd]
      · rename_i others notStarred isEnd
        split at isRead
        · cases isRead
        · rename_i noNames
          cases isRead
          rcases List.exists_cons_of_ne_nil isLeft with ⟨d, left, rfl⟩
          have notStar : d ≠ '*' := by
            rintro rfl
            exact notStarred left rfl
          simp [skipSpace_longer isEnd, notStar, noNames]
      · rename_i others isBar
        split at isRead
        · rename_i name left isName
          rcases exists_start_of_declaredName? isName with ⟨c, inner, isNext, -⟩
          have isLeft : left ≠ [] := by
            rintro rfl
            cases fuel <;> cases isRead
          have isNameLonger := declaredName?_longer isName isLeft more
          rw [isNext, List.cons_append] at isNameLonger
          simpa [skipSpace_longer isBar, skipSpace_longer isNext, isNameLonger] using ih isRead
        · cases isRead
      · cases isRead

/-- A content model does not begin with the mark of a mixed one. -/
theorem exists_start_of_modelFrom {fuel : Nat} {between : Option Char} {outer : List (Option Char)}
    (isRead : modelFrom practice fuel (between :: outer) true text = some rest) :
    ∃ c others, skipSpace text = c :: others ∧ c ≠ '#' := by
  rcases fuel with _ | fuel
  · cases isRead
  · rw [modelFrom] at isRead
    split at isRead
    · rename_i isOpening
      exact ⟨_, _, isOpening, by decide⟩
    · split at isRead
      · rename_i isName
        rcases exists_start_of_declaredName? isName with ⟨c, others, isNext, notMark⟩
        exact ⟨c, others, isNext, by rintro rfl; exact notMark (by decide)⟩
      · cases isRead

theorem content?_longer (isRead : content? practice text = some rest) (isLeft : rest ≠ []) (more : List Char) :
    content? practice (text ++ more) = some (rest ++ more) := by
  have isMixed : "#PCDATA".toList = '#' :: "PCDATA".toList := rfl
  unfold content? at isRead
  split at isRead
  · rename_i inner
    rw [List.cons_append, content?]
    split at isRead
    · rename_i behind isMark
      have isMarkLonger := after?_longer isMark more
      have isFuel : (behind ++ more).length + 1 = behind.length + 1 + more.length := by
        rw [List.length_append, Nat.add_right_comm]
      have isNext : skipSpace inner = '#' :: ("PCDATA".toList ++ behind) := after?_eq_some.mp isMark
      rw [isNext, List.cons_append, ← skipSpace_longer isNext] at isMarkLonger
      rw [isMarkLonger]
      simpa only [isFuel] using mixedFrom_longer isRead isLeft more.length more
    · rename_i notMixed
      rcases exists_start_of_modelFrom isRead with ⟨c, others, isNext, notMark⟩
      have notMixedLonger : after? "#PCDATA".toList (skipSpace (inner ++ more)) = none := by
        rw [skipSpace_longer isNext, isMixed, after?, if_neg notMark.symm]
      have isFuel : (inner ++ more).length + 2 = inner.length + 2 + more.length := by
        rw [List.length_append, Nat.add_right_comm]
      rw [notMixedLonger]
      simpa only [isFuel] using modelFrom_longer isRead isLeft more.length more
  · rename_i notGroup
    simp only [Option.bind_eq_bind, Option.bind_eq_some_iff, Prod.exists] at isRead
    rcases isRead with ⟨word, left, isName, isRead⟩
    split at isRead
    · rename_i isWord
      cases isRead
      rcases exists_start_of_name? isName with ⟨c, others, rfl, notMark⟩
      have isNameLonger := name?_longer isName isLeft more
      rw [List.cons_append] at isNameLonger ⊢
      unfold content?
      split
      · rename_i isOpening
        exact absurd ((List.cons.inj isOpening).1 ▸ notMark) (by decide)
      · simp only [isNameLonger, Option.bind_eq_bind, Option.bind_some, if_pos isWord]
        rfl
    · cases isRead

/-! ## Elements -/

theorem element?_longer (isRead : type.element? text = some (next, rest)) (more : List Char) :
    (type.raise extra).element? (text ++ more) = some (next.raise extra, rest ++ more) := by
  simp only [element?, Option.bind_eq_bind, Option.bind_eq_some_iff, Prod.exists] at isRead
  rcases isRead with ⟨first, isBlank, name, second, isName, third, isGap, fourth, isContent, fifth, isEnd, isRead⟩
  simp only [element?, Option.bind_eq_bind, practice_raise, Option.bind_some,
    afterSpace?_longer isBlank (ne_nil rfl isName), declaredName?_longer isName (ne_nil rfl isGap),
    afterSpace?_longer isGap (ne_nil rfl isContent), content?_longer isContent (ne_nil rfl isEnd),
    closing?_longer isEnd]
  split at isRead
  · cases isRead
  · rename_i notTwice
    cases isRead
    exact if_neg notTwice

/-! ## Attributes -/

theorem drop_takeWhile (p : Char → Bool) (text : List Char) :
    text.drop (text.takeWhile p).length = text.dropWhile p := by
  induction text with
  | nil => rfl
  | cons c text ih => by_cases isIn : p c <;> simp [isIn, ih]

/-- A character inside a word of a list. -/
def isInWord (c : Char) : Bool := !(isSpace c || c = '|' || c = ')')

theorem wordsFrom_succ (isWord : List Char → Bool) (read : List (List Char)) (fuel : Nat) (text : List Char) :
    wordsFrom isWord read (fuel + 1) text =
      if !isWord ((skipSpace text).takeWhile isInWord) then none
      else match skipSpace ((skipSpace text).dropWhile isInWord) with
        | '|' :: rest => wordsFrom isWord ((skipSpace text).takeWhile isInWord :: read) fuel rest
        | ')' :: rest => some (((skipSpace text).takeWhile isInWord :: read).reverse, rest)
        | _ => none := by
  rw [← drop_takeWhile]
  rfl

/-- A word with a mark behind it. -/
theorem word_longer {c : Char} (isMark : skipSpace ((skipSpace text).dropWhile isInWord) = c :: rest)
    (more : List Char) :
    (skipSpace (text ++ more)).takeWhile isInWord = (skipSpace text).takeWhile isInWord ∧
      skipSpace ((skipSpace (text ++ more)).dropWhile isInWord) = c :: (rest ++ more) := by
  have isLeft := ne_nil_of_skipSpace isMark
  rcases isNext : skipSpace text with _ | ⟨d, inner⟩
  · rw [isNext] at isLeft
    exact absurd rfl isLeft
  · rw [isNext] at isLeft isMark
    rw [skipSpace_longer isNext, ← List.cons_append]
    exact ⟨takeWhile_longer isLeft more, by rw [dropWhile_longer isLeft, skipSpace_longer isMark]⟩

theorem wordsFrom_longer {isWord : List Char → Bool} {read words : List (List Char)} {fuel : Nat}
    (isRead : wordsFrom isWord read fuel text = some (words, rest)) (spare : Nat) (more : List Char) :
    wordsFrom isWord read (fuel + spare) (text ++ more) = some (words, rest ++ more) := by
  induction fuel generalizing read text with
  | zero => cases isRead
  | succ fuel ih =>
      rw [wordsFrom_succ] at isRead
      rw [Nat.add_right_comm, wordsFrom_succ]
      split at isRead
      · cases isRead
      · rename_i isGiven
        split at isRead
        · rename_i others isMark
          rcases word_longer isMark more with ⟨sameWord, isMarkLonger⟩
          rw [isMarkLonger, sameWord, if_neg isGiven]
          exact ih isRead
        · rename_i others isMark
          rcases word_longer isMark more with ⟨sameWord, isMarkLonger⟩
          cases isRead
          rw [isMarkLonger, sameWord, if_neg isGiven]
          rfl
        · cases isRead

theorem listed?_longer {isWord : List Char → Bool} (isRead : listed? practice isWord text = some rest)
    (more : List Char) : listed? practice isWord (text ++ more) = some (rest ++ more) := by
  simp only [listed?, Option.bind_eq_bind, Option.bind_eq_some_iff, Prod.exists] at isRead
  rcases isRead with ⟨words, left, isList, isRead⟩
  have isFuel : (text ++ more).length + 1 = text.length + 1 + more.length := by
    rw [List.length_append, Nat.add_right_comm]
  simp only [listed?, Option.bind_eq_bind, isFuel, wordsFrom_longer isList, Option.bind_some]
  split at isRead
  · rename_i isAllowed
    cases isRead
    exact if_pos isAllowed
  · cases isRead

theorem kind?_longer {kind : AttributeKind} (isRead : kind? practice text = some (kind, rest)) (isLeft : rest ≠ [])
    (more : List Char) : kind? practice (text ++ more) = some (kind, rest ++ more) := by
  unfold kind? at isRead
  split at isRead
  · rw [Option.map_eq_some_iff] at isRead
    rcases isRead with ⟨left, isList, isRead⟩
    cases isRead
    simp [kind?, listed?_longer isList]
  · simp only [Option.bind_eq_bind, Option.bind_eq_some_iff, Prod.exists] at isRead
    rcases isRead with ⟨word, left, isName, isRead⟩
    have isLeft : left ≠ [] := by
      rintro rfl
      split at isRead
      all_goals first | (cases isRead; exact isLeft rfl) | cases isRead
    rcases exists_start_of_name? isName with ⟨c, others, rfl, notMark⟩
    have isNameLonger := name?_longer isName isLeft more
    rw [List.cons_append] at isNameLonger ⊢
    unfold kind?
    split
    · rename_i isOpening
      exact absurd ((List.cons.inj isOpening).1 ▸ notMark) (by decide)
    · simp only [isNameLonger, Option.bind_eq_bind, Option.bind_some]
      split at isRead
      case h_9 =>
        simp only [Option.bind_eq_some_iff] at isRead
        rcases isRead with ⟨behind, isGap, isRead⟩
        have isGapLonger := afterSpace?_longer isGap (by rintro rfl; cases isRead) more
        split at isRead
        · simp only [Option.bind_eq_some_iff] at isRead
          rcases isRead with ⟨others, isList, isRead⟩
          cases isRead
          simp only [isGapLonger, Option.bind_some, List.cons_append, listed?_longer isList]
          rfl
        · cases isRead
      case h_10 => cases isRead
      all_goals
        cases isRead
        rfl

/-- A value that stands between quotes. -/
def writtenStandard? (type : DocumentType) (kind : AttributeKind) (text : List Char) :
    Option (Option (List Fragment) × List Char) := do
  let (raw, rest) ← quoted? text
  if type.isDeaf then return (none, rest)
  if raw.contains '<' then none
  let value ← (if raw.contains '&' then type.measured else type).value? kind raw
  if type.practice = .referring && !isOfKind type.practice kind value then none
  return (some value, rest)

theorem standard?_eq (type : DocumentType) (kind : AttributeKind) (text : List Char) :
    type.standard? kind text = match text with
      | '#' :: rest =>
        (name? type.practice rest).bind fun (word, rest) => match String.ofList word with
          | "REQUIRED" | "IMPLIED" => some (none, rest)
          | "FIXED" => (afterSpace? rest).bind (type.writtenStandard? kind)
          | _ => none
      | _ => type.writtenStandard? kind text := by
  unfold standard?
  rfl

theorem writtenStandard?_longer {kind : AttributeKind} {standard : Option (List Fragment)}
    (isRead : type.writtenStandard? kind text = some (standard, rest)) (more : List Char) :
    (type.raise extra).writtenStandard? kind (text ++ more) = some (standard, rest ++ more) := by
  simp only [writtenStandard?, Option.bind_eq_bind, Option.bind_eq_some_iff, Prod.exists] at isRead
  rcases isRead with ⟨raw, left, isQuoted, isRead⟩
  simp only [writtenStandard?, Option.bind_eq_bind, quoted?_longer isQuoted, Option.bind_some, isDeaf_raise,
    practice_raise, measured_raise]
  split at isRead
  · rename_i isDeaf
    cases isRead
    exact if_pos isDeaf
  · rename_i notDeaf
    split at isRead
    · cases isRead
    · rename_i noOpening
      rw [Option.bind_eq_some_iff] at isRead
      rcases isRead with ⟨value, isValue, isRead⟩
      have isValueLonger : (if raw.contains '&' then type.measured.raise extra else type.raise extra).value? kind raw =
          some value := by
        rw [← apply_ite (DocumentType.raise · extra)]
        exact value?_raise extra isValue
      rw [if_neg notDeaf, if_neg noOpening, isValueLonger, Option.bind_some]
      split at isRead
      · cases isRead
      · rename_i isFitting
        cases isRead
        exact if_neg isFitting

theorem standard?_longer {kind : AttributeKind} {standard : Option (List Fragment)}
    (isRead : type.standard? kind text = some (standard, rest)) (isLeft : rest ≠ []) (more : List Char) :
    (type.raise extra).standard? kind (text ++ more) = some (standard, rest ++ more) := by
  rw [standard?_eq] at isRead ⊢
  split at isRead
  · rename_i inner
    simp only [Option.bind_eq_some_iff, Prod.exists] at isRead
    rcases isRead with ⟨word, left, isName, isRead⟩
    have notEmpty : left ≠ [] := by
      rintro rfl
      split at isRead
      all_goals first | (cases isRead; exact isLeft rfl) | cases isRead
    simp only [List.cons_append, practice_raise, name?_longer isName notEmpty, Option.bind_some]
    split at isRead
    case h_3 =>
      rw [Option.bind_eq_some_iff] at isRead
      rcases isRead with ⟨behind, isGap, isRead⟩
      rw [afterSpace?_longer isGap (ne_nil rfl isRead), Option.bind_some]
      exact writtenStandard?_longer extra isRead more
    case h_4 => cases isRead
    all_goals
      cases isRead
      rfl
  · rename_i notMark
    rcases List.exists_cons_of_ne_nil (ne_nil rfl isRead) with ⟨c, inner, rfl⟩
    have isLonger := writtenStandard?_longer extra isRead more
    rw [List.cons_append] at isLonger ⊢
    split
    · rename_i isMark
      cases isMark
      exact (notMark _ rfl).elim
    · exact isLonger

/-- A declaration does not end where something else comes next. -/
theorem closing?_eq_none_longer {c : Char} (notEnd : closing? text = none) (isNext : skipSpace text = c :: rest)
    (more : List Char) : closing? (text ++ more) = none := by
  rw [closing?, isNext] at notEnd
  rw [closing?, skipSpace_longer isNext]
  split
  · rename_i isEnd
    cases isEnd
    cases notEnd
  · rfl

theorem skipSpace_of_afterSpace? (isRead : afterSpace? text = some rest) : skipSpace text = rest := by
  rcases text with _ | ⟨c, text⟩
  · cases isRead
  · rw [afterSpace?] at isRead
    split at isRead
    · rename_i isBlank
      cases isRead
      simp [skipSpace, isBlank]
    · cases isRead

theorem rulesFrom_longer {element : List Char} {fuel : Nat}
    (isRead : rulesFrom element fuel type text = some (next, rest)) (spare : Nat) (more : List Char) :
    rulesFrom element (fuel + spare) (type.raise extra) (text ++ more) = some (next.raise extra, rest ++ more) := by
  induction fuel generalizing type text with
  | zero => cases isRead
  | succ fuel ih =>
      rw [Nat.add_right_comm]
      rw [rulesFrom] at isRead ⊢
      split at isRead
      · rename_i isEnd
        cases isRead
        rw [closing?_longer isEnd]
      · rename_i notEnd
        simp only [Option.bind_eq_bind, Option.bind_eq_some_iff, Prod.exists] at isRead
        rcases isRead with ⟨first, isBlank, key, second, isKey, third, isGap, kind, fourth, isKind, fifth, isSpace,
          standard, sixth, isStandard, isRead⟩
        rcases exists_start_of_declaredName? isKey with ⟨c, others, rfl, -⟩
        have isLeft : sixth ≠ [] := by
          rintro rfl
          split at isRead
          · cases isRead
          · cases fuel <;> cases isRead
        simp only [closing?_eq_none_longer notEnd (skipSpace_of_afterSpace? isBlank), Option.bind_eq_bind,
          Option.bind_some, practice_raise, afterSpace?_longer isBlank (ne_nil rfl isKey),
          declaredName?_longer isKey (ne_nil rfl isGap), afterSpace?_longer isGap (ne_nil rfl isKind),
          kind?_longer isKind (ne_nil rfl isSpace), afterSpace?_longer isSpace (ne_nil rfl isStandard),
          standard?_longer extra isStandard isLeft]
        split at isRead
        · cases isRead
        · rename_i isKept
          rw [declareRule_raise]
          exact (if_neg isKept).trans (ih isRead)

theorem attributes?_longer (isRead : type.attributes? text = some (next, rest)) (more : List Char) :
    (type.raise extra).attributes? (text ++ more) = some (next.raise extra, rest ++ more) := by
  simp only [attributes?, Option.bind_eq_bind, Option.bind_eq_some_iff, Prod.exists] at isRead
  rcases isRead with ⟨first, isBlank, element, second, isName, isRead⟩
  have isLeft : second ≠ [] := by
    rintro rfl
    cases isRead
  have isFuel : (second ++ more).length + 1 = second.length + 1 + more.length := by
    rw [List.length_append, Nat.add_right_comm]
  simp only [attributes?, Option.bind_eq_bind, practice_raise, Option.bind_some,
    afterSpace?_longer isBlank (ne_nil rfl isName), declaredName?_longer isName isLeft, isFuel]
  exact rulesFrom_longer extra isRead more.length more

end DocumentType

end Sparql.Xml
