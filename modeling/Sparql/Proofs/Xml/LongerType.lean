import Sparql.Proofs.Xml.Longer

/-!
# Document types of longer texts

The document type that a text begins with is read as well when more text follows and when declared texts may become
longer, and so is what stands before the pieces of a document.

A reader stops at a mark that it has seen, so what comes behind the mark does not matter to it. Where several readers
are tried, the ones that failed have to fail again; the first character tells that already, and it is still the same.
-/

namespace Sparql.Xml

variable {type next : DocumentType} {text rest : List Char} (extra : Nat)

namespace DocumentType

/-! ## Texts and notations -/

/-- Where a declaration ends, nothing else stands behind a blank. -/
theorem bind_afterSpace?_eq_none {α : Type} {read : List Char → Option α} (isEnd : closing? text = some rest)
    (notRead : ∀ others, read ('>' :: others) = none) : (afterSpace? text).bind read = none := by
  rw [Option.bind_eq_none_iff]
  intro next isNext
  rw [closing?, skipSpace_of_afterSpace? isNext] at isEnd
  split at isEnd
  · exact notRead _
  · cases isEnd

theorem quoted?_end (others : List Char) : quoted? ('>' :: others) = none := rfl

theorem afterWord?_ne {word : String} {c d : Char} (inner : List Char) (isWord : word.toList = c :: inner)
    (differs : c ≠ d) (others : List Char) : afterWord? word (d :: others) = none := by
  rw [afterWord?, isWord, after?, if_neg differs, Option.bind_none]

/-- An address does not begin like a quoted text or like the inside of a document type. -/
theorem exists_start_of_address? {mayLack : Bool} {address : Option (List Char)}
    (isRead : address? mayLack text = some (address, rest)) :
    ∃ c others, text = c :: others ∧ c ∉ ['"', '\'', '[', '>'] := by
  rw [address?] at isRead
  split at isRead
  · rename_i behind isWord
    rw [afterWord?, Option.bind_eq_some_iff] at isWord
    rcases isWord with ⟨next, isWord, -⟩
    exact ⟨'S', "YSTEM".toList ++ next, after?_eq_some.mp isWord, by decide⟩
  · rename_i behind isWord
    rw [afterWord?, Option.bind_eq_some_iff] at isWord
    rcases isWord with ⟨next, isWord, -⟩
    exact ⟨'P', "UBLIC".toList ++ next, after?_eq_some.mp isWord, by decide⟩
  · cases isRead

theorem address?_longer {mayLack : Bool} {address : Option (List Char)}
    (isRead : address? mayLack text = some (address, rest))
    (isEnd : mayLack = false ∨ ∃ left, closing? rest = some left) (more : List Char) :
    address? mayLack (text ++ more) = some (address, rest ++ more) := by
  rw [address?] at isRead ⊢
  split at isRead
  · rename_i behind isWord
    simp only [Option.bind_eq_bind, Option.bind_eq_some_iff, Prod.exists] at isRead
    rcases isRead with ⟨address, left, isQuoted, isRead⟩
    cases isRead
    rw [afterWord?_longer isWord (ne_nil rfl isQuoted)]
    simp only [Option.bind_eq_bind, quoted?_longer isQuoted]
    rfl
  · rename_i behind notWord isWord
    simp only [Option.bind_eq_bind, Option.bind_eq_some_iff, Prod.exists] at isRead
    rcases isRead with ⟨name, left, isQuoted, isRead⟩
    rw [afterWord?_longer isWord (ne_nil rfl isQuoted)]
    have notWordLonger : afterWord? "SYSTEM" (text ++ more) = none := by
      rw [afterWord?, Option.bind_eq_some_iff] at isWord
      rcases isWord with ⟨next, isWord, -⟩
      rw [after?_eq_some.mp isWord]
      exact afterWord?_ne "YSTEM".toList rfl (by decide) _
    simp only [notWordLonger, Option.bind_eq_bind, quoted?_longer isQuoted, Option.bind_some]
    split at isRead
    · cases isRead
    · rename_i isPublic
      rw [if_neg isPublic]
      split at isRead
      · rename_i found isAddress
        cases isRead
        rw [Option.bind_eq_some_iff] at isAddress
        rcases isAddress with ⟨others, isGap, isAddress⟩
        rw [afterSpace?_longer isGap (ne_nil rfl isAddress), Option.bind_some, quoted?_longer isAddress]
        rfl
      · split at isRead
        · rename_i isLacking
          cases isRead
          -- A second address may be lacking, but then the end of the declaration follows and not more text.
          rcases isEnd with isGiven | ⟨left, isEnd⟩
          · rw [isGiven] at isLacking
            cases isLacking
          · rw [bind_afterSpace?_eq_none (closing?_longer isEnd more) quoted?_end]
            exact if_pos isLacking
        · cases isRead
  · cases isRead

theorem notation?_longer (isRead : type.notation? text = some (next, rest)) (more : List Char) :
    (type.raise extra).notation? (text ++ more) = some (next.raise extra, rest ++ more) := by
  simp only [notation?, Option.bind_eq_bind, Option.bind_eq_some_iff, Prod.exists] at isRead
  rcases isRead with ⟨first, isBlank, name, second, isName, third, isGap, address, fourth, isAddress, fifth, isEnd,
    isRead⟩
  rcases exists_start_of_address? isAddress with ⟨c, others, rfl, -⟩
  simp only [notation?, Option.bind_eq_bind, practice_raise, Option.bind_some,
    afterSpace?_longer isBlank (ne_nil rfl isName), simpleName?_longer isName (ne_nil rfl isGap),
    afterSpace?_longer isGap (List.cons_ne_nil _ _), address?_longer isAddress (.inr ⟨_, isEnd⟩),
    closing?_longer isEnd]
  split at isRead
  · cases isRead
  · rename_i notTwice
    cases isRead
    exact if_neg notTwice

theorem declaredText?_raise (type : DocumentType) (isInside : Bool) (depth : Nat) (text : List Char) :
    (type.raise extra).declaredText? isInside depth text = type.declaredText? isInside depth text := by
  induction depth generalizing text with
  | zero => rfl
  | succ depth ih =>
      simp only [declaredText?, ih]
      rfl

theorem entityBody?_longer {isInside isParameter : Bool} {entity : Entity} {left : List Char}
    (isRead : type.entityBody? isInside isParameter text = some (entity, rest)) (isEnd : closing? rest = some left)
    (more : List Char) :
    (type.raise extra).entityBody? isInside isParameter (text ++ more) = some (entity, rest ++ more) := by
  rw [entityBody?] at isRead ⊢
  split at isRead
  · rename_i raw behind isQuoted
    simp only [quoted?_longer isQuoted, isDeaf_raise, declaredText?_raise]
    split at isRead
    · rename_i isDeaf
      cases isRead
      exact if_pos isDeaf
    · rename_i notDeaf
      rw [Option.map_eq_some_iff] at isRead
      rcases isRead with ⟨value, isValue, isRead⟩
      cases isRead
      rw [if_neg notDeaf, isValue]
      rfl
  · rename_i notQuoted
    simp only [Option.bind_eq_bind, Option.bind_eq_some_iff, Prod.exists] at isRead
    rcases isRead with ⟨address, behind, isAddress, isRead⟩
    rcases exists_start_of_address? isAddress with ⟨c, others, rfl, notMark⟩
    have notQuotedLonger : quoted? (c :: others ++ more) = none := by
      simp only [List.mem_cons, List.not_mem_nil, or_false, not_or] at notMark
      simp [quoted?, notMark]
    simp only [notQuotedLonger, Option.bind_eq_bind, practice_raise, address?_longer isAddress (.inl rfl),
      Option.bind_some]
    split at isRead
    · cases isRead
    · rename_i isFitting
      refine (if_neg isFitting).trans ?_
      split at isRead
      · rename_i inner isUnparsed
        rw [Option.bind_eq_some_iff] at isUnparsed
        rcases isUnparsed with ⟨next, isGap, isWord⟩
        simp only [Option.bind_eq_some_iff, Prod.exists] at isRead
        rcases isRead with ⟨name, last, isName, isRead⟩
        have isLeft : last ≠ [] := by
          rintro rfl
          split at isRead
          · cases isRead
          · cases isRead
            cases isEnd
        rw [afterSpace?_longer isGap (ne_nil rfl isWord), Option.bind_some,
          afterWord?_longer isWord (ne_nil rfl isName)]
        simp only [name?_longer isName isLeft, Option.bind_some]
        split at isRead
        · cases isRead
        · rename_i isAllowed
          cases isRead
          exact if_neg isAllowed
      · cases isRead
        rw [bind_afterSpace?_eq_none (closing?_longer isEnd more) (afterWord?_ne "DATA".toList rfl (by decide))]
        rfl

/-- The declaration of a text, from its name on. -/
def namedEntity? (type : DocumentType) (isInside isParameter : Bool) (text : List Char) :
    Option (DocumentType × List Char) := do
  let (name, rest) ← simpleName? type.practice text
  let (entity, rest) ← type.entityBody? isInside isParameter (← afterSpace? rest)
  let rest ← closing? rest
  if isParameter then
    let text := match entity with
      | .text value => some value
      | _ => none
    return (type.declareParameter name text, rest)
  else return (type.declareEntity name entity, rest)

theorem entity?_eq (type : DocumentType) (isInside : Bool) (text : List Char) :
    type.entity? isInside text = (afterSpace? text).bind fun
      | '%' :: rest => (afterSpace? rest).bind (type.namedEntity? isInside true)
      | rest => type.namedEntity? isInside false rest := by
  unfold entity?
  refine congrArg (Option.bind _) (funext fun next => ?_)
  rcases next with _ | ⟨c, rest⟩
  · rfl
  · by_cases isMark : c = '%'
    · subst isMark
      change ((afterSpace? rest).map fun rest => (true, rest)).bind _ = (afterSpace? rest).bind _
      cases afterSpace? rest <;> rfl
    · simp [isMark, namedEntity?]

theorem namedEntity?_longer {isInside isParameter : Bool}
    (isRead : type.namedEntity? isInside isParameter text = some (next, rest)) (more : List Char) :
    (type.raise extra).namedEntity? isInside isParameter (text ++ more) = some (next.raise extra, rest ++ more) := by
  simp only [namedEntity?, Option.bind_eq_bind, Option.bind_eq_some_iff, Prod.exists] at isRead
  rcases isRead with ⟨name, first, isName, second, isGap, entity, third, isEntity, fourth, isEnd, isRead⟩
  have isText : second ≠ [] := by
    rintro rfl
    cases isEntity
  simp only [namedEntity?, Option.bind_eq_bind, practice_raise, simpleName?_longer isName (ne_nil rfl isGap),
    afterSpace?_longer isGap isText, entityBody?_longer extra isEntity isEnd, closing?_longer isEnd, Option.bind_some,
    declareParameter_raise, declareEntity_raise]
  split at isRead
  · rename_i isParameter
    cases isRead
    exact if_pos isParameter
  · rename_i notParameter
    cases isRead
    exact if_neg notParameter

theorem entity?_longer {isInside : Bool} (isRead : type.entity? isInside text = some (next, rest)) (more : List Char) :
    (type.raise extra).entity? isInside (text ++ more) = some (next.raise extra, rest ++ more) := by
  rw [entity?_eq, Option.bind_eq_some_iff] at isRead
  rcases isRead with ⟨first, isBlank, isRead⟩
  have isText : first ≠ [] := by
    rintro rfl
    cases isRead
  rw [entity?_eq, afterSpace?_longer isBlank isText, Option.bind_some]
  split at isRead
  · rw [Option.bind_eq_some_iff] at isRead
    rcases isRead with ⟨second, isGap, isRead⟩
    simp only [List.cons_append, afterSpace?_longer isGap (ne_nil rfl isRead), Option.bind_some]
    exact namedEntity?_longer extra isRead more
  · rename_i notMark
    rcases List.exists_cons_of_ne_nil isText with ⟨c, others, rfl⟩
    have isLonger := namedEntity?_longer extra isRead more
    rw [List.cons_append] at isLonger ⊢
    split
    · rename_i isMark
      cases isMark
      exact (notMark _ rfl).elim
    · exact isLonger

theorem declaration?_longer {isInside : Bool} (isRead : type.declaration? isInside text = some (next, rest))
    (more : List Char) :
    (type.raise extra).declaration? isInside (text ++ more) = some (next.raise extra, rest ++ more) := by
  simp only [declaration?, Option.bind_eq_bind, Option.bind_eq_some_iff, Prod.exists] at isRead
  rcases isRead with ⟨word, left, isName, isRead⟩
  have isLeft : left ≠ [] := by
    rintro rfl
    split at isRead <;> cases isRead
  simp only [declaration?, Option.bind_eq_bind, practice_raise, name?_longer isName isLeft, Option.bind_some]
  split at isRead
  · exact element?_longer extra isRead more
  · exact attributes?_longer extra isRead more
  · exact entity?_longer extra isRead more
  · exact notation?_longer extra isRead more
  · cases isRead

/-! ## All declarations -/

/-- The item where declared texts may become longer and more text follows. -/
def Item.raise (extra : Nat) (more : List Char) : Item → Item
  | .declared type rest => .declared (type.raise extra) (rest ++ more)
  | .parameter name rest => .parameter name (rest ++ more)
  | .ending rest => .ending (rest ++ more)

theorem exists_start_of_declaration? {isInside : Bool} {read : DocumentType × List Char}
    (isRead : type.declaration? isInside text = some read) :
    ∃ c others, text = c :: others ∧ c ∉ ['(', '#', '-', '/', '?', '!', '>'] := by
  simp only [declaration?, Option.bind_eq_bind, Option.bind_eq_some_iff, Prod.exists] at isRead
  rcases isRead with ⟨word, left, isName, -⟩
  exact exists_start_of_name? isName

theorem item?_longer {isInside : Bool} {item : Item} {more : List Char} (isRead : type.item? isInside text = some item)
    (isOutside : isInside = false ∨ more = []) :
    (type.raise extra).item? isInside (text ++ more) = some (item.raise extra more) := by
  unfold item? at isRead
  split at isRead
  · rcases isOutside with rfl | rfl
    · cases isRead
    · split at isRead
      · rename_i isInside
        cases isRead
        exact if_pos isInside
      · cases isRead
  · split at isRead
    · cases isRead
    · rename_i isOutside
      cases isRead
      exact if_neg isOutside
  · split at isRead
    · rename_i name others isName
      cases isRead
      have isLonger := simpleName?_longer isName (List.cons_ne_nil _ _) more
      rw [List.cons_append] at isLonger
      simp only [item?, List.cons_append, practice_raise, isLonger]
      rfl
    · cases isRead
  · simp only [Option.map_eq_some_iff, Prod.exists] at isRead
    rcases isRead with ⟨body, left, isComment, isRead⟩
    cases isRead
    simp [item?, comment?_longer isComment, Item.raise]
  · simp only [Option.map_eq_some_iff, Prod.exists] at isRead
    rcases isRead with ⟨target, body, left, isInstruction, isRead⟩
    cases isRead
    simp [item?, instruction?_longer isInstruction, Item.raise]
  · rename_i inner notComment
    simp only [Option.map_eq_some_iff, Prod.exists] at isRead
    rcases isRead with ⟨next, left, isDeclaration, isRead⟩
    cases isRead
    have isLonger := declaration?_longer extra isDeclaration more
    rcases exists_start_of_declaration? isDeclaration with ⟨c, others, rfl, notMark⟩
    simp only [List.mem_cons, List.not_mem_nil, or_false, not_or] at notMark
    rw [List.cons_append] at isLonger
    simp [item?, notMark, isLonger, Item.raise]
  · cases isRead

theorem declarationsFrom_longer {refer longer : DocumentType → List Char → Option DocumentType} {isInside : Bool}
    {more : List Char} {fuel : Nat}
    (isReference : ∀ type name next, refer type name = some next →
      longer (type.raise extra) name = some (next.raise extra))
    (isRead : declarationsFrom refer isInside fuel type text = some (next, rest))
    (isOutside : isInside = false ∨ more = []) (spare : Nat) :
    declarationsFrom longer isInside (fuel + spare) (type.raise extra) (text ++ more) =
      some (next.raise extra, rest ++ more) := by
  induction fuel generalizing type text with
  | zero => cases isRead
  | succ fuel ih =>
      rw [Nat.add_right_comm]
      rw [declarationsFrom] at isRead ⊢
      -- An item begins behind the blanks, so a longer text has no more blanks before it.
      have isNext {item : Item} (isItem : type.item? isInside (skipSpace text) = some item) :
          (type.raise extra).item? isInside (skipSpace (text ++ more)) = some (item.raise extra more) := by
        have isWhole : skipSpace (text ++ more) = skipSpace text ++ more := by
          rcases isOutside with rfl | rfl
          · rcases isText : skipSpace text with _ | ⟨c, others⟩
            · rw [isText] at isItem
              cases isItem
            · rw [skipSpace_longer isText, List.cons_append]
          · rw [List.append_nil, List.append_nil]
        rw [isWhole]
        exact item?_longer extra isItem isOutside
      split at isRead
      · cases isRead
      · rename_i left isItem
        cases isRead
        rw [isNext isItem]
        rfl
      · rename_i other left isItem
        rw [isNext isItem]
        exact ih isRead
      · rename_i name left isItem
        rw [isNext isItem]
        split at isRead
        · rename_i other isReferred
          simp only [Item.raise, isReference _ _ _ isReferred]
          exact ih isRead
        · cases isRead

/-- The type that may have declarations elsewhere, where a text of some length stands for declarations. -/
def referring (type : DocumentType) (length : Nat) : DocumentType :=
  { type with isOpen := true, expansion := type.expansion + length + 20 }

theorem referTo_succ (depth : Nat) (outer : List (List Char)) (type : DocumentType) (name : List Char) :
    referTo (depth + 1) outer type name =
      if type.practice = .replacing && type.isStandalone then some { type with isOpen := true }
      else match type.parameters.lookup name with
        | some (some text) =>
          if outer.contains name || type.expansion + text.length + 20 > type.limit then none
          else (declarationsFrom (referTo depth (name :: outer)) true (text.length + 1)
            (type.referring text.length) text).bind fun (type, _) => some type
        | some none => some type.passOver
        | none => if type.isStandalone then none else some type.passOver := by
  rfl

theorem referTo_raise {depth : Nat} {outer : List (List Char)} {name : List Char}
    (isReferred : referTo depth outer type name = some next) :
    referTo depth outer (type.raise extra) name = some (next.raise extra) := by
  induction depth generalizing outer type name next with
  | zero => cases isReferred
  | succ depth ih =>
      rw [referTo_succ] at isReferred ⊢
      split at isReferred
      · rename_i isAlone
        cases isReferred
        exact if_pos isAlone
      · rename_i notAlone
        refine (if_neg notAlone).trans ?_
        change (match type.parameters.lookup name with
          | some (some text) => _
          | some none => _
          | none => _) = _
        split at isReferred
        · rename_i text isText
          split at isReferred
          · cases isReferred
          · rename_i fits
            simp only [Option.bind_eq_some_iff, Prod.exists] at isReferred
            rcases isReferred with ⟨other, left, isRead, isReferred⟩
            cases isReferred
            have isLonger := declarationsFrom_longer extra (fun _ _ _ => ih) isRead (.inr rfl) 0
            have fitsLonger : ¬ (outer.contains name ||
                decide (type.expansion + text.length + 20 > type.limit + extra)) = true := by
              simp only [Bool.or_eq_true, decide_eq_true_eq, not_or, not_lt] at fits ⊢
              exact ⟨fits.1, Nat.le_add_right_of_le fits.2⟩
            rw [List.append_nil] at isLonger
            exact (if_neg fitsLonger).trans (congrArg (Option.bind · _) isLonger)
        · cases isReferred
          rfl
        · split at isReferred
          · cases isReferred
          · rename_i notAlone
            cases isReferred
            exact if_neg notAlone

theorem subset?_longer (isRead : type.subset? text = some (next, rest)) (more : List Char) :
    (type.raise extra).subset? (text ++ more) = some (next.raise extra, rest ++ more) := by
  have isFuel : (text ++ more).length + 1 = text.length + 1 + more.length := by
    rw [List.length_append, Nat.add_right_comm]
  rw [subset?, isFuel]
  exact declarationsFrom_longer extra (fun _ _ _ => referTo_raise extra) isRead (.inl rfl) more.length

end DocumentType

open DocumentType

/-- What stands behind the name of a document type: the address of declarations elsewhere, if there is one. -/
def outside? (rest : List Char) : Option (Bool × List Char) :=
  match afterSpace? rest with
  | some next =>
    if next.head? = some '[' || next.head? = some '>' then some (false, next)
    else (address? false next).map fun (_, rest) => (true, skipSpace rest)
  | none => some (false, rest)

/-- The declarations of a document type between square brackets, if there are any, and its end. -/
def inside? (type : DocumentType) (text : List Char) : Option (DocumentType × List Char) :=
  (match text with
    | '[' :: rest => type.subset? rest
    | _ => some (type, text)).bind fun (type, rest) => (closing? rest).bind fun rest => some (type.measured, rest)

theorem inside?_eq (type : DocumentType) (text : List Char) :
    inside? type text = match text with
      | '[' :: rest => (type.subset? rest).bind fun (type, rest) =>
        (closing? rest).bind fun rest => some (type.measured, rest)
      | _ => (some (type, text)).bind fun (type, rest) =>
        (closing? rest).bind fun rest => some (type.measured, rest) := by
  unfold inside?
  split <;> rfl

theorem documentType?_eq (type : DocumentType) (text : List Char) :
    documentType? type text =
      (afterSpace? text).bind fun rest => (declaredName? type.practice rest).bind fun (_, rest) =>
        (outside? rest).bind fun (isOpen, rest) => inside? { type with isOpen } rest := by
  unfold documentType?
  refine congrArg (Option.bind _) (funext fun first => congrArg (Option.bind _) (funext fun name => ?_))
  rcases name with ⟨_, behind⟩
  dsimp only [outside?]
  rcases afterSpace? behind with _ | next
  · exact (inside?_eq { type with isOpen := false } behind).symm
  · dsimp only
    split
    · exact (inside?_eq { type with isOpen := false } next).symm
    · rcases address? false next with _ | ⟨_, rest⟩
      · rfl
      · exact (inside?_eq { type with isOpen := true } (skipSpace rest)).symm

theorem inside?_longer (isRead : inside? type text = some (next, rest)) (more : List Char) :
    inside? (type.raise extra) (text ++ more) = some (next.raise extra, rest ++ more) := by
  unfold inside? at isRead ⊢
  split at isRead
  · simp only [Option.bind_eq_some_iff, Prod.exists] at isRead
    rcases isRead with ⟨other, left, isSubset, last, isEnd, isRead⟩
    cases isRead
    simp only [List.cons_append, subset?_longer extra isSubset, Option.bind_some, closing?_longer isEnd,
      measured_raise]
  · rename_i notOpening
    simp only [Option.bind_some, Option.bind_eq_some_iff] at isRead
    rcases isRead with ⟨last, isEnd, isRead⟩
    cases isRead
    rcases List.exists_cons_of_ne_nil (ne_nil rfl isEnd) with ⟨c, others, rfl⟩
    have isEndLonger := closing?_longer isEnd more
    rw [List.cons_append] at isEndLonger ⊢
    split
    · rename_i isOpening
      cases isOpening
      exact (notOpening _ rfl).elim
    · simp only [Option.bind_some, isEndLonger, measured_raise]

theorem outside?_longer {isOpen : Bool} (isRead : outside? text = some (isOpen, rest)) (isLeft : rest ≠ [])
    (more : List Char) : outside? (text ++ more) = some (isOpen, rest ++ more) := by
  rw [outside?] at isRead ⊢
  split at isRead
  · rename_i behind isBlank
    split at isRead
    · rename_i isOpening
      cases isRead
      rcases List.exists_cons_of_ne_nil isLeft with ⟨c, others, rfl⟩
      rw [afterSpace?_longer isBlank isLeft]
      exact if_pos isOpening
    · rw [Option.map_eq_some_iff, Prod.exists] at isRead
      rcases isRead with ⟨address, left, isAddress, isRead⟩
      cases isRead
      rcases exists_start_of_address? isAddress with ⟨c, others, rfl, notMark⟩
      simp only [List.mem_cons, List.not_mem_nil, or_false, not_or] at notMark
      rcases List.exists_cons_of_ne_nil isLeft with ⟨d, inner, isNext⟩
      have isAddressLonger := address?_longer isAddress (.inl rfl) more
      rw [List.cons_append] at isAddressLonger
      simp [afterSpace?_longer isBlank (List.cons_ne_nil _ _), notMark, isAddressLonger, skipSpace_longer isNext,
        isNext]
  · rename_i notBlank
    cases isRead
    rw [afterSpace?_eq_none_longer notBlank isLeft]

/-- A document type is read as well when more text follows and when declared texts may become longer. -/
theorem documentType?_longer (isRead : documentType? type text = some (next, rest)) (more : List Char) :
    documentType? (type.raise extra) (text ++ more) = some (next.raise extra, rest ++ more) := by
  rw [documentType?_eq] at isRead ⊢
  simp only [Option.bind_eq_some_iff, Prod.exists] at isRead
  rcases isRead with ⟨first, isBlank, name, second, isName, isOpen, third, isOutside, isInside⟩
  have isText : third ≠ [] := by
    rintro rfl
    cases isInside
  have isLeft : second ≠ [] := by
    rintro rfl
    cases isOutside
    exact isText rfl
  simp only [afterSpace?_longer isBlank (ne_nil rfl isName), Option.bind_some, practice_raise,
    declaredName?_longer isName isLeft, outside?_longer isOutside isText]
  exact inside?_longer extra isInside more

/-- What stands before the pieces of a document is passed over in a longer document as well, if more than an opening
mark is left over. -/
theorem prologue?_longer {fuel : Nat} (isRead : prologue? type fuel text = some (next, rest))
    (isLong : 2 ≤ rest.length) (spare : Nat) (more : List Char) :
    prologue? (type.raise extra) (fuel + spare) (text ++ more) = some (next.raise extra, rest ++ more) := by
  induction fuel generalizing text with
  | zero => cases isRead
  | succ fuel ih =>
      rw [Nat.add_right_comm]
      rw [prologue?] at isRead
      split at isRead
      · rename_i others isMark
        split at isRead
        · rename_i read left isInstruction
          simp only [prologue?, skipSpace_longer isMark, List.cons_append, practice_raise,
            instruction?_longer isInstruction]
          exact ih isRead
        · cases isRead
      · rename_i others isMark
        split at isRead
        · rename_i body left isComment
          simp only [prologue?, skipSpace_longer isMark, List.cons_append, comment?_longer isComment]
          exact ih isRead
        · cases isRead
      · rename_i others notComment isMark
        rw [Option.bind_eq_some_iff] at isRead
        rcases isRead with ⟨behind, isWord, isRead⟩
        have isDocumentType := documentType?_longer extra isRead more
        have isNext : skipSpace (text ++ more) = '<' :: '!' :: 'D' :: ("OCTYPE".toList ++ (behind ++ more)) := by
          rw [after?_eq_some.mp isWord] at isMark
          rw [skipSpace_longer isMark]
          simp
        have isWordLonger : after? "DOCTYPE".toList ('D' :: ("OCTYPE".toList ++ (behind ++ more))) =
            some (behind ++ more) :=
          after?_eq_some.mpr rfl
        rw [prologue?, isNext]
        exact (congrArg (Option.bind · _) isWordLonger).trans isDocumentType
      · rename_i notInstruction notComment notMark
        cases isRead
        -- Two characters are left, so that the longer text does not begin with one more mark of the kinds above.
        rcases isText : skipSpace text with _ | ⟨c, _ | ⟨d, others⟩⟩
        · rw [isText] at isLong
          cases isLong
        · rw [isText] at isLong
          simp at isLong
        · rw [prologue?, skipSpace_longer isText]
          split
          · rename_i isMark
            simp only [List.cons_append, List.cons.injEq] at isMark
            exact (notInstruction others (by rw [isText, isMark.1, isMark.2.1])).elim
          · rename_i isMark
            simp only [List.cons_append, List.cons.injEq] at isMark
            exact (notMark others (by rw [isText, isMark.1, isMark.2.1])).elim
          · rename_i isMark
            simp only [List.cons_append, List.cons.injEq] at isMark
            exact (notMark others (by rw [isText, isMark.1, isMark.2.1])).elim
          · rfl

end Sparql.Xml
