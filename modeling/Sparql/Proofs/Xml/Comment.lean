import Sparql.Proofs.Text.Lines
import Sparql.Proofs.Xml.Alike
import Sparql.Proofs.Xml.Escape
import Sparql.Proofs.Xml.Longer
import Sparql.Xml.Source

/-!
# Comments in documents

A text is cut into pieces up to the run of characters at its end, which goes on in a longer text. A comment behind it
cuts that run in two and changes no other piece. Inside an element it adds itself to the element as well: where the
element has nothing left that counts but elements, or where no run of characters follows, the document is read alike
with the comment.
-/

namespace Sparql.Xml

/-! ## Cutting with and without a comment -/

section Cutting

variable {practice : Practice} {text : List Char} {pieces : List Piece}

/-- The piece of a run of characters as it is written, if there are any. -/
def rawPieces (raw : List Char) : List Piece := if raw.isEmpty then [] else [.text raw]

theorem length_rawPieces (raw : List Char) : (rawPieces raw).length ≤ 1 := by
  unfold rawPieces
  split <;> simp

/-- A text that ends every run of characters before it. -/
def EndsRun (text : List Char) : Prop := text.head?.all (· = '<') = true

theorem endsRun_dropWhile (text : List Char) : EndsRun (text.dropWhile (· ≠ '<')) := by
  have isEnd := List.head?_dropWhile_not (fun c : Char => decide (c ≠ '<')) text
  unfold EndsRun
  revert isEnd
  rcases (text.dropWhile (· ≠ '<')).head? with _ | d <;> simp

theorem takeWhile_run {raw rest : List Char} (isRun : '<' ∉ raw) (ends : EndsRun rest) :
    (raw ++ rest).takeWhile (· ≠ '<') = raw ∧ (raw ++ rest).dropWhile (· ≠ '<') = rest := by
  have inside : ∀ c ∈ raw, decide (c ≠ '<') = true := by
    intro c mem
    have differs : c ≠ '<' := fun isOpening => isRun (isOpening ▸ mem)
    simpa using differs
  rw [List.takeWhile_append_of_pos inside, List.dropWhile_append_of_pos inside]
  rcases rest with _ | ⟨c, rest⟩
  · simp
  · have isOpening : c = '<' := by simpa [EndsRun] using ends
    simp [isOpening]

variable (practice) in
theorem piece?_of_run {raw rest : List Char} (isText : raw ≠ []) (isRun : '<' ∉ raw) (ends : EndsRun rest) :
    piece? practice (raw ++ rest) = if hasVerbatimEnd raw then none else some (.text raw, rest) := by
  rcases raw with _ | ⟨c, raw⟩
  · exact absurd rfl isText
  · rcases takeWhile_run isRun ends with ⟨isTaken, isDropped⟩
    have differs : c ≠ '<' := fun isOpening => isRun (isOpening ▸ .head _)
    rw [List.cons_append, piece?]
    · rw [← List.cons_append, isTaken, isDropped]
    all_goals simp [differs]

/-- A run of characters is one piece, if it is not empty, whatever ends it. -/
theorem piecesFrom_run {raw rest : List Char} (isRun : '<' ∉ raw) (noEnd : hasVerbatimEnd raw = false)
    (ends : EndsRun rest) (read : List Piece) (fuel : Nat) :
    piecesFrom practice read (fuel + (rawPieces raw).length) (raw ++ rest) =
      piecesFrom practice ((rawPieces raw).reverse ++ read) fuel rest := by
  rcases raw with _ | ⟨c, raw⟩
  · rfl
  · have isPiece := piece?_of_run practice (List.cons_ne_nil c raw) isRun ends
    rw [noEnd, if_neg Bool.false_ne_true, List.cons_append] at isPiece
    change piecesFrom practice read (fuel + 1) (c :: (raw ++ rest)) = _
    rw [piecesFrom, isPiece]
    rfl

/-- The run of characters that is cut from the beginning of a text. -/
theorem piece?_text {c : Char} {piece : Piece} {rest : List Char} (notOpening : c ≠ '<')
    (isPiece : piece? practice (c :: text) = some (piece, rest)) :
    ∃ raw, piece = .text raw ∧ c :: text = raw ++ rest ∧ raw ≠ [] ∧ '<' ∉ raw ∧ EndsRun rest ∧
      hasVerbatimEnd raw = false := by
  rw [piece?] at isPiece
  · simp only [Option.ite_none_left_eq_some, Option.some.injEq, Prod.mk.injEq] at isPiece
    rcases isPiece with ⟨noEnd, rfl, rfl⟩
    exact ⟨_, rfl, (List.takeWhile_append_dropWhile).symm, by simp [notOpening],
      fun mem => by simpa using List.mem_takeWhile_imp mem, endsRun_dropWhile (c :: text), by simpa using noEnd⟩
  all_goals simp [notOpening]

/-- What is cut from behind a run of characters. -/
theorem exists_behind_run {raw rest : List Char} (isRun : '<' ∉ raw) (ends : EndsRun rest) {read all : List Piece}
    {fuel : Nat} (isCut : piecesFrom practice read fuel (raw ++ rest) = some all) :
    hasVerbatimEnd raw = false ∧ ∃ less, fuel = less + (rawPieces raw).length ∧
      piecesFrom practice ((rawPieces raw).reverse ++ read) less rest = some all := by
  rcases raw with _ | ⟨c, raw⟩
  · exact ⟨rfl, fuel, rfl, isCut⟩
  · have isPiece := piece?_of_run practice (List.cons_ne_nil c raw) isRun ends
    rcases fuel with _ | fuel
    · cases isCut
    · rw [List.cons_append] at isPiece isCut
      rw [piecesFrom, isPiece] at isCut
      cases noEnd : hasVerbatimEnd (c :: raw) with
      | true =>
          rw [noEnd] at isCut
          cases isCut
      | false =>
          rw [noEnd] at isCut
          exact ⟨rfl, fuel, rfl, isCut⟩

/-- More steps than needed do no harm. -/
theorem piecesFrom_spare {read all : List Piece} {fuel : Nat} (isCut : piecesFrom practice read fuel text = some all) :
    ∃ others, all = read.reverse ++ others ∧ ∀ before more, fuel ≤ more →
      piecesFrom practice before more text = some (before.reverse ++ others) := by
  induction fuel generalizing read text with
  | zero =>
      rcases text with _ | ⟨c, text⟩
      · cases isCut
        exact ⟨[], (List.append_nil _).symm, fun before more _ => by rw [piecesFrom, List.append_nil]⟩
      · cases isCut
  | succ fuel ih =>
      rcases text with _ | ⟨c, text⟩
      · cases isCut
        exact ⟨[], (List.append_nil _).symm, fun before more _ => by rw [piecesFrom, List.append_nil]⟩
      · rw [piecesFrom] at isCut
        split at isCut
        · rename_i piece rest isPiece
          rcases ih isCut with ⟨others, isAll, spare⟩
          refine ⟨piece :: others, by simpa using isAll, fun before more isMore => ?_⟩
          rcases more with _ | more
          · cases isMore
          · rw [piecesFrom, isPiece]
            simpa using spare (piece :: before) more (Nat.le_of_succ_le_succ isMore)
        · cases isCut

/-- The pieces of a text up to the run of characters at its end, which goes on in a longer text. -/
theorem exists_tail_of_piecesFrom {read all : List Piece} {fuel : Nat}
    (isCut : piecesFrom practice read fuel text = some all) :
    ∃ first tail, all = read.reverse ++ first ++ rawPieces tail ∧ '<' ∉ tail ∧ hasVerbatimEnd tail = false ∧
      first.length ≤ fuel ∧ ∀ before spare more,
        piecesFrom practice before (spare + first.length) (text ++ more) =
          piecesFrom practice (first.reverse ++ before) spare (tail ++ more) := by
  induction fuel generalizing read text with
  | zero =>
      rcases text with _ | ⟨c, text⟩
      · cases isCut
        exact ⟨[], [], by simp [rawPieces], List.not_mem_nil, rfl, Nat.le_refl _, fun _ _ _ => rfl⟩
      · cases isCut
  | succ fuel ih =>
      rcases text with _ | ⟨c, text⟩
      · cases isCut
        exact ⟨[], [], by simp [rawPieces], List.not_mem_nil, rfl, Nat.zero_le _, fun _ _ _ => rfl⟩
      · rw [piecesFrom] at isCut
        split at isCut
        · rename_i piece rest isPiece
          have goesOn (isLonger : ∀ more, piece? practice (c :: text ++ more) = some (piece, rest ++ more)) :
              ∃ first tail, all = read.reverse ++ first ++ rawPieces tail ∧ '<' ∉ tail ∧ hasVerbatimEnd tail = false ∧
                first.length ≤ fuel + 1 ∧ ∀ before spare more,
                  piecesFrom practice before (spare + first.length) (c :: text ++ more) =
                    piecesFrom practice (first.reverse ++ before) spare (tail ++ more) := by
            -- A piece that is cut alike in every longer text comes before the ones that are found behind it.
            rcases ih isCut with ⟨first, tail, isAll, isRun, noEnd, fits, isLongerRest⟩
            refine ⟨piece :: first, tail, by simpa using isAll, isRun, noEnd, Nat.succ_le_succ fits,
              fun before spare more => ?_⟩
            have isNext := isLonger more
            rw [List.cons_append] at isNext ⊢
            rw [List.length_cons, ← Nat.add_assoc, piecesFrom, isNext]
            simpa using isLongerRest (piece :: before) spare more
          by_cases isOpening : c = '<'
          · subst isOpening
            exact goesOn (piece?_longer isPiece)
          · rcases piece?_text isOpening isPiece with ⟨raw, rfl, isSplit, isRaw, isRun, ends, noEnd⟩
            -- A run of characters goes on in a longer text exactly if nothing ends it here.
            rcases rest with _ | ⟨d, rest⟩
            · rw [List.append_nil] at isSplit
              have isLast : all = (.text raw :: read).reverse := by
                cases fuel <;> cases isCut <;> rfl
              refine ⟨[], raw, ?_, isRun, noEnd, Nat.zero_le _, fun _ _ _ => by rw [isSplit]; rfl⟩
              simp [isLast, rawPieces, isRaw]
            · refine goesOn fun more => ?_
              have endsToo : EndsRun (d :: rest ++ more) := ends
              rw [isSplit, List.append_assoc, piece?_of_run practice isRaw isRun endsToo, noEnd]
              rfl
        · cases isCut

/-! ### Comments -/

/-- What may stand between the marks of a comment: no two hyphens beside each other, and none at the end. -/
def IsCommentText (comment : List Char) : Prop := IsLegal comment ∧ ¬ ['-', '-'] <:+: comment ++ ['-']

instance (comment : List Char) : Decidable (IsCommentText comment) := inferInstanceAs (Decidable (_ ∧ _))

theorem splitFrom_hyphens {comment : List Char} (noPair : ¬ ['-', '-'] <:+: comment ++ ['-'])
    (before rest : List Char) :
    splitFrom ['-', '-'] before (comment ++ '-' :: '-' :: rest) = some (before.reverse ++ comment, rest) := by
  induction comment generalizing before with
  | nil => simp [splitFrom, after?]
  | cons c comment ih =>
      have notHere : after? ['-', '-'] (c :: (comment ++ '-' :: '-' :: rest)) = none := by
        rw [Option.eq_none_iff_forall_ne_some]
        intro others isHere
        rw [after?_eq_some] at isHere
        refine noPair ?_
        rcases comment with _ | ⟨d, comment⟩
        · simp only [List.nil_append, List.cons_append, List.cons.injEq] at isHere
          simp [isHere.1]
        · simp only [List.cons_append, List.nil_append, List.cons.injEq] at isHere
          rw [isHere.1, isHere.2.1]
          exact List.infix_iff_prefix_suffix.mpr ⟨_, List.prefix_append ['-', '-'] _, List.suffix_refl _⟩
      have noPairBehind : ¬ ['-', '-'] <:+: comment ++ ['-'] :=
        fun isPair => noPair (isPair.trans (List.suffix_cons c _).isInfix)
      rw [List.cons_append, splitFrom, notHere]
      simpa using ih noPairBehind (c :: before)

variable (practice) in
/-- A comment is one piece. -/
theorem piece?_comment {comment : List Char} (noPair : ¬ ['-', '-'] <:+: comment ++ ['-']) (rest : List Char) :
    piece? practice ('<' :: '!' :: '-' :: '-' :: (comment ++ '-' :: '-' :: '>' :: rest)) =
      some (.comment comment, rest) := by
  have isSplit : splitAt? "--" (comment ++ '-' :: '-' :: '>' :: rest) = some (comment, '>' :: rest) :=
    splitFrom_hyphens noPair [] ('>' :: rest)
  simp [piece?, comment?, isSplit]

/-! ### Pieces with and without a comment -/

theorem splitFrom_isSome {mark : List Char} (isMark : mark ≠ []) (before text : List Char) :
    (splitFrom mark before text).isSome = true ↔ mark <:+: text := by
  induction text generalizing before with
  | nil => simp [splitFrom, isMark]
  | cons c text ih =>
      rw [splitFrom, List.infix_cons_iff]
      split
      · rename_i rest isHere
        exact iff_of_true rfl (.inl ⟨rest, (after?_eq_some.mp isHere).symm⟩)
      · rename_i notHere
        have notPrefix : ¬ mark <+: c :: text := by
          rintro ⟨rest, isPrefix⟩
          rw [after?_eq_some.mpr isPrefix.symm] at notHere
          cases notHere
        rw [ih]
        exact ⟨.inr, (·.resolve_left notPrefix)⟩

theorem hasVerbatimEnd_eq_false {raw : List Char} : hasVerbatimEnd raw = false ↔ ¬ [']', ']', '>'] <:+: raw := by
  rw [← splitFrom_isSome (List.cons_ne_nil _ _) [], Bool.not_eq_true]
  rfl

/-- A run of characters without the end of a verbatim part has none behind a line feed either. -/
theorem hasVerbatimEnd_behind {tail run feed : List Char} (isFeed : feed = [] ∨ feed = ['\n'])
    (noEnd : hasVerbatimEnd (tail ++ run) = false) : hasVerbatimEnd (feed ++ run) = false := by
  rw [hasVerbatimEnd_eq_false] at noEnd ⊢
  have noEndBehind : ¬ [']', ']', '>'] <:+: run := fun isEnd => noEnd (isEnd.trans (List.suffix_append _ _).isInfix)
  rcases isFeed with rfl | rfl
  · exact noEndBehind
  · rw [List.singleton_append, List.infix_cons_iff, List.cons_prefix_cons]
    simpa using noEndBehind

/-- How a text is cut with and without a comment behind a part of it that is cut itself. -/
theorem exists_cut {before after comment feed : List Char} {all : List Piece}
    (isBefore : pieces? practice before = some pieces) (isWhole : pieces? practice (before ++ after) = some all)
    (noPair : ¬ ['-', '-'] <:+: comment ++ ['-']) (isFeed : feed = [] ∨ feed = ['\n']) :
    ∃ first tail others fuel, pieces = first ++ rawPieces tail ∧
      all = first ++ rawPieces (tail ++ after.takeWhile (· ≠ '<')) ++ others ∧
      piecesFrom practice [] fuel (after.dropWhile (· ≠ '<')) = some others ∧
      pieces? practice
          (before ++ '<' :: '!' :: '-' :: '-' :: (comment ++ '-' :: '-' :: '>' :: (feed ++ after))) =
        some (first ++ rawPieces tail ++
          .comment comment :: rawPieces (feed ++ after.takeWhile (· ≠ '<')) ++ others) := by
  rcases exists_tail_of_piecesFrom isBefore with ⟨first, tail, isPieces, isTail, noEnd, fits, goesOn⟩
  have isAfter : after = after.takeWhile (· ≠ '<') ++ after.dropWhile (· ≠ '<') := List.takeWhile_append_dropWhile.symm
  have isRun : '<' ∉ after.takeWhile (· ≠ '<') := fun mem => by simpa using List.mem_takeWhile_imp mem
  have ends : EndsRun (after.dropWhile (· ≠ '<')) := endsRun_dropWhile after
  generalize after.takeWhile (· ≠ '<') = run, after.dropWhile (· ≠ '<') = last at isAfter isRun ends ⊢
  subst isAfter
  -- without the comment
  have isSpare : (before ++ (run ++ last)).length =
      before.length - first.length + (run ++ last).length + first.length := by
    rw [List.length_append]
    omega
  rw [pieces?, isSpare, goesOn, ← List.append_assoc] at isWhole
  have isWholeRun : '<' ∉ tail ++ run := by simp [isTail, isRun]
  rcases exists_behind_run isWholeRun ends isWhole with ⟨noEndWhole, less, isLess, isLast⟩
  rcases piecesFrom_spare isLast with ⟨others, isAll, spare⟩
  refine ⟨first, tail, others, less, isPieces, by simpa using isAll, spare [] less (Nat.le_refl _), ?_⟩
  -- with it
  have isLongRun : '<' ∉ feed ++ run := by rcases isFeed with rfl | rfl <;> simp [isRun]
  have noEndLong := hasVerbatimEnd_behind isFeed noEndWhole
  have isFuel : ∃ more, less ≤ more ∧
      (before ++ '<' :: '!' :: '-' :: '-' :: (comment ++ '-' :: '-' :: '>' :: (feed ++ (run ++ last)))).length =
        more + (rawPieces (feed ++ run)).length + 1 + (rawPieces tail).length + first.length := by
    have tailFits := length_rawPieces tail
    have runFits := length_rawPieces (feed ++ run)
    simp only [List.length_append, List.length_cons] at isLess ⊢
    exact ⟨before.length + (comment.length + (feed.length + (run.length + last.length) + 1 + 1 + 1) + 1 + 1 + 1 + 1) -
      first.length - (rawPieces tail).length - 1 - (rawPieces (feed ++ run)).length, by omega, by omega⟩
  rcases isFuel with ⟨more, isMore, isFuel⟩
  have isComment := piece?_comment practice noPair (feed ++ (run ++ last))
  rw [pieces?, isFuel, goesOn, piecesFrom_run isTail noEnd (by rfl), piecesFrom, isComment]
  dsimp only
  rw [← List.append_assoc feed, piecesFrom_run isLongRun noEndLong ends, spare _ more isMore]
  simp

/-- The piece that a mark begins adds no characters, if it is not the mark of a verbatim part. -/
theorem isRun_of_mark {rest : List Char} {fuel : Nat} (isCut : piecesFrom practice [] fuel ('<' :: rest) = some pieces)
    (notVerbatim : ¬ "<![CDATA[".toList <+: '<' :: rest) :
    ∃ piece others, pieces = piece :: others ∧ piece.isRun = false := by
  rcases fuel with _ | fuel
  · cases isCut
  rw [piecesFrom] at isCut
  split at isCut
  · rename_i piece left isPiece
    rcases piecesFrom_spare isCut with ⟨others, isAll, -⟩
    refine ⟨piece, others, isAll, ?_⟩
    unfold piece? at isPiece
    split at isPiece
    · simp only [closeTag?, Option.bind_eq_bind, Option.bind_eq_some_iff, Prod.exists] at isPiece
      rcases isPiece with ⟨name, behind, -, isPiece⟩
      split at isPiece <;> cases isPiece
      rfl
    · simp only [Option.map_eq_some_iff, Prod.exists] at isPiece
      rcases isPiece with ⟨target, body, behind, -, isPiece⟩
      cases isPiece
      rfl
    · simp only [Option.map_eq_some_iff, Prod.exists] at isPiece
      rcases isPiece with ⟨body, behind, -, isPiece⟩
      cases isPiece
      rfl
    · rename_i isText
      cases isText
      simp only [Option.bind_eq_bind, Option.bind_eq_some_iff] at isPiece
      rcases isPiece with ⟨behind, isMark, -⟩
      exact (notVerbatim ⟨behind, by rw [after?_eq_some.mp isMark]; rfl⟩).elim
    · simp only [openTag?, Option.bind_eq_bind, Option.bind_eq_some_iff, Prod.exists] at isPiece
      rcases isPiece with ⟨name, behind, -, given, isEmpty, left, -, isPiece⟩
      cases isPiece
      rfl
    · rename_i notOpening
      exact (notOpening rest rfl).elim
  · cases isCut

end Cutting

/-! ## Fragments -/

section Fragments

variable {practice : Practice} {first : List Char} {fragments : List Fragment}

theorem fragmentsFrom_append {read : List Fragment} {reference : Option (List Char)}
    (isRead : fragmentsFrom practice read reference first = some fragments) (second : List Char) :
    fragmentsFrom practice read reference (first ++ second) = fragmentsFrom practice fragments.reverse none second := by
  induction first generalizing read reference with
  | nil =>
      cases reference with
      | none =>
          cases isRead
          rw [List.reverse_reverse, List.nil_append]
      | some name => cases isRead
  | cons c first ih =>
      rw [List.cons_append]
      cases reference with
      | none =>
          simp only [fragmentsFrom] at isRead ⊢
          split at isRead
          · rename_i isReference
            rw [if_pos isReference, ih isRead]
          · rename_i isCharacter
            rw [if_neg isCharacter, ih isRead]
      | some name =>
          simp only [fragmentsFrom] at isRead ⊢
          split at isRead
          · rename_i isEnd
            rw [if_pos isEnd]
            split at isRead
            · exact ih isRead
            · cases isRead
          · rename_i isInside
            rw [if_neg isInside, ih isRead]

variable (practice) in
theorem fragmentsFrom_read (read before : List Fragment) (reference : Option (List Char)) (text : List Char) :
    fragmentsFrom practice (read ++ before) reference text =
      (fragmentsFrom practice read reference text).map (before.reverse ++ ·) := by
  induction text generalizing read reference with
  | nil => cases reference <;> simp [fragmentsFrom]
  | cons c text ih =>
      cases reference with
      | none =>
          simp only [fragmentsFrom, ← List.cons_append, ih]
          split <;> rfl
      | some name =>
          simp only [fragmentsFrom]
          split
          · split
            · rw [← List.cons_append, ih]
            · rfl
          · rw [ih]

/-- The fragments of a text are those of its parts. -/
theorem fragments?_append (isRead : fragments? practice first = some fragments) (second : List Char) :
    fragments? practice (first ++ second) = (fragments? practice second).map (fragments ++ ·) := by
  have onto := fragmentsFrom_read practice [] fragments.reverse none second
  rw [List.nil_append, List.reverse_reverse] at onto
  rw [fragments?, fragmentsFrom_append isRead, onto]
  rfl

end Fragments

/-! ## Inserting -/

/-- A place inside an element where a comment does not count, before some text: nothing counts any more but elements,
or no first child does and no run of characters comes next. -/
def PassesOver (reading : Reading) (stack : List OpenElement) (after : List Char) : Prop :=
  ∃ one ∈ stack.head?, OpenElement.IsDone reading one ∨
    ¬ reading.asksFirst one.tag ∧ "<".toList <+: after ∧ ¬ "<![CDATA[".toList <+: after

section Decidability

variable {reading : Reading} [DecidablePred reading.asksFirst] [DecidablePred reading.asksText]

instance (one : OpenElement) : Decidable (OpenElement.IsDone reading one) :=
  inferInstanceAs (Decidable
    (reading.asksFirst one.tag ∨ reading.asksText one.tag → one.content.all Node.isText = false))

instance (stack : List OpenElement) (after : List Char) : Decidable (PassesOver reading stack after) :=
  inferInstanceAs (Decidable (∃ one ∈ stack.head?, _ ∨ _))

end Decidability

namespace Draft

variable {readInside : Draft → List Char → Option Draft} {draft next : Draft}

/-- Fragments are inserted one after the other, where the characters that have been read last still wait. -/
theorem exists_flush_of_insertFragments {read : List Char} {fragments : List Fragment}
    (isInserted : draft.insertFragments readInside read fragments = some next) :
    ∃ last waiting, flush last waiting = some next ∧ ∀ others,
      draft.insertFragments readInside read (fragments ++ others) = last.insertFragments readInside waiting others := by
  induction fragments generalizing draft read with
  | nil => exact ⟨draft, read, isInserted, fun _ => rfl⟩
  | cons fragment fragments ih =>
      cases fragment with
      | char c => exact ih isInserted
      | entity name =>
          rw [insertFragments_entity] at isInserted
          simp only [Option.bind_eq_some_iff] at isInserted
          rcases isInserted with ⟨flushed, isFlushed, entered, isEntered, isInserted⟩
          rcases ih isInserted with ⟨last, waiting, isLast, goesOn⟩
          refine ⟨last, waiting, isLast, fun others => ?_⟩
          rw [List.cons_append, insertFragments_entity, isFlushed, Option.bind_some, isEntered, Option.bind_some]
          exact goesOn others

theorem foldlM_rawPieces (draft : Draft) (raw : List Char) :
    (rawPieces raw).foldlM (step readInside) draft = draft.insertText readInside raw := by
  rcases raw with _ | ⟨c, raw⟩
  · change some draft = draft.insertText readInside []
    unfold insertText
    split <;> rfl
  · exact Option.bind_fun_some _

/-! ### Past a comment -/

variable {reading : Reading} {type : DocumentType} {extra : Nat} {other : Draft}
  {readLonger : Draft → List Char → Option Draft}

/-- A text inside an element is inserted as its fragments. -/
theorem insertText_inside (isInside : draft.stack.isEmpty = false) (raw : List Char) :
    draft.insertText readInside raw =
      (fragments? draft.type.practice raw).bind (draft.insertFragments readInside []) := by
  rw [insertText, isInside, if_neg Bool.false_ne_true]

theorem IsDone.isEmpty_eq (done : IsDone reading draft) : draft.stack.isEmpty = false := by
  rcases done with ⟨one, isFirst, -⟩
  rcases isStack : draft.stack with _ | ⟨_, _⟩
  · rw [isStack] at isFirst
    cases isFirst
  · rfl

theorem isEmpty_of_insertText {raw : List Char} (isInserted : draft.insertText readInside raw = some next)
    (isInside : next.stack.isEmpty = false) : draft.stack.isEmpty = false := by
  cases isEmpty : draft.stack.isEmpty with
  | false => rfl
  | true =>
      rw [insertText, isEmpty, if_pos rfl] at isInserted
      split at isInserted
      · cases isInserted
        rw [isEmpty] at isInside
        cases isInside
      · cases isInserted

theorem insertText_behind (isInside : draft.stack.isEmpty = false) {feed run : List Char}
    (isFeed : feed = [] ∨ feed = ['\n']) {fragments : List Fragment}
    (isRead : fragments? draft.type.practice run = some fragments) :
    draft.insertText readInside (feed ++ run) = draft.insertFragments readInside feed.reverse fragments := by
  rw [insertText_inside isInside]
  rcases isFeed with rfl | rfl
  · rw [List.nil_append, isRead]
    rfl
  · have isFirst : fragments? draft.type.practice ['\n'] = some [.char '\n'] := rfl
    have isNext : fragments? draft.type.practice (['\n'] ++ run) = some (.char '\n' :: fragments) := by
      rw [fragments?_append isFirst, isRead]
      rfl
    rw [isNext]
    rfl

/-- Where nothing counts but elements, a run of characters is read alike when a comment cuts it in two. -/
theorem follows_past_comment (reads : ReadAlike reading type extra readInside readLonger)
    (settled : Settled reading type extra draft other) {tail run comment feed : List Char}
    (isInserted : draft.insertText readInside tail = some next) (done : IsDone reading next)
    (isFeed : feed = [] ∨ feed = ['\n']) :
    Follows (Settled reading type extra) (draft.insertText readInside (tail ++ run))
      ((rawPieces tail ++ .comment comment :: rawPieces (feed ++ run)).foldlM (step readLonger) other) := by
  have isInside := isEmpty_of_insertText isInserted done.isEmpty_eq
  rcases settled.insertText reads tail next isInserted with ⟨longer, isLonger, settledNext⟩
  rw [insertText_inside isInside, Option.bind_eq_some_iff] at isInserted
  rcases isInserted with ⟨fragments, isRead, isInserted⟩
  -- what waits to be inserted may as well be inserted before the comment
  rcases exists_flush_of_insertFragments isInserted with ⟨last, waiting, isLast, goesOn⟩
  rcases settled_of_flush isLast settledNext done with ⟨settledLast, doneLast⟩
  have notElement : (Node.comment comment).isElement = false := rfl
  rcases settledLast.insert_right doneLast notElement with ⟨commented, isCommented, settledLast⟩
  have isInsideLonger : longer.stack.isEmpty = false := settledNext.isEmpty_eq.trans done.isEmpty_eq
  have isInsideCommented : commented.stack.isEmpty = false := settledLast.isEmpty_eq.trans doneLast.isEmpty_eq
  have isAside : longer.step readLonger (.comment comment) = some commented := by
    rw [step, insertAside, isInsideLonger, if_neg Bool.false_ne_true, isCommented]
  rw [List.foldlM_append, foldlM_rawPieces, isLonger, insertText_inside isInside,
    fragments?_append isRead]
  change Follows _ _ ((longer.step readLonger (.comment comment)).bind _)
  rw [isAside, Option.bind_some, foldlM_rawPieces]
  have isPractice : commented.type.practice = draft.type.practice := by
    rw [settledLast.isTypeToo, settled.isType]
    rfl
  rcases isRun : fragments? draft.type.practice run with _ | others
  · exact follows_none
  · rw [insertText_behind isInsideCommented isFeed (isPractice ▸ isRun)]
    change Follows _ (draft.insertFragments readInside [] (fragments ++ others)) _
    rw [goesOn]
    exact settledLast.insertFragments reads others (.inr doneLast)

/-- A comment is passed over where no first child counts, unless a run of characters comes next. -/
theorem exists_insertAside (settled : Settled reading type extra draft other) (comment : List Char)
    (notAsked : ∃ one ∈ draft.stack.head?, ¬ reading.asksFirst one.tag) :
    ∃ next, other.insertAside (.comment comment) = some next ∧ Alike reading type extra draft next := by
  rcases draft with ⟨type, _ | ⟨one, outer⟩⟩
  · rcases notAsked with ⟨_, ⟨⟩, _⟩
  rcases other with ⟨others, _ | ⟨two, outers⟩⟩
  · cases settled.stack
  rcases notAsked with ⟨_, ⟨⟩, notAsked⟩
  cases settled.stack with
  | cons isOne isOuter =>
      have isNext : OpenElement.Alike reading one (two.push (.comment comment)) := by
        refine ⟨isOne.tag, isOne.scope, ?_⟩
        rw [OpenElement.content_push]
        exact Node.alikeIn_append_comment notAsked isOne.children comment
      exact ⟨_, rfl, { settled.toAlike with stack := .cons isNext isOuter }⟩

/-- Where no first child counts, what follows is read alike behind a comment if no run of characters comes next. -/
theorem follows_past_aside (reads : ReadAlike reading type extra readInside readLonger)
    (settled : Settled reading type extra draft other) {tail comment : List Char} {piece : Piece} (others : List Piece)
    (isInserted : draft.insertText readInside tail = some next)
    (notAsked : ∃ one ∈ next.stack.head?, ¬ reading.asksFirst one.tag) (notRun : piece.isRun = false) :
    Follows (Settled reading type extra) ((piece :: others).foldlM (step readInside) next)
      (((rawPieces tail ++ [Piece.comment comment]).foldlM (step readLonger) other).bind
        ((piece :: others).foldlM (step readLonger))) := by
  rcases settled.insertText reads tail next isInserted with ⟨longer, isLonger, settledNext⟩
  rcases exists_insertAside settledNext comment notAsked with ⟨commented, isCommented, alike⟩
  rw [List.foldlM_append, foldlM_rawPieces, isLonger]
  change Follows _ _ (((longer.insertAside (.comment comment)).bind some).bind _)
  rw [isCommented]
  exact (alike.step reads piece (.inl notRun)).bind fun _ _ settled => settled.run reads others

/-! ### Reading with and without a comment -/

theorem settled_start (reading : Reading) (type : DocumentType) (extra : Nat) :
    Settled reading type extra { type } { type := type.raise extra } where
  isType := rfl
  isTypeToo := rfl
  stack := .nil
  root := .none
  floor := rfl
  identifiers := rfl
  checked := rfl
  expansion := rfl
  innermost := by rintro _ ⟨⟩

/-- A document is read alike with a comment that does not count. The comment may keep a line feed apart from the
carriage return before it. -/
theorem follows_read_commented (extra : Nat) {before after comment feed : List Char} {place whole : Draft}
    (isPlace : Draft.read { type } before = some place)
    (isWhole : Draft.read { type } (before ++ after) = some whole)
    (noPair : ¬ ['-', '-'] <:+: comment ++ ['-']) (isFeed : feed = [] ∨ feed = ['\n'])
    (passesOver : PassesOver reading place.stack (feed ++ after)) :
    ∃ other, Draft.read { type := type.raise extra }
        (before ++ '<' :: '!' :: '-' :: '-' :: (comment ++ '-' :: '-' :: '>' :: (feed ++ after))) = some other ∧
      Settled reading type extra whole other := by
  simp only [Draft.read, Option.bind_eq_bind, Option.bind_eq_some_iff] at isPlace isWhole
  rcases isPlace with ⟨pieces, isBefore, isPlace⟩
  rcases isWhole with ⟨all, isAll, isWhole⟩
  rcases exists_cut isBefore isAll noPair isFeed with ⟨first, tail, others, fuel, rfl, rfl, isLast, isLonger⟩
  have reads := readAlike_readInside reading type extra type.depth
  -- Up to the comment's place both are read in step.
  have isStart : Settled reading type extra { type } { type := type.raise extra } :=
    settled_start reading type extra
  rw [List.foldlM_append, Option.bind_eq_bind, Option.bind_eq_some_iff] at isPlace
  rcases isPlace with ⟨draft, isDraft, isPlace⟩
  rw [foldlM_rawPieces] at isPlace
  rcases isStart.run reads first draft isDraft with ⟨longer, isLongerDraft, settled⟩
  have through {start next : Draft} (isFirst : first.foldlM (step (Draft.readInside type.depth)) start = some next)
      (pieces : List Piece) : (first ++ pieces ++ others).foldlM (step (Draft.readInside type.depth)) start =
        (pieces.foldlM (step (Draft.readInside type.depth)) next).bind
          (others.foldlM (step (Draft.readInside type.depth))) := by
    rw [List.append_assoc, List.foldlM_append, isFirst]
    exact List.foldlM_append
  rw [through isDraft, foldlM_rawPieces] at isWhole
  -- What is left is to read past the comment alike, wherever the reader passes over it.
  suffices isPast : Follows (Settled reading type extra) (some whole)
      (((rawPieces tail ++ .comment comment :: rawPieces (feed ++ after.takeWhile (· ≠ '<'))).foldlM
        (step (Draft.readInside type.depth)) longer).bind (others.foldlM (step (Draft.readInside type.depth)))) by
    rcases isPast whole rfl with ⟨other, isOther, settledWhole⟩
    refine ⟨other, ?_, settledWhole⟩
    rw [← through isLongerDraft, ← List.append_assoc] at isOther
    rw [Draft.read, DocumentType.practice_raise, isLonger]
    exact isOther
  rcases passesOver with ⟨one, isInnermost, done | ⟨notAsked, ⟨rest, isMark⟩, notVerbatim⟩⟩
  · rw [← isWhole]
    exact (follows_past_comment reads settled isPlace ⟨one, isInnermost, done⟩ isFeed).bind
      fun _ _ settled => settled.run reads others
  · rcases isFeed with rfl | rfl
    · obtain rfl : '<' :: rest = after := isMark
      have isLastPiece : piecesFrom type.practice [] fuel ('<' :: rest) = some others := by simpa using isLast
      rcases isRun_of_mark isLastPiece notVerbatim with ⟨piece, last, rfl, notRun⟩
      have isNoRun : ('<' :: rest).takeWhile (· ≠ '<') = [] := by simp
      rw [isNoRun, List.append_nil, isPlace, Option.bind_some] at isWhole
      rw [isNoRun, ← isWhole]
      exact follows_past_aside reads settled last isPlace ⟨one, isInnermost, notAsked⟩ notRun
    · cases isMark

end Draft

/-! ## Documents -/

/-- How long the declared texts in a document may become. -/
def lengthLimit (text : List Char) : Nat := max 1000000 (5 * (Text.unifyLines text).length)

/-- The elements that are open behind a part of a document, the innermost first. -/
def openElements? (isStandalone : Bool) (limit : Nat) (before : List Char) : Option (List OpenElement) := do
  let text := Text.unifyLines before
  let (type, text) ← prologue? { practice := .referring, isStandalone, limit } (text.length + 1) text
  let draft ← Draft.read { type } text
  return draft.stack

/-- A comment as it is written. -/
def commentSource (comment : List Char) : List Char := "<!--".toList ++ comment ++ "-->".toList

/-- A document and the same one with a comment at some place inside an element where it does not count. -/
inductive GainsComment (reading : Reading) (isStandalone : Bool) : List Char → List Char → Prop
  | intro {before after comment : List Char} (isComment : IsCommentText comment)
      (isPlace : ∃ stack ∈ openElements? isStandalone (lengthLimit (before ++ after)) before,
        PassesOver reading stack after) :
      GainsComment reading isStandalone (before ++ after) (before ++ commentSource comment ++ after)

theorem PassesOver.unified {reading : Reading} {stack : List OpenElement} {after : List Char}
    (passesOver : PassesOver reading stack after) : PassesOver reading stack (Text.unifyLines after) := by
  rcases passesOver with ⟨one, isInnermost, done | ⟨notAsked, ⟨rest, rfl⟩, notVerbatim⟩⟩
  · exact ⟨one, isInnermost, .inl done⟩
  · have isMark : "<".toList <+: Text.unifyLines ("<".toList ++ rest) :=
      ⟨Text.unifyLines rest, (Text.unifyLines_cons (by decide) rest).symm⟩
    exact ⟨one, isInnermost, .inr ⟨notAsked, isMark,
      fun isPrefix => notVerbatim (Text.prefix_of_unifyLines (by decide) isPrefix)⟩⟩

/-- The ends of lines in a document, in the part before a place and in the part after it. -/
theorem exists_feed (before after : List Char) :
    ∃ feed rest, (feed = [] ∨ feed = ['\n']) ∧ Text.unifyLines after = feed ++ rest ∧
      Text.unifyLines (before ++ after) = Text.unifyLines before ++ rest := by
  rcases Text.unifyLines_append_cases before after with isUnified | ⟨rest, rfl, isUnified⟩
  · exact ⟨[], _, .inl rfl, rfl, isUnified⟩
  · exact ⟨['\n'], _, .inr rfl, Text.unifyLines_cons (by decide) rest, isUnified⟩

theorem unifyLines_comment (before comment after : List Char) :
    Text.unifyLines (before ++ commentSource comment ++ after) =
      Text.unifyLines before ++ '<' :: '!' :: '-' :: '-' ::
        (Text.unifyLines comment ++ '-' :: '-' :: '>' :: Text.unifyLines after) := by
  have isSource : before ++ commentSource comment ++ after =
      before ++ '<' :: '!' :: '-' :: '-' :: (comment ++ '-' :: '-' :: '>' :: after) := by
    simp [commentSource]
  rw [isSource, Text.unifyLines_append before (by simp)]
  repeat rw [Text.unifyLines_cons (by decide)]
  rw [Text.unifyLines_append comment (by simp)]
  repeat rw [Text.unifyLines_cons (by decide)]

/-- The part of a document before a place inside an element holds more than a mark behind its prologue. -/
theorem two_le_of_read {type : DocumentType} {text : List Char} {draft : Draft}
    (isRead : Draft.read { type } text = some draft) (isInside : draft.stack ≠ []) : 2 ≤ text.length := by
  rcases text with _ | ⟨c, _ | ⟨d, text⟩⟩
  · cases isRead
    exact absurd rfl isInside
  · refine absurd ?_ isInside
    by_cases isOpening : c = '<'
    · subst isOpening
      cases isRead
    · have isPiece : piece? type.practice ([c] ++ []) = if hasVerbatimEnd [c] then none else some (.text [c], []) :=
        piece?_of_run type.practice (List.cons_ne_nil c []) (by simpa [eq_comm] using isOpening) rfl
      rw [List.append_nil] at isPiece
      simp only [Draft.read, Option.bind_eq_bind, Option.bind_eq_some_iff] at isRead
      rcases isRead with ⟨pieces, isCut, isRead⟩
      rw [pieces?, List.length_singleton, piecesFrom, isPiece] at isCut
      split at isCut
      · rename_i piece left isCutPiece
        split at isCutPiece
        · cases isCutPiece
        · cases isCutPiece
          cases isCut
          change (Draft.step _ _ (.text [c])).bind some = some draft at isRead
          rw [Option.bind_fun_some] at isRead
          have isOutside := Draft.isEmpty_of_insertText isRead
          cases isEmpty : draft.stack.isEmpty with
          | true => exact List.isEmpty_iff.mp isEmpty
          | false => cases isOutside isEmpty
      · cases isCut
  · simp

/-- What it takes for a text to be a document. -/
theorem rootOf?_eq_some {isStandalone : Bool} {text : List Char} {root : Node} :
    rootOf? .referring isStandalone text = some root ↔
      text.all isAllowed = true ∧ ∃ type rest draft,
        prologue? { practice := .referring, isStandalone, limit := lengthLimit text }
          ((Text.unifyLines text).length + 1) (Text.unifyLines text) = some (type, rest) ∧
        Draft.read { type } rest = some draft ∧ draft.stack = [] ∧ draft.root = some root := by
  have isUnfolded : rootOf? .referring isStandalone text =
      if !text.all isAllowed then none
      else (prologue? { practice := .referring, isStandalone, limit := lengthLimit text }
          ((Text.unifyLines text).length + 1) (Text.unifyLines text)).bind fun (type, rest) =>
        (Draft.read { type } rest).bind fun draft => if draft.stack.isEmpty then draft.root else none := rfl
  simp [isUnfolded, Option.bind_eq_some_iff]

theorem lengthLimit_commented (before comment after : List Char) :
    ∃ extra, lengthLimit (before ++ commentSource comment ++ after) = lengthLimit (before ++ after) + extra := by
  rcases exists_feed before after with ⟨feed, rest, -, isAfter, isUnified⟩
  apply Nat.exists_eq_add_of_le
  rw [lengthLimit, lengthLimit, isUnified, unifyLines_comment, isAfter]
  simp only [List.length_append, List.length_cons]
  omega

theorem isLegal_commented {before comment after : List Char} (isLegal : (before ++ after).all isAllowed = true)
    (isComment : IsLegal comment) : (before ++ commentSource comment ++ after).all isAllowed = true := by
  have isSource : (commentSource comment).all isAllowed = true := by
    rw [commentSource, List.all_append, List.all_append, List.all_eq_true.mpr isComment]
    decide
  rw [List.all_append, Bool.and_eq_true] at isLegal
  rw [List.all_append, List.all_append, isLegal.1, isSource, isLegal.2]
  rfl

theorem IsCommentText.unified {comment : List Char} (isComment : IsCommentText comment) :
    ¬ ['-', '-'] <:+: Text.unifyLines comment ++ ['-'] := by
  intro isPair
  have isUnified : Text.unifyLines (comment ++ ['-']) = Text.unifyLines comment ++ ['-'] :=
    Text.unifyLines_append comment (by decide)
  rw [← isUnified] at isPair
  exact isComment.2 (Text.infix_of_unifyLines (by decide) isPair)

theorem PassesOver.ne_nil {reading : Reading} {stack : List OpenElement} {after : List Char}
    (passesOver : PassesOver reading stack after) : stack ≠ [] := by
  rintro rfl
  rcases passesOver with ⟨_, ⟨⟩, -⟩

/-- What stands before the pieces of a part of a document stands before those of the whole. -/
theorem prologue?_of_unified {start type : DocumentType} {before inner text more : List Char}
    (isPrologue : prologue? start ((Text.unifyLines before).length + 1) (Text.unifyLines before) = some (type, inner))
    (isLong : 2 ≤ inner.length) (isUnified : Text.unifyLines text = Text.unifyLines before ++ more) (extra : Nat) :
    prologue? (start.raise extra) ((Text.unifyLines text).length + 1) (Text.unifyLines text) =
      some (type.raise extra, inner ++ more) := by
  have isFuel : (Text.unifyLines text).length + 1 = (Text.unifyLines before).length + 1 + more.length := by
    rw [isUnified, List.length_append, Nat.add_right_comm]
  rw [isFuel, isUnified]
  exact prologue?_longer extra isPrologue isLong more.length more

theorem Draft.Alike.exists_root {reading : Reading} {type : DocumentType} {extra : Nat} {draft other : Draft}
    {root : Node} (alike : Draft.Alike reading type extra draft other) (isClosed : draft.stack = [])
    (isRoot : draft.root = some root) :
    ∃ twin, other.stack = [] ∧ other.root = some twin ∧ Node.Alike reading root twin := by
  have sameStack := alike.stack
  have sameRoot := alike.root
  rw [isClosed] at sameStack
  rw [isRoot] at sameRoot
  generalize other.root = otherRoot at sameRoot
  cases sameRoot with
  | some isAlike => exact ⟨_, List.forall₂_nil_left_iff.mp sameStack, rfl, isAlike⟩

/-- A document is read alike with a comment where it does not count. -/
theorem exists_root_commented {reading : Reading} {isStandalone : Bool} {text other : List Char} {root : Node}
    (gains : GainsComment reading isStandalone text other) (isRoot : rootOf? .referring isStandalone text = some root) :
    ∃ commented, rootOf? .referring isStandalone other = some commented ∧ Node.Alike reading root commented := by
  rcases gains with @⟨before, after, comment, isComment, stack, isPlace, passesOver⟩
  rcases exists_feed before after with ⟨feed, rest, isFeed, isAfter, isUnified⟩
  rcases lengthLimit_commented before comment after with ⟨extra, isLimit⟩
  -- the place is behind the prologue
  simp only [openElements?, Option.mem_def, Option.bind_eq_bind, Option.bind_eq_some_iff, Prod.exists] at isPlace
  rcases isPlace with ⟨type, inner, isPrologue, place, isRead, isPlace⟩
  cases isPlace
  have isLong := two_le_of_read isRead passesOver.ne_nil
  -- the document without the comment
  rw [rootOf?_eq_some] at isRoot
  rcases isRoot with ⟨isLegal, whole, left, draft, isWholePrologue, isWhole, isClosed, isRoot⟩
  cases (prologue?_of_unified isPrologue isLong isUnified 0).symm.trans isWholePrologue
  -- the document with it
  rcases Draft.follows_read_commented extra isRead isWhole isComment.unified isFeed
    (isAfter ▸ passesOver.unified) with ⟨commented, isCommented, settled⟩
  rcases settled.exists_root isClosed isRoot with ⟨twin, isClosedToo, isTwin, isAlike⟩
  have isSource := unifyLines_comment before comment after
  rw [isAfter] at isSource
  have isPrologueToo := prologue?_of_unified isPrologue isLong isSource extra
  refine ⟨twin, rootOf?_eq_some.mpr ?_, isAlike⟩
  rw [isLimit]
  exact ⟨isLegal_commented isLegal isComment.1, _, _, commented, isPrologueToo, isCommented, isClosedToo, isTwin⟩

/-! ## Sources -/

/-- The text of a document behind its declaration, and whether it stands alone. -/
def documentOfText? (text : List Char) : Option (Bool × List Char) :=
  match declarationText? text with
  | none => some (false, text)
  | some (declaration, rest) => (headingOf? .referring declaration).map fun heading => (heading.isStandalone, rest)

/-- The text of the document that some bytes hold, behind its declaration, and whether it stands alone. -/
def documentOf? (bytes : List UInt8) : Option (Bool × List Char) :=
  match Text.Encoding.ofBeginning? bytes with
  | some (encoding, count) => (encoding.decode? (bytes.drop count)).bind documentOfText?
  | none =>
    match declarationText? ((bytes.take 1024).map fun byte => Char.ofNat byte.toNat) with
    | none => (Text.Utf8.decode? bytes).bind documentOfText?
    | some (declaration, _) => do
      let heading ← headingOf? .referring declaration
      let encoding ← Text.Encoding.ofName? (heading.encoding.getD "utf-8")
      let text ← encoding.decode? (bytes.drop (declaration.length + 7))
      return (heading.isStandalone, text)

theorem rootOfText?_eq (text : List Char) :
    rootOfText? .referring text = (documentOfText? text).bind fun (isStandalone, text) =>
      rootOf? .referring isStandalone text := by
  rw [rootOfText?, documentOfText?]
  rcases declarationText? text with _ | ⟨declaration, rest⟩
  · rfl
  · simp only [Option.bind_map]
    rfl

/-- The root of some bytes is that of the document they hold. -/
theorem rootOfBytes?_eq (bytes : List UInt8) :
    rootOfBytes? .referring bytes = (documentOf? bytes).bind fun (isStandalone, text) =>
      rootOf? .referring isStandalone text := by
  have isText : rootOfText? .referring = fun text => (documentOfText? text).bind fun (isStandalone, text) =>
      rootOf? .referring isStandalone text := funext rootOfText?_eq
  rw [rootOfBytes?, documentOf?, isText]
  rcases Text.Encoding.ofBeginning? bytes with _ | ⟨encoding, count⟩
  · dsimp only
    generalize declarationText? _ = start
    rcases start with _ | ⟨declaration, rest⟩
    · exact (Option.bind_assoc _ _ _).symm
    · simp [Option.bind_assoc]
  · exact (Option.bind_assoc _ _ _).symm

end Sparql.Xml
