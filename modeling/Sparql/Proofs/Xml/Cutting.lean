import Sparql.Proofs.Xml.Escape

/-!
# Cutting tags and texts

A tag is cut into one piece wherever it stands, and so is a text that stands before one. What is cut one after the
other is cut as a whole.
-/

namespace Sparql.Xml

/-! ## Cutting -/

/-- A text that is cut into some pieces, whatever stands around it. -/
structure Cuts (text : List Char) (pieces : List Piece) : Prop where
  enough : pieces.length ≤ text.length
  cut : ∀ read fuel rest, piecesFrom .referring read (fuel + pieces.length) (text ++ rest) =
    piecesFrom .referring (pieces.reverse ++ read) fuel rest

theorem cuts_nil : Cuts [] [] := ⟨Nat.le_refl _, fun _ _ _ => rfl⟩

theorem Cuts.append {first second : List Char} {pieces others : List Piece} (cuts : Cuts first pieces)
    (cutsToo : Cuts second others) : Cuts (first ++ second) (pieces ++ others) where
  enough := by
    rw [List.length_append, List.length_append]
    exact Nat.add_le_add cuts.enough cutsToo.enough
  cut read fuel rest := by
    have isFuel : fuel + (pieces ++ others).length = fuel + others.length + pieces.length := by
      rw [List.length_append]
      omega
    rw [isFuel, List.append_assoc, cuts.cut, cutsToo.cut, List.reverse_append, List.append_assoc]

theorem Cuts.pieces?_eq {text : List Char} {pieces : List Piece} (cuts : Cuts text pieces) :
    pieces? .referring text = some pieces := by
  have cut := cuts.cut [] (text.length - pieces.length) []
  rw [Nat.sub_add_cancel cuts.enough, List.append_nil, List.append_nil] at cut
  rw [pieces?, cut]
  simp [piecesFrom]

/-- One piece that a text begins with, whatever follows. -/
theorem cuts_piece {text : List Char} {piece : Piece} (isText : text ≠ [])
    (isPiece : ∀ rest, piece? .referring (text ++ rest) = some (piece, rest)) : Cuts text [piece] where
  enough := List.length_pos_iff.mpr isText
  cut read fuel rest := by
    rcases text with _ | ⟨c, text⟩
    · exact absurd rfl isText
    · have first := isPiece rest
      rw [List.cons_append] at first
      simp [piecesFrom, first]

/-! ### Tags -/

theorem isNameCharacter_eq_false {c : Char} (isEnd : c ∈ [' ', '=', '>']) :
    Practice.referring.isNameCharacter c = false := by
  simp only [List.mem_cons, List.not_mem_nil, or_false] at isEnd
  rcases isEnd with rfl | rfl | rfl <;> decide

/-- A name is read up to a mark behind it. -/
theorem name?_append {name rest : List Char} {c : Char} (isName : Practice.referring.isName name = true)
    (isEnd : c ∈ [' ', '=', '>']) : name? .referring (name ++ c :: rest) = some (name, c :: rest) := by
  rcases name with _ | ⟨first, name⟩
  · cases isName
  · rw [Practice.isName, Bool.and_eq_true, List.all_eq_true] at isName
    simp [name?, isName.1, List.takeWhile_append_of_pos isName.2, List.dropWhile_append_of_pos isName.2,
      isNameCharacter_eq_false isEnd]

/-- No mark of a tag begins a name. -/
theorem isNameStart_eq_false {c : Char} (isMark : c ∈ ['/', '?', '!', '>', ' ', '\t', '\n', '\r']) :
    Practice.referring.isNameStart c = false := by
  simp only [List.mem_cons, List.not_mem_nil, or_false] at isMark
  rcases isMark with rfl | rfl | rfl | rfl | rfl | rfl | rfl | rfl <;> decide

theorem exists_start {name : List Char} (isName : Practice.referring.isName name = true) :
    ∃ c rest, name = c :: rest ∧ c ∉ ['/', '?', '!', '>', ' ', '\t', '\n', '\r'] := by
  rcases name with _ | ⟨c, rest⟩
  · cases isName
  · rw [Practice.isName, Bool.and_eq_true] at isName
    refine ⟨c, rest, rfl, fun isMark => ?_⟩
    rw [isNameStart_eq_false isMark] at isName
    cases isName.1

/-- An attribute as it stands in a tag. -/
def Attribute.raw (given : Attribute) : List Char × List Char :=
  (given.written, given.value.toList.flatMap escapeValue)

/-- An attribute behind a blank. -/
def Attribute.source (given : Attribute) : List Char :=
  ' ' :: given.written ++ '=' :: '"' :: given.value.toList.flatMap escapeValue ++ ['"']

theorem quoted?_plain {value : List Char} (isPlain : IsPlain value) (rest : List Char) :
    quoted? ('"' :: (value ++ '"' :: rest)) = some (value, rest) := by
  have noQuote : ∀ c ∈ value, (!decide (c = '"')) = true := by
    intro c mem
    have differs : c ≠ '"' := fun isQuote => isPlain '"' (by decide) (isQuote ▸ mem)
    simpa using differs
  simp [quoted?, List.takeWhile_append_of_pos noQuote, List.dropWhile_append_of_pos noQuote]

theorem attribute?_source {given : Attribute} (isName : Practice.referring.isName given.written = true)
    (rest : List Char) :
    attribute? .referring (given.written ++ '=' :: '"' :: (given.value.toList.flatMap escapeValue ++ '"' :: rest)) =
      some (given.raw, rest) := by
  have isPlain := isPlain_flatMap isPlain_escapeValue given.value.toList
  have noOpening : '<' ∉ given.value.toList.flatMap escapeValue := isPlain '<' (by decide)
  simp [attribute?, name?_append isName, skipSpace, isSpace, quoted?_plain isPlain, noOpening,
    Attribute.raw]

theorem attributesFrom_end (read : List (List Char × List Char)) (fuel : Nat) (rest : List Char) :
    attributesFrom .referring read (fuel + 1) ('>' :: rest) = some (read.reverse, false, rest) := by
  simp [attributesFrom, skipSpace, isSpace]

theorem attributesFrom_source {given : Attribute} (isName : Practice.referring.isName given.written = true)
    (read : List (List Char × List Char)) (fuel : Nat) (rest : List Char) :
    attributesFrom .referring read (fuel + 1) (given.source ++ rest) =
      attributesFrom .referring (given.raw :: read) fuel rest := by
  rcases exists_start isName with ⟨c, name, isWritten, noMark⟩
  have first := attribute?_source isName rest
  simp only [isWritten, List.cons_append] at first
  simp only [List.mem_cons, List.not_mem_nil, or_false, not_or] at noMark
  have isSource : skipSpace (given.source ++ rest) =
      c :: (name ++ '=' :: '"' :: (given.value.toList.flatMap escapeValue ++ '"' :: rest)) := by
    simp [Attribute.source, isWritten, skipSpace, isSpace, noMark]
  have isLonger : (given.source ++ rest).length =
      (c :: (name ++ '=' :: '"' :: (given.value.toList.flatMap escapeValue ++ '"' :: rest))).length + 1 := by
    simp [Attribute.source, isWritten]
  rw [attributesFrom, isSource]
  split
  · rename_i isEnd
    simp [noMark] at isEnd
  · rename_i isEnd
    simp [noMark] at isEnd
  · rw [isLonger, if_neg (by omega), first]

/-- An opening tag is one piece. -/
theorem cuts_openTag {name : List Char} {given : Option Attribute}
    (isName : Practice.referring.isName name = true)
    (isNamed : ∀ one ∈ given, Practice.referring.isName one.written = true) :
    Cuts ('<' :: name ++ given.toList.flatMap Attribute.source ++ ['>'])
      [.openTag name (given.toList.map Attribute.raw) false] := by
  refine cuts_piece (by simp) fun rest => ?_
  rcases exists_start isName with ⟨c, inner, isWritten, noMark⟩
  have isTag : ∀ others, piece? .referring ('<' :: (name ++ others)) =
      openTag? .referring (name ++ others) := by
    intro others
    simp only [List.mem_cons, List.not_mem_nil, or_false, not_or] at noMark
    simp [isWritten, piece?, noMark]
  cases given with
  | none =>
      simp [isTag, openTag?, name?_append isName, attributesFrom_end]
  | some one =>
      have isRead : name? .referring (name ++ (one.source ++ '>' :: rest)) = some (name, one.source ++ '>' :: rest) :=
        name?_append isName (by decide)
      have isFuel : ∃ fuel, (one.source ++ '>' :: rest).length = fuel + 1 :=
        Nat.exists_eq_add_one_of_ne_zero (by simp)
      rcases isFuel with ⟨fuel, isFuel⟩
      simp [isTag, openTag?, isRead, isFuel, attributesFrom_source (isNamed one rfl),
        attributesFrom_end, -List.length_append]

/-- A closing tag is one piece. -/
theorem cuts_closeTag {name : List Char} (isName : Practice.referring.isName name = true) :
    Cuts ('<' :: '/' :: name ++ ['>']) [.closeTag name] := by
  refine cuts_piece (by simp) fun rest => ?_
  simp [piece?, closeTag?, name?_append isName, skipSpace, isSpace]

/-! ### Runs of characters -/

/-- The piece of a run of characters, if there are any. -/
def runPieces (text : List Char) : List Piece := if text.isEmpty then [] else [.text (text.flatMap escapeText)]

theorem after?_eq_none {beginning text : List Char} {c : Char} (isIn : c ∈ beginning) (notIn : c ∉ text) :
    after? beginning text = none := by
  induction beginning generalizing text with
  | nil => cases isIn
  | cons first beginning ih =>
      rcases text with _ | ⟨d, text⟩
      · rfl
      · rw [List.mem_cons, not_or] at notIn
        rcases List.mem_cons.mp isIn with rfl | isIn
        · rw [after?, if_neg notIn.1]
        · rw [after?, ih isIn notIn.2, ite_self]

theorem splitFrom_eq_none {mark text : List Char} {c : Char} (isIn : c ∈ mark) (notIn : c ∉ text)
    (before : List Char) : splitFrom mark before text = none := by
  induction text generalizing before with
  | nil => rfl
  | cons d text ih =>
      rw [splitFrom, after?_eq_none isIn notIn]
      exact ih (fun mem => notIn (.tail _ mem)) _

theorem piece?_run {raw rest : List Char} (isPlain : IsPlain raw) (isText : raw ≠ []) :
    piece? .referring (raw ++ '<' :: rest) = some (.text raw, '<' :: rest) := by
  have notOpening : ∀ c ∈ raw, (!decide (c = '<')) = true := by
    intro c mem
    have differs : c ≠ '<' := fun isOpening => isPlain '<' (by decide) (isOpening ▸ mem)
    simpa using differs
  have noEnd : hasVerbatimEnd raw = false := by
    have noSplit : splitAt? "]]>" raw = none := splitFrom_eq_none (by decide) (isPlain '>' (by decide)) []
    rw [hasVerbatimEnd, noSplit]
    rfl
  rcases raw with _ | ⟨c, raw⟩
  · exact absurd rfl isText
  · have differs : c ≠ '<' := by simpa using notOpening c (.head _)
    have isRun : (c :: raw ++ '<' :: rest).takeWhile (· ≠ '<') = c :: raw ∧
        (c :: raw ++ '<' :: rest).dropWhile (· ≠ '<') = '<' :: rest := by
      simp [differs, List.takeWhile_append_of_pos fun d mem => notOpening d (.tail _ mem),
        List.dropWhile_append_of_pos fun d mem => notOpening d (.tail _ mem)]
    have isLast : piece? .referring (c :: raw ++ '<' :: rest) =
        if hasVerbatimEnd ((c :: raw ++ '<' :: rest).takeWhile (· ≠ '<')) then none
        else some (.text ((c :: raw ++ '<' :: rest).takeWhile (· ≠ '<')),
          (c :: raw ++ '<' :: rest).dropWhile (· ≠ '<')) := by
      rw [List.cons_append, piece?]
      all_goals simp [differs]
    rw [isLast, isRun.1, isRun.2, noEnd, if_neg Bool.false_ne_true]

theorem escapeText_ne_nil (c : Char) : escapeText c ≠ [] := by
  unfold escapeText escapeChar
  repeat' split
  all_goals simp

/-- A run of characters is cut where a tag begins. -/
theorem Cuts.afterRun {tail : List Char} {pieces : List Piece} (cuts : Cuts ('<' :: tail) pieces)
    (text : List Char) : Cuts (text.flatMap escapeText ++ '<' :: tail) (runPieces text ++ pieces) := by
  rcases text with _ | ⟨c, text⟩
  · exact cuts
  · have isText : (c :: text).flatMap escapeText ≠ [] := by simp [escapeText_ne_nil]
    have isRun : runPieces (c :: text) = [.text ((c :: text).flatMap escapeText)] := rfl
    have isPlain := isPlain_flatMap isPlain_escapeText (c :: text)
    rw [isRun]
    generalize (c :: text).flatMap escapeText = raw at isText isPlain
    refine ⟨?_, fun read fuel rest => ?_⟩
    · have isPositive := List.length_pos_iff.mpr isText
      have enough := cuts.enough
      rw [List.length_append, List.length_append, List.length_singleton]
      omega
    · have first : piece? .referring (raw ++ '<' :: (tail ++ rest)) = some (.text raw, '<' :: (tail ++ rest)) :=
        piece?_run isPlain isText
      have others := cuts.cut (.text raw :: read) fuel rest
      have isFuel : fuel + ([Piece.text raw] ++ pieces).length = fuel + pieces.length + 1 := by simp; omega
      rcases raw with _ | ⟨c, raw⟩
      · exact absurd rfl isText
      · rw [isFuel]
        simp only [List.cons_append, List.append_assoc, List.nil_append, List.reverse_cons] at first others ⊢
        rw [piecesFrom, first]
        exact others

end Sparql.Xml
