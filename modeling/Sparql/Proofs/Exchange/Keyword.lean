import Sparql.Proofs.Exchange.Prologue
import Sparql.Proofs.Text.Lines

/-!
# Keywords behind a prologue

A prologue is skipped whatever stands behind it, so that the kind of a text is decided by the word that follows.
This word goes on to the next blank: a keyword is known where it ends with the text or before a blank, and it is not
known where any other character follows it.
-/

namespace Sparql

open Sparql.Text

/-- A word that is given in capitals, in any letter case. -/
def IsCasing (word spelling : List Char) : Prop :=
  List.Forall₂ (fun capital c => c = capital ∨ c = capital.toLower) word spelling

namespace Prologue

/-! ## Prologues -/

/-- An item of a prologue: a blank, a comment with the end of its line, or a declaration. -/
inductive IsItem : List Char → Prop where
  | blank {c : Char} (isBlank : isBlank c = true) : IsItem [c]
  | comment {body : List Char} (isLine : '\n' ∉ body) : IsItem ('#' :: body ++ ['\n'])
  | declaration {word gap name space iri : List Char} (isWord : IsCasing "PREFIX".toList word)
      (isGap : gap ≠ [] ∧ ∀ c ∈ gap, isBlank c = true) (isName : ∀ c ∈ name, isBlank c = false ∧ c ≠ ':')
      (isSpace : ∀ c ∈ space, isBlank c = true) (isIri : '>' ∉ iri) :
      IsItem (word ++ gap ++ name ++ ':' :: space ++ '<' :: iri ++ ['>'])
  | base {word space iri : List Char} (isWord : IsCasing "BASE".toList word)
      (isSpace : ∀ c ∈ space, isBlank c = true) (isIri : '>' ∉ iri) :
      IsItem (word ++ space ++ '<' :: iri ++ ['>'])

/-- A text that is made of items. -/
def IsPrologue (text : List Char) : Prop :=
  ∃ items : List (List Char), (∀ item ∈ items, IsItem item) ∧ text = items.flatten

variable {word spelling start space iri name body text rest : List Char}

theorem folds_of_casing {capital c : Char} (isCased : c = capital ∨ c = capital.toLower) :
    folds capital c = true := by
  rcases isCased with rfl | rfl <;> simp [folds]

/-- A word is recognized in any case. -/
theorem afterWord?_casing (isCasing : IsCasing word spelling) (rest : List Char) :
    afterWord? word (spelling ++ rest) = some rest := by
  induction isCasing with
  | nil => rfl
  | cons isCased _ ih => rw [List.cons_append, afterWord?, if_pos (folds_of_casing isCased), ih]

theorem afterIri?_iri (isIri : '>' ∉ iri) (rest : List Char) :
    afterIri? ('<' :: (iri ++ '>' :: rest)) = some rest := by
  have afterIri : (iri ++ '>' :: rest).dropWhile (· ≠ '>') = '>' :: rest := by
    rw [List.dropWhile_append_of_pos (by grind), List.dropWhile_cons_of_neg (by decide)]
  simp only [afterIri?, afterIri]

theorem skip_comment (isLine : '\n' ∉ body) (text : List Char) :
    skip ('#' :: body ++ ['\n'] ++ text) = skip text := by
  have afterLine : afterComment (body ++ '\n' :: text) = text := by
    rw [afterComment, List.dropWhile_append_of_pos (by grind), List.dropWhile_cons_of_neg (by decide)]
    rfl
  have isItem : afterItem? ('#' :: (body ++ '\n' :: text)) = some text := by
    rw [afterItem?, if_neg (by decide), if_pos rfl, afterLine]
  simpa using skip_of_some isItem

/-- The declaration of a prefix is skipped. -/
theorem skip_prefix {gap : List Char} (isWord : IsCasing "PREFIX".toList word)
    (isGap : gap ≠ [] ∧ ∀ c ∈ gap, isBlank c = true) (isName : ∀ c ∈ name, isBlank c = false ∧ c ≠ ':')
    (isSpace : ∀ c ∈ space, isBlank c = true) (isIri : '>' ∉ iri) (text : List Char) :
    skip (word ++ gap ++ name ++ ':' :: space ++ '<' :: iri ++ ['>'] ++ text) = skip text := by
  have atName : trimLeft (gap ++ (name ++ ':' :: (space ++ '<' :: (iri ++ '>' :: text)))) =
      name ++ ':' :: (space ++ '<' :: (iri ++ '>' :: text)) := by
    rw [trimLeft_append isGap.2]
    cases name with
    | nil => exact trimLeft_of_notBlank (by decide) _
    | cons c name => exact trimLeft_of_notBlank (isName c (.head _)).1 _
  have atColon : (name ++ ':' :: (space ++ '<' :: (iri ++ '>' :: text))).dropWhile isNameCharacter =
      ':' :: (space ++ '<' :: (iri ++ '>' :: text)) := by
    rw [List.dropWhile_append_of_pos (by simpa [isNameCharacter] using isName),
      List.dropWhile_cons_of_neg (by decide)]
  have atIri : trimLeft (space ++ '<' :: (iri ++ '>' :: text)) = '<' :: (iri ++ '>' :: text) := by
    rw [trimLeft_append isSpace, trimLeft_of_notBlank (by decide)]
  have isLonger : (gap ++ (name ++ ':' :: (space ++ '<' :: (iri ++ '>' :: text)))).length ≠
      (name ++ ':' :: (space ++ '<' :: (iri ++ '>' :: text))).length := by
    have := List.length_pos_iff.mpr isGap.1
    rw [List.length_append]
    omega
  have isDeclared : afterPrefix? (word ++ (gap ++ (name ++ ':' :: (space ++ '<' :: (iri ++ '>' :: text))))) =
      some text := by
    have afterWord := afterWord?_casing isWord (gap ++ (name ++ ':' :: (space ++ '<' :: (iri ++ '>' :: text))))
    rw [afterPrefix?, show ['P', 'R', 'E', 'F', 'I', 'X'] = "PREFIX".toList from rfl, afterWord]
    simp only [Option.bind_eq_bind, Option.bind_some, atName, if_neg isLonger, atColon, atIri,
      afterIri?_iri isIri]
  have isItem : afterItem? (word ++ (gap ++ (name ++ ':' :: (space ++ '<' :: (iri ++ '>' :: text))))) =
      some text := by
    rcases List.forall₂_cons_left_iff.mp isWord with ⟨c, others, isFirst, _, rfl⟩
    rw [List.cons_append] at isDeclared ⊢
    have isOrdinary : isBlank c = false ∧ c ≠ '#' := by rcases isFirst with rfl | rfl <;> decide
    simp [afterItem?, isOrdinary, isDeclared]
  simpa using skip_of_some isItem

/-- The declaration of the base is skipped. -/
theorem skip_base (isWord : IsCasing "BASE".toList word) (isSpace : ∀ c ∈ space, isBlank c = true)
    (isIri : '>' ∉ iri) (text : List Char) :
    skip (word ++ space ++ '<' :: iri ++ ['>'] ++ text) = skip text := by
  have atIri : trimLeft (space ++ '<' :: (iri ++ '>' :: text)) = '<' :: (iri ++ '>' :: text) := by
    rw [trimLeft_append isSpace, trimLeft_of_notBlank (by decide)]
  have isDeclared : afterBase? (word ++ (space ++ '<' :: (iri ++ '>' :: text))) = some text := by
    have afterWord := afterWord?_casing isWord (space ++ '<' :: (iri ++ '>' :: text))
    rw [afterBase?, show ['B', 'A', 'S', 'E'] = "BASE".toList from rfl, afterWord]
    simp only [Option.bind_eq_bind, Option.bind_some, atIri, afterIri?_iri isIri]
  have isItem : afterItem? (word ++ (space ++ '<' :: (iri ++ '>' :: text))) = some text := by
    rcases List.forall₂_cons_left_iff.mp isWord with ⟨c, others, isFirst, _, rfl⟩
    rw [List.cons_append] at isDeclared ⊢
    have isOrdinary : isBlank c = false ∧ c ≠ '#' ∧ folds 'P' c = false := by
      rcases isFirst with rfl | rfl <;> decide
    simp [afterItem?, isOrdinary, afterPrefix?, afterWord?, isDeclared]
  simpa using skip_of_some isItem

theorem skip_item {item : List Char} (isItem : IsItem item) (text : List Char) : skip (item ++ text) = skip text := by
  cases isItem with
  | @blank c isBlank =>
      rw [← skip_trimLeft ([c] ++ text), trimLeft_append (by simpa using isBlank), skip_trimLeft]
  | comment isLine => exact skip_comment isLine text
  | declaration isWord isGap isName isSpace isIri => exact skip_prefix isWord isGap isName isSpace isIri text
  | base isWord isSpace isIri => exact skip_base isWord isSpace isIri text

/-- A prologue is skipped, whatever stands behind it. -/
theorem skip_append (isPrologue : IsPrologue start) (text : List Char) : skip (start ++ text) = skip text := by
  rcases isPrologue with ⟨items, areItems, rfl⟩
  induction items with
  | nil => rfl
  | cons item items ih =>
      rw [List.flatten_cons, List.append_assoc, skip_item (areItems item (.head _))]
      exact ih fun other isIn => areItems other (.tail _ isIn)

end Prologue

/-! ## Texts behind a prologue -/

/-- A prologue says nothing about the kind of the text behind it: the text has a kind with the prologue exactly if it
has that kind without, and is refused for its first word otherwise. -/
theorem TextKind.detect_append {start : List Char} (isPrologue : Prologue.IsPrologue start) (text : List Char) :
    let whole := String.ofList (start ++ text)
    let alone := String.ofList text
    (∀ kind, detect whole = .ok kind ↔ detect alone = .ok kind) ∧
      ((∀ kind, detect alone ≠ .ok kind) → detect whole = refuse (.unknownKeyword whole)) := by
  intro whole alone
  have sameWord : firstWord (Prologue.skip whole.toList) = firstWord (Prologue.skip alone.toList) := by
    rw [String.toList_ofList, String.toList_ofList, Prologue.skip_append isPrologue]
  unfold detect
  rw [sameWord]
  cases ofWord? (firstWord (Prologue.skip alone.toList)) with
  | none => exact ⟨fun kind => by simp, fun _ => rfl⟩
  | some known => exact ⟨fun kind => Iff.rfl, fun unknown => absurd rfl (unknown known)⟩

/-- A comment that looks like a declaration, blanks in a row, and an address with a hash sign, the end of a line and a
keyword in it. -/
theorem TextKind.detect_behind_misleadingPrologue :
    let start := "#PREFIX a: <b>\n \tprefix :<http://h/#\nselect>BASE<x>".toList
    let text := "insert data \x7b \x7d".toList
    Prologue.IsPrologue start ∧ detect (String.ofList text) = .ok .update ∧
      detect (String.ofList (start ++ text)) = .ok .update := by
  intro start text
  have isPrologue : Prologue.IsPrologue start := by
    refine ⟨["#PREFIX a: <b>\n".toList, [' '], ['\t'], "prefix :<http://h/#\nselect>".toList, "BASE<x>".toList], ?_,
      rfl⟩
    simp only [List.forall_mem_cons]
    have isPrefix : Prologue.IsItem
        ("prefix".toList ++ [' '] ++ [] ++ ':' :: [] ++ '<' :: "http://h/#\nselect".toList ++ ['>']) := by
      refine .declaration ?_ ⟨by decide, List.forall_mem_singleton.mpr rfl⟩ (List.forall_mem_nil _)
        (List.forall_mem_nil _) (by decide)
      unfold IsCasing
      decide
    have isBase : Prologue.IsItem ("BASE".toList ++ [] ++ '<' :: "x".toList ++ ['>']) := by
      refine .base ?_ (List.forall_mem_nil _) (by decide)
      unfold IsCasing
      decide
    have isComment : Prologue.IsItem ('#' :: "PREFIX a: <b>".toList ++ ['\n']) := .comment (by decide)
    exact ⟨isComment, .blank (by decide), .blank (by decide), isPrefix, isBase, List.forall_mem_nil _⟩
  have isUpdate : detect (String.ofList text) = .ok .update := by
    have opening : isOpening "insert".toList = true := by decide
    have isWord : firstWord (Prologue.skip text) = "insert".toList := by
      rw [show text = "insert".toList ++ " data \x7b \x7d".toList from rfl, Prologue.skip_of_isOpening opening,
        firstWord_of_isOpening opening]
      decide
    have isKind : ofWord? "insert".toList = some .update := by decide
    rw [detect, String.toList_ofList, isWord, isKind]
  exact ⟨isPrologue, isUpdate, ((detect_append isPrologue text).1 .update).mpr isUpdate⟩

/-! ## Keywords -/

/-- The words that queries and updates begin with. -/
def openings : List (String × TextKind) := [
  ("ASK", .query .ask), ("SELECT", .query .select), ("CONSTRUCT", .query .construct),
  ("DESCRIBE", .query .describe), ("INSERT", .update), ("DELETE", .update), ("CLEAR", .update), ("LOAD", .update),
  ("CREATE", .update), ("DROP", .update), ("WITH", .update), ("COPY", .update), ("MOVE", .update), ("ADD", .update)]

/-- The words in lower case. -/
def openingNames : List (List Char) := openings.map fun (word, _) => word.toList.map Char.toLower

variable {word : String} {kind : TextKind} {spelling start rest : List Char}

/-- A letter of ASCII that has a lower case of its own, which is one of ASCII too. -/
def IsPlainLetter (c : Char) : Prop := c.toNat < 128 ∧ c.toLower.toNat < 128 ∧ c.toLower.toLower = c.toLower

instance (c : Char) : Decidable (IsPlainLetter c) := inferInstanceAs (Decidable (_ ∧ _ ∧ _))

/-- Such a word becomes the same in lower case, however it is spelled and whatever follows. -/
theorem lowerFrom_casing {word : List Char} (arePlain : ∀ c ∈ word, IsPlainLetter c) (isCasing : IsCasing word spelling)
    (before rest : List Char) :
    ∃ behind, lowerFrom before (spelling ++ rest) = word.map Char.toLower ++ lowerFrom behind rest := by
  induction isCasing generalizing before with
  | nil => exact ⟨before, rfl⟩
  | @cons capital c word spelling isCased _ ih =>
      rcases List.forall_mem_cons.mp arePlain with ⟨⟨isAscii, isAsciiLow, isSettled⟩, arePlain⟩
      have isLow : c.toNat < 128 ∧ c.toLower = capital.toLower := by
        rcases isCased with rfl | rfl
        · exact ⟨isAscii, rfl⟩
        · exact ⟨isAsciiLow, isSettled⟩
      have notSigma : (c.toNat == 0x3A3) = false := by
        rw [beq_eq_false_iff_ne]
        omega
      rcases ih arePlain (c :: before) with ⟨behind, isLowered⟩
      refine ⟨behind, ?_⟩
      rw [List.cons_append, lowerFrom, isLowered, notSigma]
      simp [lowerChar, isLow]

theorem arePlain_of_opening : ∀ opening ∈ openings, ∀ c ∈ opening.1.toList, IsPlainLetter c := by
  have areAll : openings.all (fun opening => opening.1.toList.all fun c => decide (IsPlainLetter c)) = true := by decide
  simpa only [List.all_eq_true, decide_eq_true_eq] using areAll

theorem lowerFrom_ne_nil (before : List Char) (c : Char) (rest : List Char) : lowerFrom before (c :: rest) ≠ [] := by
  have isSome : lowerChar c ≠ [] := by
    unfold lowerChar
    split
    · simp
    · split <;> simp
  rw [lowerFrom]
  simp only [ne_eq, List.append_eq_nil_iff, not_and_or]
  refine .inl ?_
  repeat' split
  all_goals first | exact isSome | simp

/-! ## Kinds of words -/

/-- Only the words of the list are known, in any letter case. -/
theorem TextKind.toLower_mem_of_ofWord? {text : List Char} (isKnown : ofWord? text = some kind) :
    toLower text ∈ openingNames := by
  have ofForm : ∀ name form, Form.ofName? name = some form → name.toList ∈ openingNames := by
    intro name form isForm
    unfold Form.ofName? at isForm
    split at isForm
    all_goals first | decide | cases isForm
  have ofUpdate : ∀ name ∈ updateKeywords, name.toList ∈ openingNames := by decide
  rw [← String.toList_ofList (l := toLower text)]
  unfold ofWord? at isKnown
  simp only at isKnown
  split at isKnown
  · rename_i form isForm
    exact ofForm _ form isForm
  · split at isKnown
    · rename_i isUpdate
      exact ofUpdate _ isUpdate
    · cases isKnown

theorem TextKind.ofWord?_eq (text : List Char) :
    ofWord? text = ((Form.ofName? (String.ofList (toLower text))).map query).or
      (if String.ofList (toLower text) ∈ updateKeywords then some update else none) := by
  unfold ofWord?
  dsimp only
  rcases Form.ofName? (String.ofList (toLower text)) with _ | form <;> rfl

/-- A word of the list is known as what it begins. -/
theorem TextKind.ofWord?_of_toLower (isOpening : (word, kind) ∈ openings) {text : List Char}
    (isLowered : toLower text = word.toList.map Char.toLower) : ofWord? text = some kind := by
  have each : ∀ opening ∈ openings, ∀ name, name = opening.1.toList.map Char.toLower →
      ((Form.ofName? (String.ofList name)).map query).or
        (if String.ofList name ∈ updateKeywords then some update else none) = some opening.2 := by
    simp only [forall_eq]
    decide
  rw [ofWord?_eq]
  exact each _ isOpening _ isLowered

/-- A word that goes on behind a keyword is not known. -/
theorem TextKind.ofWord?_eq_none (isOpening : (word, kind) ∈ openings) (isCasing : IsCasing word.toList spelling)
    (c : Char) (rest : List Char) : ofWord? (spelling ++ c :: rest) = none := by
  have areApart : ∀ name ∈ openingNames, ∀ other ∈ openingNames, name <+: other → name = other := by decide
  rcases lowerFrom_casing (arePlain_of_opening _ isOpening) isCasing [] (c :: rest) with ⟨behind, isLowered⟩
  rw [Option.eq_none_iff_forall_ne_some]
  intro other isKnown
  have isIn := toLower_mem_of_ofWord? isKnown
  have isName : word.toList.map Char.toLower ∈ openingNames := List.mem_map.mpr ⟨_, isOpening, rfl⟩
  rw [toLower, isLowered] at isIn
  have same := areApart _ isName _ isIn (List.prefix_append ..)
  exact lowerFrom_ne_nil behind c rest (List.self_eq_append_right.mp same)

/-- What holds of the letters of a word in either case holds of every spelling of it. -/
theorem forall_casing {p : Char → Prop} {word : List Char} (isCasing : IsCasing word spelling)
    (each : ∀ c ∈ word, p c ∧ p c.toLower) : ∀ c ∈ spelling, p c := by
  induction isCasing with
  | nil => simp
  | cons isCased _ ih =>
      rcases List.forall_mem_cons.mp each with ⟨⟨ofCapital, ofSmall⟩, each⟩
      refine List.forall_mem_cons.mpr ⟨?_, ih each⟩
      rcases isCased with rfl | rfl
      · exact ofCapital
      · exact ofSmall

/-- A letter that no item of a prologue begins with. -/
def opensKeyword (c : Char) : Bool := c != '#' && !Prologue.folds 'P' c && !Prologue.folds 'B' c

/-- No keyword begins like an item of a prologue. -/
theorem isOpening_casing (isIn : (word, kind) ∈ openings) (isCasing : IsCasing word.toList spelling) :
    isOpening spelling = true := by
  have noBlanks : ∀ opening ∈ openings, ∀ c ∈ opening.1.toList,
      isBlank c = false ∧ isBlank c.toLower = false := by
    have areAll : openings.all (fun opening =>
        opening.1.toList.all fun c => !isBlank c && !isBlank c.toLower) = true := by
      decide
    simpa only [List.all_eq_true, Bool.and_eq_true, Bool.not_eq_true'] using areAll
  have opens : ∀ opening ∈ openings, opening.1.toList ≠ [] ∧
      ∀ c ∈ opening.1.toList.take 1, opensKeyword c = true ∧ opensKeyword c.toLower = true := by
    have areAll : openings.all (fun opening => !opening.1.toList.isEmpty &&
        (opening.1.toList.take 1).all fun c => opensKeyword c && opensKeyword c.toLower) = true := by
      decide
    simpa only [List.all_eq_true, Bool.and_eq_true, Bool.not_eq_true', List.isEmpty_eq_false_iff] using areAll
  have noBlank := forall_casing isCasing (noBlanks _ isIn)
  rcases opens _ isIn with ⟨isSome, opens⟩
  have opensFirst := forall_casing (List.forall₂_take 1 isCasing) opens
  cases spelling with
  | nil => exact absurd (List.forall₂_nil_right_iff.mp isCasing) isSome
  | cons c spelling =>
      have isFirst := opensFirst c (by simp)
      simp only [opensKeyword, Bool.and_eq_true] at isFirst
      simpa [isOpening, isFirst] using noBlank

/-- A known word in any letter case is known as what it begins. -/
theorem TextKind.ofWord?_casing (isIn : (word, kind) ∈ openings) (isCasing : IsCasing word.toList spelling) :
    ofWord? spelling = some kind := by
  rcases lowerFrom_casing (arePlain_of_opening _ isIn) isCasing [] [] with ⟨_, isLowered⟩
  refine ofWord?_of_toLower isIn ?_
  simpa [toLower, lowerFrom] using isLowered

/-- A keyword behind a prologue is known, in any letter case, exactly if nothing or a blank follows it. -/
theorem TextKind.detect_behind_prologue (isPrologue : Prologue.IsPrologue start) (isIn : (word, kind) ∈ openings)
    (isCasing : IsCasing word.toList spelling) (rest : List Char) :
    let text := String.ofList (start ++ spelling ++ rest)
    detect text = if rest.head?.all isBlank then .ok kind else refuse (.unknownKeyword text) := by
  intro text
  have opening := isOpening_casing isIn isCasing
  have isWord : firstWord (Prologue.skip text.toList) = spelling ++ rest.takeWhile (!isBlank ·) := by
    rw [String.toList_ofList, List.append_assoc, Prologue.skip_append isPrologue,
      Prologue.skip_of_isOpening opening, firstWord_of_isOpening opening]
  rw [detect, isWord]
  cases rest with
  | nil =>
      rw [List.takeWhile_nil, List.append_nil, ofWord?_casing isIn isCasing]
      rfl
  | cons c rest =>
      by_cases blank : isBlank c
      · rw [List.takeWhile_cons_of_neg (by simpa using blank), List.append_nil, ofWord?_casing isIn isCasing]
        simp [blank]
      · rw [List.takeWhile_cons_of_pos (by simpa using blank), ofWord?_eq_none isIn isCasing]
        simp [blank]

/-- A prologue with a comment and two declarations, the keyword in mixed case before a blank. -/
theorem TextKind.detect_behind_declarations :
    let start := "# people\nPREFIX ex: <http://h/#>\tbase<http://h/> ".toList
    Prologue.IsPrologue start ∧ ("SELECT", TextKind.query .select) ∈ openings ∧
      IsCasing "SELECT".toList "Select".toList ∧
      detect (String.ofList (start ++ "Select".toList ++ " *\x7b\x7d".toList)) = .ok (.query .select) := by
  intro start
  have isPrologue : Prologue.IsPrologue start := by
    refine ⟨["# people\n".toList, "PREFIX ex: <http://h/#>".toList, ['\t'], "base<http://h/>".toList, [' ']], ?_, rfl⟩
    simp only [List.forall_mem_cons]
    have isPrefix : Prologue.IsItem
        ("PREFIX".toList ++ [' '] ++ ['e', 'x'] ++ ':' :: [' '] ++ '<' :: "http://h/#".toList ++ ['>']) := by
      have isName : ∀ c ∈ ['e', 'x'], isBlank c = false ∧ c ≠ ':' := by simp [isBlank]
      refine .declaration ?_ ⟨by decide, List.forall_mem_singleton.mpr rfl⟩ isName
        (List.forall_mem_singleton.mpr rfl) (by decide)
      unfold IsCasing
      decide
    have isBase : Prologue.IsItem ("base".toList ++ [] ++ '<' :: "http://h/".toList ++ ['>']) := by
      refine .base ?_ (List.forall_mem_nil _) (by decide)
      unfold IsCasing
      decide
    have isComment : Prologue.IsItem ('#' :: " people".toList ++ ['\n']) := .comment (by decide)
    exact ⟨isComment, isPrefix, .blank (by decide), isBase, .blank (by decide), List.forall_mem_nil _⟩
  have isIn : ("SELECT", TextKind.query .select) ∈ openings := by decide
  have isCasing : IsCasing "SELECT".toList "Select".toList := by
    unfold IsCasing
    decide
  exact ⟨isPrologue, isIn, isCasing, detect_behind_prologue isPrologue isIn isCasing " *\x7b\x7d".toList⟩

/-- A keyword is not known where a brace follows it at once. -/
theorem TextKind.detect_before_brace :
    Prologue.IsPrologue [] ∧ ("ASK", TextKind.query .ask) ∈ openings ∧ IsCasing "ASK".toList "ASK".toList ∧
      detect (String.ofList ([] ++ "ASK".toList ++ "\x7b ?s ?p ?o \x7d".toList)) =
        .error (.construction (.unknownKeyword "ASK\x7b ?s ?p ?o \x7d")) := by
  have isIn : ("ASK", TextKind.query .ask) ∈ openings := by decide
  have isCasing : IsCasing "ASK".toList "ASK".toList := by
    unfold IsCasing
    decide
  refine ⟨⟨[], List.forall_mem_nil _, rfl⟩, isIn, isCasing, ?_⟩
  have opening : isOpening "ASK\x7b".toList = true := by decide
  have isKind : ofWord? (firstWord (Prologue.skip ([] ++ "ASK".toList ++ "\x7b ?s ?p ?o \x7d".toList))) = none := by
    rw [show [] ++ "ASK".toList ++ "\x7b ?s ?p ?o \x7d".toList = "ASK\x7b".toList ++ " ?s ?p ?o \x7d".toList from rfl,
      Prologue.skip_of_isOpening opening, firstWord_of_isOpening opening]
    exact ofWord?_eq_none isIn isCasing '\x7b' []
  rw [detect, String.toList_ofList, isKind]
  rfl

end Sparql
