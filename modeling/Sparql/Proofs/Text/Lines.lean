import Sparql.Text.Basic

/-!
# Blanks and ends of lines

Only blanks at the ends of a text are trimmed. The ends of lines are unified in a text as in its parts, unless one end
stands across a cut.

A text falls into lines at its line feeds and carriage returns. A carriage return before a line feed makes no difference,
as empty lines are left out of account: a text that is made of lines with ends behind them has these lines.
-/

namespace Sparql.Text

/-! ## Trimming -/

section Trimming

variable {text space rest : List Char} {c : Char}

theorem trimLeft_append (areBlank : ∀ c ∈ space, isBlank c = true) (rest : List Char) :
    trimLeft (space ++ rest) = trimLeft rest :=
  List.dropWhile_append_of_pos areBlank

theorem trimLeft_of_notBlank (notBlank : isBlank c = false) (rest : List Char) : trimLeft (c :: rest) = c :: rest :=
  List.dropWhile_cons_of_neg (by simp [notBlank])

theorem trimLeft_eq_self (noBlank : ∀ c ∈ text.head?, isBlank c = false) : trimLeft text = text := by
  cases text with
  | nil => rfl
  | cons first rest => exact trimLeft_of_notBlank (noBlank first rfl) rest

/-- A text without blanks at its ends stays as it is. -/
theorem trim_eq_self (before : ∀ c ∈ text.head?, isBlank c = false)
    (behind : ∀ c ∈ text.getLast?, isBlank c = false) : trim text = text := by
  have reversed : text.reverse.dropWhile isBlank = text.reverse :=
    trimLeft_eq_self (by rwa [List.head?_reverse])
  rw [trim, trimLeft_eq_self before, trimRight, reversed, List.reverse_reverse]

end Trimming

/-! ## Unified lines -/

theorem unifyLinesOnto_append (read before text : List Char) :
    unifyLinesOnto (read ++ before) text = before.reverse ++ unifyLinesOnto read text := by
  induction read, text using unifyLinesOnto.induct with
  | case1 read rest ih => rw [unifyLinesOnto, unifyLinesOnto, ← List.cons_append, ih]
  | case2 read rest notFeed ih =>
      rw [unifyLinesOnto, unifyLinesOnto, ← List.cons_append, ih]
      · exact notFeed
      · exact notFeed
  | case3 read c rest notFeed notReturn ih =>
      rw [unifyLinesOnto, unifyLinesOnto, ← List.cons_append, ih]
      all_goals assumption
  | case4 read => rw [unifyLinesOnto, unifyLinesOnto, List.reverse_append]

theorem unifyLinesOnto_eq (before text : List Char) : unifyLinesOnto before text = before.reverse ++ unifyLines text :=
  unifyLinesOnto_append [] before text

theorem unifyLines_end (text : List Char) : unifyLines ('\r' :: '\n' :: text) = '\n' :: unifyLines text := by
  rw [unifyLines, unifyLinesOnto, unifyLinesOnto_eq]
  rfl

theorem head?_ne_feed {text : List Char} (notFeed : ∀ rest, text = '\n' :: rest → False) : text.head? ≠ some '\n' := by
  intro isFeed
  rcases text with _ | ⟨c, text⟩
  · cases isFeed
  · exact notFeed text (by rw [Option.some.inj isFeed])

theorem unifyLines_return {text : List Char} (notFeed : text.head? ≠ some '\n') :
    unifyLines ('\r' :: text) = '\n' :: unifyLines text := by
  rw [unifyLines, unifyLinesOnto, unifyLinesOnto_eq]
  · rfl
  · rintro rest rfl
    exact notFeed rfl

theorem unifyLines_cons {c : Char} (notReturn : c ≠ '\r') (text : List Char) :
    unifyLines (c :: text) = c :: unifyLines text := by
  rw [unifyLines, unifyLinesOnto, unifyLinesOnto_eq]
  · rfl
  · exact fun rest isReturn => (notReturn isReturn).elim
  · exact notReturn

/-- A text is unified in two parts, of which the second may begin with the other half of an end of a line. -/
theorem unifyLines_append_cases (first second : List Char) :
    unifyLines (first ++ second) = unifyLines first ++ unifyLines second ∨
      ∃ rest, second = '\n' :: rest ∧ unifyLines (first ++ second) = unifyLines first ++ unifyLines rest := by
  refine unifyLinesOnto.induct (fun _ first => unifyLines (first ++ second) = unifyLines first ++ unifyLines second ∨
    ∃ rest, second = '\n' :: rest ∧ unifyLines (first ++ second) = unifyLines first ++ unifyLines rest)
    ?_ ?_ ?_ ?_ [] first
  · intro read first ih
    simpa [unifyLines_end] using ih
  · intro read first notFeed ih
    rcases first with _ | ⟨c, first⟩
    · rcases second with _ | ⟨d, second⟩
      · exact .inl rfl
      · by_cases isFeed : d = '\n'
        · subst isFeed
          exact .inr ⟨second, rfl, unifyLines_end second⟩
        · have notFeed : (d :: second).head? ≠ some '\n' := by simpa using isFeed
          exact .inl (unifyLines_return notFeed)
    · have differs : c ≠ '\n' := fun isFeed => notFeed first (isFeed ▸ rfl)
      have notFeed (others : List Char) : (c :: others).head? ≠ some '\n' := by simpa using differs
      rw [List.cons_append, List.cons_append, unifyLines_return (notFeed _), unifyLines_return (notFeed _)]
      simpa using ih
  · intro read c first _ notReturn ih
    simpa [unifyLines_cons notReturn] using ih
  · intro _
    exact .inl rfl

theorem unifyLines_append (first : List Char) {second : List Char} (notFeed : second.head? ≠ some '\n') :
    unifyLines (first ++ second) = unifyLines first ++ unifyLines second := by
  rcases unifyLines_append_cases first second with isUnified | ⟨rest, rfl, _⟩
  · exact isUnified
  · exact absurd rfl notFeed

/-- A mark without line feeds that stands before a unified text stands before the text. -/
theorem prefix_of_unifyLines {mark text : List Char} (noFeed : '\n' ∉ mark) (isPrefix : mark <+: unifyLines text) :
    mark <+: text := by
  induction mark generalizing text with
  | nil => exact List.nil_prefix
  | cons c mark ih =>
      rw [List.mem_cons, not_or] at noFeed
      rcases text with _ | ⟨d, text⟩
      · exact isPrefix
      · by_cases isReturn : d = '\r'
        · subst isReturn
          have isFeed : ∃ rest, unifyLines ('\r' :: text) = '\n' :: rest := by
            rcases text with _ | ⟨e, text⟩
            · exact ⟨[], rfl⟩
            · by_cases isFeed : e = '\n'
              · subst isFeed
                exact ⟨_, unifyLines_end text⟩
              · exact ⟨_, unifyLines_return (by simpa using isFeed)⟩
          rcases isFeed with ⟨rest, isFeed⟩
          rw [isFeed, List.cons_prefix_cons] at isPrefix
          exact absurd isPrefix.1.symm noFeed.1
        · rw [unifyLines_cons isReturn, List.cons_prefix_cons] at isPrefix
          rw [List.cons_prefix_cons]
          exact ⟨isPrefix.1, ih noFeed.2 isPrefix.2⟩

/-- A mark without line feeds that stands in a unified text stands in the text. -/
theorem infix_of_unifyLines {mark text : List Char} (noFeed : '\n' ∉ mark) (isInfix : mark <:+: unifyLines text) :
    mark <:+: text := by
  refine unifyLinesOnto.induct (fun _ text => mark <:+: unifyLines text → mark <:+: text) ?_ ?_ ?_ ?_ [] text isInfix
  · intro _ text ih isInfix
    have isUnified := unifyLines_end text
    rw [isUnified, List.infix_cons_iff, ← isUnified] at isInfix
    rcases isInfix with isPrefix | isInfix
    · exact (prefix_of_unifyLines noFeed isPrefix).isInfix
    · exact (ih isInfix).trans ⟨['\r', '\n'], [], by simp⟩
  · intro _ text notFeed ih isInfix
    have isUnified := unifyLines_return (head?_ne_feed notFeed)
    rw [isUnified, List.infix_cons_iff, ← isUnified] at isInfix
    rcases isInfix with isPrefix | isInfix
    · exact (prefix_of_unifyLines noFeed isPrefix).isInfix
    · exact (ih isInfix).trans (List.suffix_cons _ _).isInfix
  · intro _ c text _ notReturn ih isInfix
    have isUnified := unifyLines_cons notReturn text
    rw [isUnified, List.infix_cons_iff, ← isUnified] at isInfix
    rcases isInfix with isPrefix | isInfix
    · exact (prefix_of_unifyLines noFeed isPrefix).isInfix
    · exact (ih isInfix).trans (List.suffix_cons _ _).isInfix
  · exact fun _ isInfix => isInfix

/-! ## Lines of a text -/

section Splitting

/-- An end of a line, or a half of one. -/
def isLineEnd (c : Char) : Bool := c = '\n' || c = '\r'

/-- The lines that hold anything. -/
def filled (lines : List (List Char)) : List (List Char) := lines.filter (· ≠ [])

variable {text line rest : List Char} {c : Char} {others : List (List Char)}

theorem filled_append (lines others : List (List Char)) : filled (lines ++ others) = filled lines ++ filled others :=
  List.filter_append _ _

theorem filled_cons_nil : filled ([] :: others) = filled others := rfl

theorem lines_feed (text : List Char) : lines ('\n' :: text) = [] :: lines text := by
  simp [lines, List.splitOn, List.splitOnP_cons_eq_if_modifyHead]

theorem lines_cons (notFeed : c ≠ '\n') (text : List Char) : lines (c :: text) = (lines text).modifyHead (c :: ·) := by
  simp [lines, List.splitOn, List.splitOnP_cons_eq_if_modifyHead, notFeed]

theorem splitOnP_end (isEnd : isLineEnd c) (text : List Char) :
    (c :: text).splitOnP isLineEnd = [] :: text.splitOnP isLineEnd := by
  rw [List.splitOnP_cons_eq_if_modifyHead, if_pos isEnd]

/-! ### Lines of a unified text -/

/-- Two ways to fall into lines, with the same first line and the same lines behind it, but for empty ones. -/
def SameLines (lines others : List (List Char)) : Prop :=
  ∃ first rest otherRest, lines = first :: rest ∧ others = first :: otherRest ∧ filled rest = filled otherRest

theorem SameLines.filled_eq {lines : List (List Char)} (same : SameLines lines others) : filled lines = filled others := by
  rcases same with ⟨first, rest, otherRest, rfl, rfl, sameRest⟩
  rw [← List.singleton_append, filled_append, sameRest, ← filled_append, List.singleton_append]

/-- The first character of a line belongs to the line, however the text behind it falls into lines. -/
theorem SameLines.cons {lines : List (List Char)} (same : SameLines lines others) (c : Char) :
    SameLines (lines.modifyHead (c :: ·)) (others.modifyHead (c :: ·)) := by
  rcases same with ⟨first, rest, otherRest, rfl, rfl, sameRest⟩
  exact ⟨c :: first, rest, otherRest, rfl, rfl, sameRest⟩

/-- A text falls into the same lines whether its ends are unified or not. -/
theorem sameLines_unifyLines (text : List Char) : SameLines (lines (unifyLines text)) (text.splitOnP isLineEnd) := by
  refine unifyLinesOnto.induct (fun _ text => SameLines (lines (unifyLines text)) (text.splitOnP isLineEnd))
    ?_ ?_ ?_ ?_ [] text
  -- Both halves of an end are cut at on the right, which leaves an empty line that is not there on the left.
  · intro _ text ih
    rw [unifyLines_end, lines_feed, splitOnP_end rfl, splitOnP_end rfl]
    exact ⟨[], _, _, rfl, rfl, ih.filled_eq⟩
  · intro _ text notFeed ih
    rw [unifyLines_return (head?_ne_feed notFeed), lines_feed, splitOnP_end rfl]
    exact ⟨[], _, _, rfl, rfl, ih.filled_eq⟩
  · intro _ c text _ notReturn ih
    by_cases isFeed : c = '\n'
    · subst isFeed
      rw [unifyLines_cons notReturn, lines_feed, splitOnP_end rfl]
      exact ⟨[], _, _, rfl, rfl, ih.filled_eq⟩
    · have inLine : isLineEnd c = false := by simpa [isLineEnd] using ⟨isFeed, notReturn⟩
      rw [unifyLines_cons notReturn, lines_cons isFeed, List.splitOnP_cons_eq_if_modifyHead, if_neg (by simp [inLine])]
      exact ih.cons c
  · intro _
    exact ⟨[], [], [], rfl, rfl, rfl⟩

/-! ### Lines with ends behind them -/

theorem splitOnP_inLine (inLine : ∀ c ∈ line, isLineEnd c = false) : line.splitOnP isLineEnd = [line] := by
  induction line with
  | nil => rfl
  | cons c line ih =>
      rw [List.forall_mem_cons] at inLine
      rw [List.splitOnP_cons_eq_if_modifyHead, if_neg (by simp [inLine.1]), ih inLine.2]
      rfl

theorem filled_splitOnP_ends {ends : List Char} (areEnds : ∀ c ∈ ends, isLineEnd c) (text : List Char) :
    filled ((ends ++ text).splitOnP isLineEnd) = filled (text.splitOnP isLineEnd) := by
  induction ends with
  | nil => rfl
  | cons c ends ih =>
      rw [List.forall_mem_cons] at areEnds
      rw [List.cons_append, splitOnP_end areEnds.1, filled_cons_nil, ih areEnds.2]

/-- A text falls into the lines that it is made of. -/
theorem filled_splitOnP_ended {ended : List (List Char × List Char)} {last : List Char}
    (inLine : ∀ line ∈ ended.map (·.1) ++ [last], ∀ c ∈ line, isLineEnd c = false)
    (areEnds : ∀ line ∈ ended, line.2 ≠ [] ∧ ∀ c ∈ line.2, isLineEnd c) :
    filled ((ended.flatMap (fun line => line.1 ++ line.2) ++ last).splitOnP isLineEnd) =
      filled (ended.map (·.1) ++ [last]) := by
  induction ended with
  | nil =>
      rw [List.flatMap_nil, List.nil_append, splitOnP_inLine (inLine last (by simp))]
      rfl
  | cons line ended ih =>
      rw [List.map_cons, List.cons_append, List.forall_mem_cons] at inLine
      rw [List.forall_mem_cons] at areEnds
      rcases areEnds with ⟨⟨notEmpty, areEnds⟩, othersAreEnds⟩
      rcases List.exists_cons_of_ne_nil notEmpty with ⟨c, ends, isCons⟩
      rw [isCons, List.forall_mem_cons] at areEnds
      have text : (line :: ended).flatMap (fun line => line.1 ++ line.2) ++ last =
          line.1 ++ c :: (ends ++ (ended.flatMap (fun line => line.1 ++ line.2) ++ last)) := by
        simp [isCons]
      rw [text, List.splitOnP_append_cons _ _ areEnds.1, splitOnP_inLine inLine.1, filled_append,
        filled_splitOnP_ends areEnds.2, ih inLine.2 othersAreEnds, ← filled_append, List.map_cons, List.singleton_append,
        List.cons_append]

/-- The lines that a reader finds in a text are those that the text is made of, but for empty ones. -/
theorem filled_lines_ended {ended : List (List Char × List Char)} {last : List Char}
    (inLine : ∀ line ∈ ended.map (·.1) ++ [last], ∀ c ∈ line, isLineEnd c = false)
    (areEnds : ∀ line ∈ ended, line.2 ≠ [] ∧ ∀ c ∈ line.2, isLineEnd c) :
    filled (lines (unifyLines (ended.flatMap (fun line => line.1 ++ line.2) ++ last))) =
      filled (ended.map (·.1) ++ [last]) := by
  rw [(sameLines_unifyLines _).filled_eq, filled_splitOnP_ended inLine areEnds]

end Splitting

end Sparql.Text
