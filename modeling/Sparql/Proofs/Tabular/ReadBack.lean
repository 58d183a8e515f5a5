import Mathlib.Data.List.Basic
import Sparql.Tabular.Rows

/-!
# Reading written rows back

Cells are written as they are or between quotes, the cells of a row between separators and the rows on lines. Such a
text is read as its rows, with one exception: a row of a single cell that is written as nothing is an empty line,
and empty lines are no rows.
-/

namespace Sparql.Tabular

open Reading

/-! ## Writing -/

/-- A separator that is neither the end of a line nor a quote. -/
def Dialect.IsSound (dialect : Dialect) : Prop := isLineEnd dialect.separator = false ∧ dialect.separator ≠ '"'

/-- A cell with every quote doubled. -/
def doubled (cell : List Char) : List Char := cell.flatMap fun c => if c = '"' then ['"', '"'] else [c]

/-- The ways to write a cell: as it is, if no character of it has a meaning of its own, or between quotes. -/
inductive Writes (dialect : Dialect) : List Char → List Char → Prop
  | plain {cell : List Char} (isPlain : ∀ c ∈ cell, c ≠ dialect.separator ∧ isLineEnd c = false ∧ c ≠ '"')
      (fits : cell.length ≤ maxCell) : Writes dialect cell cell
  | quoted {cell : List Char} (hasQuotes : dialect.quotes = true) (fits : cell.length ≤ maxCell) :
      Writes dialect cell ('"' :: doubled cell ++ ['"'])

/-- The end of a line: a line feed, or a carriage return before one. -/
def IsEnding (ending : List Char) : Prop := ending = ['\n'] ∨ ending = ['\r', '\n']

/-- Written rows as lines. The last line may lack its end. -/
def document (dialect : Dialect) (ending : List Char) (isClosed : Bool) (rows : List (List (List Char))) : List Char :=
  ending.intercalate (rows.map [dialect.separator].intercalate) ++ if isClosed then ending else []

/-! ## Reading cells -/

variable {dialect : Dialect} {rows : List (List (List Char))} {cells : List (List Char)}
  {cell written read text ending rest : List Char} {place : Place}

/-- A reading inside a cell, of which some characters have been read. -/
def inside (rows : List (List (List Char))) (cells : List (List Char)) (read : List Char) (place : Place) : Reading :=
  { rows, cells, cell := read.reverse, length := read.length, place }

/-- A reading at the start of a cell, behind some others of its row. -/
def atCell (rows : List (List (List Char))) (cells : List (List Char)) : Reading :=
  inside rows cells [] (if cells.isEmpty then .rowStart else .cellStart)

variable (rows cells place) in
theorem push_inside (c : Char) (next : Place) (fits : read.length + 1 ≤ maxCell) :
    (inside rows cells read place).push c next = some (inside rows cells (read ++ [c]) next) := by
  simp [push, inside, Nat.not_le.mpr fits]

/-- Ordinary characters belong to the cell. -/
theorem run_plain (isPlain : ∀ c ∈ text, c ≠ dialect.separator ∧ isLineEnd c = false ∧ c ≠ '"')
    (fits : read.length + text.length ≤ maxCell) :
    run dialect (inside rows cells read .inCell) (text ++ rest) =
      run dialect (inside rows cells (read ++ text) .inCell) rest := by
  induction text generalizing read with
  | nil => simp
  | cons c text ih =>
      rcases List.forall_mem_cons.mp isPlain with ⟨⟨noSeparator, noEnd, _⟩, isPlain⟩
      rw [List.length_cons] at fits
      have notLine : c ≠ '\n' := by
        rintro rfl
        cases noEnd
      have isPushed := push_inside rows cells .inCell c .inCell (show read.length + 1 ≤ maxCell by omega)
      have isStep : step dialect (inside rows cells read .inCell) c =
          some (inside rows cells (read ++ [c]) .inCell) := by
        rw [← isPushed]
        simp [step, inside, noEnd, noSeparator]
      rw [List.cons_append, run, isStep]
      simp only [if_neg notLine]
      rw [ih isPlain (by rw [List.length_append, List.length_singleton]; omega), List.append_assoc,
        List.singleton_append]

/-- Every character between quotes belongs to the cell, and two quotes are one. -/
theorem run_doubled (fits : read.length + text.length ≤ maxCell) :
    run dialect (inside rows cells read .inQuotes) (doubled text ++ rest) =
      run dialect (inside rows cells (read ++ text) .inQuotes) rest := by
  induction text generalizing read with
  | nil => simp [doubled]
  | cons c text ih =>
      rw [List.length_cons] at fits
      have isPushed := fun place => push_inside rows cells place c .inQuotes (show read.length + 1 ≤ maxCell by omega)
      have fitsNext : (read ++ [c]).length + text.length ≤ maxCell := by
        rw [List.length_append, List.length_singleton]
        omega
      have others := ih fitsNext
      rw [List.append_assoc, List.singleton_append] at others
      rw [← others]
      by_cases isQuote : c = '"'
      · subst isQuote
        have first : step dialect (inside rows cells read .inQuotes) '"' =
            some (inside rows cells read .afterQuote) := rfl
        have second : step dialect (inside rows cells read .afterQuote) '"' =
            some (inside rows cells (read ++ ['"']) .inQuotes) := isPushed .afterQuote
        simp [doubled, run, first, second]
      · have isStep : step dialect (inside rows cells read .inQuotes) c =
            some (inside rows cells (read ++ [c]) .inQuotes) := by
          rw [← isPushed .inQuotes]
          simp [step, inside, isQuote]
        have staysOpen : (inside rows cells (read ++ [c]) .inQuotes).endLine =
            inside rows cells (read ++ [c]) .inQuotes := rfl
        simp [doubled, run, isStep, isQuote, staysOpen]

/-- The places at which a cell of a row may end. -/
def IsBehind (place : Place) : Prop := place = .cellStart ∨ place = .inCell ∨ place = .afterQuote

theorem step_atCell {c : Char} (notEnd : isLineEnd c = false) :
    step dialect (atCell rows cells) c = startCell dialect (atCell rows cells) c := by
  cases cells <;> simp [step, atCell, inside, notEnd]

variable (rows) in
/-- A written cell is read as the cell, unless it is all that there is of its row and written as nothing. -/
theorem run_cell (writes : Writes dialect cell written) (isSome : written ≠ [] ∨ cells ≠ []) :
    ∃ place, IsBehind place ∧ ∀ rest, run dialect (atCell rows cells) (written ++ rest) =
      run dialect (inside rows cells cell place) rest := by
  cases writes with
  | plain isPlain fits =>
      cases cell with
      | nil =>
          rcases List.exists_cons_of_ne_nil (isSome.resolve_left (by simp)) with ⟨last, others, rfl⟩
          exact ⟨.cellStart, .inl rfl, fun _ => rfl⟩
      | cons c cell =>
          rcases List.forall_mem_cons.mp isPlain with ⟨⟨noSeparator, noEnd, noQuote⟩, isRest⟩
          have notLine : c ≠ '\n' := by
            rintro rfl
            cases noEnd
          rw [List.length_cons] at fits
          have isStep : step dialect (atCell rows cells) c = some (inside rows cells [c] .inCell) := by
            rw [step_atCell noEnd, startCell]
            simp only [noEnd, noQuote, noSeparator, Bool.false_eq_true, if_false, decide_false, Bool.false_and]
            exact push_inside rows cells _ c .inCell (show 0 + 1 ≤ maxCell by decide)
          refine ⟨.inCell, .inr (.inl rfl), fun rest => ?_⟩
          rw [List.cons_append, run, isStep]
          simp only [if_neg notLine]
          exact run_plain isRest (by rw [List.length_singleton]; omega)
  | quoted hasQuotes fits =>
      have opens : step dialect (atCell rows cells) '"' = some (inside rows cells [] .inQuotes) := by
        rw [step_atCell rfl, startCell, if_neg (by decide), if_pos (by simpa using hasQuotes)]
        rfl
      have closes : step dialect (inside rows cells cell .inQuotes) '"' =
          some (inside rows cells cell .afterQuote) := rfl
      refine ⟨.afterQuote, .inr (.inr rfl), fun rest => ?_⟩
      have between : run dialect (inside rows cells [] .inQuotes) (doubled cell ++ '"' :: rest) =
          run dialect (inside rows cells cell .inQuotes) ('"' :: rest) :=
        run_doubled (by simpa using fits)
      simp [run, opens, closes, between]

/-- A separator ends the cell before it. -/
theorem run_separator (isSound : dialect.IsSound) (writes : Writes dialect cell written) (rest : List Char) :
    run dialect (atCell rows cells) (written ++ dialect.separator :: rest) =
      run dialect (atCell rows (cell :: cells)) rest := by
  have notLine : dialect.separator ≠ '\n' := by
    intro isLine
    rw [Dialect.IsSound, isLine] at isSound
    cases isSound.1
  by_cases isSome : written ≠ [] ∨ cells ≠ []
  · rcases run_cell rows writes isSome with ⟨place, isBehind, isRead⟩
    have isStep : step dialect (inside rows cells cell place) dialect.separator =
        some (atCell rows (cell :: cells)) := by
      rcases isBehind with rfl | rfl | rfl <;>
        simp [step, startCell, closeCell, atCell, inside, isSound.1, isSound.2]
    rw [isRead, run, isStep]
    simp [notLine]
  · simp only [ne_eq, not_or, not_not] at isSome
    rcases isSome with ⟨rfl, rfl⟩
    have isEmpty : cell = [] := by
      cases writes
      rfl
    have isStep : step dialect (atCell rows []) dialect.separator = some (atCell rows [cell]) := by
      rw [step_atCell isSound.1]
      simp [startCell, closeCell, atCell, inside, isSound.1, isSound.2, isEmpty]
    rw [List.nil_append, run, isStep]
    simp [notLine]

/-! ## Reading rows -/

theorem step_lineEnd (isSound : dialect.IsSound) (isBehind : IsBehind place) {c : Char} (isEnd : isLineEnd c = true) :
    step dialect (inside rows cells cell place) c = some (inside rows (cell :: cells) [] .atLineEnd) := by
  have notSeparator : c ≠ dialect.separator := by
    rintro rfl
    cases isEnd.symm.trans isSound.1
  have notQuote : c ≠ '"' := by
    rintro rfl
    cases isEnd
  rcases isBehind with rfl | rfl | rfl <;>
    simp [step, startCell, closeCell, inside, isEnd, notSeparator, notQuote]

/-- The end of a line ends the row before it. -/
theorem run_ending (isSound : dialect.IsSound) (isEnding : IsEnding ending) (isBehind : IsBehind place)
    (rest : List Char) :
    run dialect (inside rows cells cell place) (ending ++ rest) =
      run dialect (atCell ((cells.reverse ++ [cell]) :: rows) []) rest := by
  have ends : (inside rows (cell :: cells) [] .atLineEnd).endLine = atCell ((cells.reverse ++ [cell]) :: rows) [] := by
    simp [endLine, closeRow, atCell, inside]
  have isReturn : step dialect (inside rows (cell :: cells) [] .atLineEnd) '\n' =
      some (inside rows (cell :: cells) [] .atLineEnd) := rfl
  rcases isEnding with rfl | rfl
  · simp [run, step_lineEnd isSound isBehind, ends, show isLineEnd '\n' = true from rfl]
  · simp [run, step_lineEnd isSound isBehind, ends, isReturn, show isLineEnd '\r' = true from rfl]

/-- The end of the text ends the row before it. -/
theorem run_end (isBehind : IsBehind place) :
    run dialect (inside rows cells cell place) [] = some ((cells.reverse ++ [cell]) :: rows).reverse := by
  rcases isBehind with rfl | rfl | rfl <;>
    simp [run, finish, endLine, closeRow, closeCell, inside]

variable (rows) in
/-- An empty line is no row. -/
theorem run_emptyLine (isEnding : IsEnding ending) (rest : List Char) :
    run dialect (atCell rows []) (ending ++ rest) = run dialect (atCell rows []) rest := by
  rcases isEnding with rfl | rfl <;> rfl

variable {write : List Char → List Char} {row : List (List Char)}

/-- Whether a row is written as something. -/
def isKept (write : List Char → List Char) (row : List (List Char)) : Bool := row.map write ≠ [[]]

variable (rows) in
/-- A row is read up to its last cell. -/
theorem run_row (isSound : dialect.IsSound) (areWritten : ∀ cell ∈ row, Writes dialect cell (write cell))
    (isRow : row ≠ []) (isSome : cells ≠ [] ∨ isKept write row = true) :
    ∃ others last place, cells.reverse ++ row = others.reverse ++ [last] ∧ IsBehind place ∧ ∀ rest,
      run dialect (atCell rows cells) ([dialect.separator].intercalate (row.map write) ++ rest) =
        run dialect (inside rows others last place) rest := by
  induction row generalizing cells with
  | nil => exact absurd rfl isRow
  | cons cell row ih =>
      rcases List.forall_mem_cons.mp areWritten with ⟨isWritten, areWritten⟩
      cases row with
      | nil =>
          have isSome : write cell ≠ [] ∨ cells ≠ [] := isSome.symm.imp_left (by simp [isKept])
          rcases run_cell rows isWritten isSome with ⟨place, isBehind, isRead⟩
          exact ⟨cells, cell, place, rfl, isBehind, by simpa using isRead⟩
      | cons next row =>
          have isNext : cell :: cells ≠ [] ∨ isKept write (next :: row) = true := .inl (List.cons_ne_nil _ _)
          rcases ih areWritten (List.cons_ne_nil _ _) isNext with
            ⟨others, last, place, isLast, isBehind, isRead⟩
          refine ⟨others, last, place, by simpa using isLast, isBehind, fun rest => ?_⟩
          rw [List.map_cons, List.map_cons, List.intercalate_cons_cons, List.append_assoc, List.append_assoc,
            List.singleton_append, run_separator isSound isWritten, ← List.map_cons, isRead]

theorem intercalate_of_not_kept {separator : List Char} (notKept : isKept write row = false) :
    separator.intercalate (row.map write) = [] := by
  have isNothing : row.map write = [[]] := by simpa [isKept] using notKept
  rw [isNothing, List.intercalate_singleton]

/-- The rows before, in reverse, with one more if it is written as something. -/
def withRow (write : List Char → List Char) (rows : List (List (List Char))) (row : List (List Char)) :
    List (List (List Char)) :=
  if isKept write row then row :: rows else rows

variable (rows) in
/-- A line is read as its row. -/
theorem run_line (isSound : dialect.IsSound) (isEnding : IsEnding ending)
    (areWritten : ∀ cell ∈ row, Writes dialect cell (write cell)) (isRow : row ≠ []) (rest : List Char) :
    run dialect (atCell rows []) ([dialect.separator].intercalate (row.map write) ++ (ending ++ rest)) =
      run dialect (atCell (withRow write rows row) []) rest := by
  by_cases kept : isKept write row
  · have isSome : ([] : List (List Char)) ≠ [] ∨ isKept write row = true := .inr kept
    rcases run_row rows isSound areWritten isRow isSome with
      ⟨others, last, place, isLast, isBehind, isRead⟩
    rw [List.reverse_nil, List.nil_append] at isLast
    rw [isRead, run_ending isSound isEnding isBehind, withRow, if_pos kept, isLast]
  · rw [intercalate_of_not_kept (by simpa using kept), List.nil_append, run_emptyLine rows isEnding, withRow,
      if_neg kept]

variable (rows) in
/-- The last line is read as its row. -/
theorem run_lastLine (isSound : dialect.IsSound) (areWritten : ∀ cell ∈ row, Writes dialect cell (write cell))
    (isRow : row ≠ []) :
    run dialect (atCell rows []) ([dialect.separator].intercalate (row.map write)) =
      some (withRow write rows row).reverse := by
  by_cases kept : isKept write row
  · have isSome : ([] : List (List Char)) ≠ [] ∨ isKept write row = true := .inr kept
    rcases run_row rows isSound areWritten isRow isSome with
      ⟨others, last, place, isLast, isBehind, isRead⟩
    have ends := isRead []
    rw [List.append_nil] at ends
    rw [List.reverse_nil, List.nil_append] at isLast
    rw [ends, run_end isBehind, withRow, if_pos kept, isLast]
  · rw [intercalate_of_not_kept (by simpa using kept), withRow, if_neg kept]
    rfl

theorem reverse_withRow (rows : List (List (List Char))) (row : List (List Char)) :
    (withRow write rows row).reverse = rows.reverse ++ [row].filter (isKept write) := by
  by_cases kept : isKept write row <;> simp [withRow, kept]

theorem run_document (isSound : dialect.IsSound) (isEnding : IsEnding ending) (isClosed : Bool)
    {table : List (List (List Char))} (areRows : ∀ row ∈ table, row ≠ [])
    (areWritten : ∀ row ∈ table, ∀ cell ∈ row, Writes dialect cell (write cell)) :
    run dialect (atCell rows []) (document dialect ending isClosed (table.map (·.map write))) =
      some (rows.reverse ++ table.filter (isKept write)) := by
  have ofNothing : ∀ rows, run dialect (atCell rows []) [] = some rows.reverse := fun _ => rfl
  induction table generalizing rows with
  | nil =>
      have isEmpty : run dialect (atCell rows []) (ending ++ []) = some rows.reverse := run_emptyLine rows isEnding []
      cases isClosed with
      | false => simp [document, ofNothing]
      | true => simpa [document, ofNothing] using isEmpty
  | cons row table ih =>
      rcases List.forall_mem_cons.mp areRows with ⟨isRow, areRows⟩
      rcases List.forall_mem_cons.mp areWritten with ⟨isWritten, areWritten⟩
      have afterRow : (withRow write rows row).reverse ++ table.filter (isKept write) =
          rows.reverse ++ (row :: table).filter (isKept write) := by
        rw [reverse_withRow, List.append_assoc, ← List.filter_append, List.singleton_append]
      rw [← afterRow]
      cases table with
      | nil =>
          have isLine := run_line rows isSound isEnding isWritten isRow []
          have isLast := run_lastLine rows isSound isWritten isRow
          cases isClosed with
          | false => simpa [document] using isLast
          | true => simpa [document, ofNothing] using isLine
      | cons next table =>
          rw [← ih areRows areWritten, ← run_line rows isSound isEnding isWritten isRow]
          simp [document, List.intercalate_cons_cons]

/-- Written rows are read back, but for those that are empty lines. -/
theorem rows?_document (isSound : dialect.IsSound) (isEnding : IsEnding ending) (isClosed : Bool)
    {table : List (List (List Char))} (areRows : ∀ row ∈ table, row ≠ [])
    (areWritten : ∀ row ∈ table, ∀ cell ∈ row, Writes dialect cell (write cell)) :
    rows? dialect (document dialect ending isClosed (table.map (·.map write))) =
      some (table.filter (isKept write)) :=
  run_document isSound isEnding isClosed areRows areWritten

end Sparql.Tabular
