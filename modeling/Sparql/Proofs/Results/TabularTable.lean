import Sparql.Proofs.Results.Containment
import Sparql.Proofs.Results.Table
import Sparql.Proofs.Tabular.ReadBack
import Sparql.Proofs.Text.Lines
import Sparql.Proofs.Text.Utf8

/-!
# Tables in delimited text

A table of texts under the names of its columns is read back from its rows, with an empty text for every variable
that a row leaves unbound. Only a row that binds nothing in a single column is lost, because its line is empty.
-/

namespace Sparql.Results.Tabular

open Sparql.Tabular

/-! ## Tables of texts -/

/-- A text that can name a column: it begins with no mark that is dropped, and neither begins nor ends with a
blank. -/
structure IsHeading (name : String) : Prop where
  isSome : name ≠ ""
  before : ∀ c ∈ name.toList.head?, Text.isBlank c = false ∧ c ≠ '?' ∧ c ≠ '\uFEFF'
  behind : ∀ c ∈ name.toList.getLast?, Text.isBlank c = false

theorem isHeading_iff {name : String} :
    name ≠ "" ∧ name.toList.head?.all (fun c => !Text.isBlank c && c != '?' && c != '\uFEFF') = true ∧
      name.toList.getLast?.all (fun c => !Text.isBlank c) = true ↔ IsHeading name := by
  constructor
  · rintro ⟨isSome, before, behind⟩
    exact ⟨isSome, by simpa [Option.all_eq_true, and_assoc] using before, by simpa [Option.all_eq_true] using behind⟩
  · rintro ⟨isSome, before, behind⟩
    exact ⟨isSome, by simpa [Option.all_eq_true, and_assoc] using before, by simpa [Option.all_eq_true] using behind⟩

instance (name : String) : Decidable (IsHeading name) := decidable_of_iff _ isHeading_iff

/-- What a row binds, in the order of the names. -/
def boundIn (names : List String) (row : List (Option String)) : List (String × Term) :=
  (names.zip row).filterMap fun (name, value) => value.map fun text => (name, .literal (.plain text))

/-- A value as the text of a cell, which is empty where a variable is unbound. -/
def cellText (value : Option String) : List Char := (value.getD "").toList

/-- The cells of a table: the names of its columns, and its rows. -/
def cellsOf (names : List String) (rows : List (List (Option String))) : List (List (List Char)) :=
  names.map String.toList :: rows.map (·.map cellText)

variable {dialect : Dialect} {contentType : Option String} {names : List String} {name : String}
  {rows : List (List (Option String))} {row : List (Option String)} {write : List Char → List Char}
  {ending : List Char}

theorem variableName_of_isHeading (isHeading : IsHeading name) : variableName name.toList = name := by
  have noBlanks : Text.trim name.toList = name.toList :=
    Text.trim_eq_self (fun c isFirst => (isHeading.before c isFirst).1) isHeading.behind
  have noMark : name.toList.dropWhile (· = '?') = name.toList := by
    cases isText : name.toList with
    | nil => rfl
    | cons c rest =>
        have isFirst := isHeading.before c (by rw [isText]; rfl)
        rw [List.dropWhile_cons_of_neg (by simpa using isFirst.2.1)]
  rw [variableName, noBlanks, noMark, String.ofList_toList]

theorem names_boundIn_sublist (names : List String) (row : List (Option String)) :
    ((boundIn names row).map Prod.fst).Sublist names := by
  induction names generalizing row with
  | nil => simp [boundIn]
  | cons name names ih =>
      cases row with
      | nil => simp [boundIn]
      | cons value row =>
          cases value with
          | none => exact (ih row).cons name
          | some text => exact (ih row).cons_cons name

/-- The cells of a row that are not empty are its bindings. -/
theorem foldl_cells (areSome : ∀ value ∈ row, value ≠ some "") (start : Solution) :
    (names.zip (row.map cellText)).foldl
        (fun solution (name, cell) =>
          if cell.isEmpty then solution
          else solution.bind (.text name) (.literal (.plain (String.ofList cell)))) start =
      (keyed (boundIn names row)).foldl (fun solution entry => solution.bind entry.1 entry.2) start := by
  induction names generalizing row start with
  | nil => rfl
  | cons name names ih =>
      cases row with
      | nil => rfl
      | cons value row =>
          rcases List.forall_mem_cons.mp areSome with ⟨isSome, areSome⟩
          rw [List.map_cons, List.zip_cons_cons, List.foldl_cons, ih areSome]
          cases value with
          | none => rfl
          | some text =>
              have notEmpty : (cellText (some text)).isEmpty = false := by
                simpa [cellText] using isSome
              have isBound : keyed (boundIn (name :: names) (some text :: row)) =
                  (.text name, .literal (.plain text)) :: keyed (boundIn names row) := rfl
              simp only [isBound, List.foldl_cons, notEmpty, Bool.false_eq_true, if_false]
              simp [cellText]

theorem solution_cells (distinct : names.Nodup) (areSome : ∀ value ∈ row, value ≠ some "") :
    solution names (row.map cellText) = ⟨keyed (boundIn names row)⟩ := by
  have isDistinct : (([] ++ boundIn names row).map Prod.fst).Nodup :=
    (names_boundIn_sublist names row).nodup distinct
  exact (foldl_cells areSome ⟨[]⟩).trans (foldl_bind [] (boundIn names row) isDistinct)

theorem solutions_eq_ok {names : List String} {lines : List (List (List Char))}
    (areRows : ∀ line ∈ lines, line.length = names.length) (number : Nat) :
    solutions names number lines = .ok (lines.map (solution names)) := by
  induction lines generalizing number with
  | nil => rfl
  | cons line lines ih =>
      rcases List.forall_mem_cons.mp areRows with ⟨isRow, areRows⟩
      rw [solutions, if_pos isRow, ih areRows]
      rfl

/-! ## Documents -/

/-- Bytes behind a byte-order mark, or without one. -/
def marked (isMarked : Bool) (bytes : List UInt8) : List UInt8 := if isMarked then Text.Utf8.mark ++ bytes else bytes

theorem decode_marked {text : List Char} (noMark : text.head? ≠ some '\uFEFF') (isMarked : Bool) :
    Text.Utf8.decode? (Text.Utf8.dropMark (marked isMarked (Text.Utf8.encodeChars text))) = some text := by
  cases isMarked with
  | false =>
      rw [marked, if_neg Bool.false_ne_true, Text.Utf8.dropMark_encodeChars noMark, Text.Utf8.decode?_encodeChars]
  | true => exact Text.Utf8.decode?_encodeChars text

theorem cell_of_writes_nil {cell : List Char} (writes : Writes dialect cell []) : cell = [] := by
  cases writes
  rfl

/-- A heading is written as something that begins with no byte-order mark. -/
theorem exists_of_writes {name : String} (isHeading : IsHeading name) {written : List Char}
    (writes : Writes dialect name.toList written) : ∃ c rest, written = c :: rest ∧ c ≠ '\uFEFF' := by
  cases writes with
  | plain =>
      cases isText : name.toList with
      | nil => exact absurd (String.toList_eq_nil_iff.mp isText) isHeading.isSome
      | cons c rest => exact ⟨c, rest, rfl, (isHeading.before c (by rw [isText]; rfl)).2.2⟩
  | quoted => exact ⟨'"', _, rfl, by decide⟩

theorem exists_intercalate (separator first : List Char) (others : List (List Char)) :
    ∃ more, separator.intercalate (first :: others) = first ++ more := by
  cases others with
  | nil => exact ⟨[], by simp⟩
  | cons second others => exact ⟨_, by rw [List.intercalate_cons_cons, List.append_assoc]⟩

/-- The names and values of a table, with a way to write them. -/
structure IsWritten (dialect : Dialect) (write : List Char → List Char) (names : List String)
    (rows : List (List (Option String))) : Prop where
  isTable : names ≠ []
  distinct : names.Nodup
  areHeadings : ∀ name ∈ names, IsHeading name
  areRows : ∀ row ∈ rows, row.length = names.length
  areSome : ∀ row ∈ rows, ∀ value ∈ row, value ≠ some ""
  writes : ∀ line ∈ cellsOf names rows, ∀ cell ∈ line, Writes dialect cell (write cell)

namespace IsWritten

theorem exists_first (isWritten : IsWritten dialect write names rows) :
    ∃ first others c rest, names = first :: others ∧ write first.toList = c :: rest ∧ c ≠ '\uFEFF' := by
  rcases List.exists_cons_of_ne_nil isWritten.isTable with ⟨first, others, rfl⟩
  have isHeading := isWritten.areHeadings first (.head _)
  rcases exists_of_writes isHeading (isWritten.writes _ (.head _) _ (.head _)) with ⟨c, rest, isFirst, noMark⟩
  exact ⟨first, others, c, rest, rfl, isFirst, noMark⟩

theorem isKept_names (isWritten : IsWritten dialect write names rows) :
    isKept write (names.map String.toList) = true := by
  rcases isWritten.exists_first with ⟨first, others, c, rest, rfl, isFirst, _⟩
  simp [isKept, isFirst]

theorem head?_document (isWritten : IsWritten dialect write names rows) (isClosed : Bool) :
    (document dialect ending isClosed ((cellsOf names rows).map (·.map write))).head? ≠ some '\uFEFF' := by
  rcases isWritten.exists_first with ⟨first, others, c, rest, rfl, isFirst, noMark⟩
  rcases exists_intercalate [dialect.separator] (write first.toList) ((others.map String.toList).map write) with
    ⟨inLine, isLine⟩
  rcases exists_intercalate ending ([dialect.separator].intercalate (((first :: others).map String.toList).map write))
    ((rows.map (·.map cellText)).map fun line => [dialect.separator].intercalate (line.map write)) with ⟨below, isText⟩
  have isDocument : document dialect ending isClosed ((cellsOf (first :: others) rows).map (·.map write)) =
      [dialect.separator].intercalate (((first :: others).map String.toList).map write) ++ below
        ++ if isClosed then ending else [] := by
    rw [← isText, document, cellsOf, List.map_map]
    rfl
  rw [List.map_cons, List.map_cons, isLine, isFirst] at isDocument
  simpa [isDocument] using noMark

end IsWritten

/-- A table is read back from its written rows, but for the rows that are written as empty lines. -/
theorem decode_document (isSound : dialect.IsSound) (isEnding : IsEnding ending) (isClosed isMarked : Bool)
    (isWritten : IsWritten dialect write names rows) :
    Tabular.decode dialect (marked isMarked (Text.Utf8.encodeChars
        (document dialect ending isClosed ((cellsOf names rows).map (·.map write))))) =
      .ok (.solutions (names.map .text)
        ((rows.filter fun row => isKept write (row.map cellText)).map fun row => ⟨keyed (boundIn names row)⟩)) := by
  have areNames : (names.map String.toList).map variableName = names := by
    have each : ∀ name ∈ names, (variableName ∘ String.toList) name = id name :=
      fun name isIn => variableName_of_isHeading (isWritten.areHeadings name isIn)
    rw [List.map_map, List.map_congr_left each, List.map_id]
  have isColumn : names.length ≠ 0 := by simpa using isWritten.isTable
  have areLines : ∀ line ∈ cellsOf names rows, line ≠ [] := by
    refine List.forall_mem_cons.mpr ⟨by simpa using isWritten.isTable, List.forall_mem_map.mpr fun row isIn => ?_⟩
    rw [ne_eq, List.map_eq_nil_iff, ← List.length_eq_zero_iff, isWritten.areRows row isIn]
    exact isColumn
  have areRead := rows?_document isSound isEnding isClosed areLines isWritten.writes
  rw [cellsOf, List.filter_cons_of_pos isWritten.isKept_names, List.filter_map] at areRead
  rw [Tabular.decode, decode_marked (isWritten.head?_document isClosed), cellsOf]
  simp only [areRead, ofRows, areNames]
  rw [solutions_eq_ok]
  · have areSolutions : ∀ row ∈ rows.filter (isKept write ∘ fun row => row.map cellText),
        (solution names ∘ fun row => row.map cellText) row = ⟨keyed (boundIn names row)⟩ := fun row isIn =>
      solution_cells isWritten.distinct (isWritten.areSome row (List.mem_filter.mp isIn).1)
    rw [List.map_map, List.map_congr_left areSolutions]
    rfl
  · refine List.forall_mem_map.mpr fun row isIn => ?_
    rw [List.length_map]
    exact isWritten.areRows row (List.mem_filter.mp isIn).1

theorem isSound_of_format {mediaType : String}
    (isFormat : ResultFormat.ofMediaType? mediaType = some (.tabular dialect)) : dialect.IsSound := by
  unfold ResultFormat.ofMediaType? at isFormat
  split at isFormat
  all_goals
    cases isFormat
    try exact ⟨by decide, by decide⟩

/-! ## Without quotes -/

/-- A text that stands for itself: it has no separator, no quote and no end of a line, and is no longer than a cell
may be. -/
def IsPlain (dialect : Dialect) (text : String) : Prop :=
  (∀ c ∈ text.toList, c ≠ dialect.separator ∧ Reading.isLineEnd c = false ∧ c ≠ '"') ∧ text.toList.length ≤ maxCell

instance (text : String) : Decidable (IsPlain dialect text) :=
  @instDecidableAnd _ _
    (List.decidableBAll (fun c => c ≠ dialect.separator ∧ Reading.isLineEnd c = false ∧ c ≠ '"') text.toList) (Nat.decLe _ _)

theorem isKept_cells (areSome : ∀ value ∈ row, value ≠ some "") :
    isKept id (row.map cellText) = decide (row ≠ [none]) := by
  rw [isKept, List.map_id, decide_eq_decide, not_iff_not]
  constructor
  · intro isNothing
    rcases List.map_eq_singleton_iff.mp isNothing with ⟨value, rfl, isEmpty⟩
    cases value with
    | none => rfl
    | some text => exact absurd (congrArg some (String.toList_eq_nil_iff.mp isEmpty)) (areSome _ (.head _))
  · rintro rfl
    rfl

theorem writes_cellText {value : Option String} (isPlain : ∀ text ∈ value, IsPlain dialect text) :
    Writes dialect (cellText value) (cellText value) := by
  cases value with
  | none => exact .plain (List.forall_mem_nil _) (Nat.zero_le _)
  | some text => exact .plain (isPlain text rfl).1 (isPlain text rfl).2

/-- A table of plain texts comes out of its lines with one solution for each row, but for the rows that bind nothing
in a single column. -/
theorem decode_plainTable
    (isFormat : ResultFormat.ofMediaType? (mediaType contentType) = some (.tabular dialect))
    (isEnding : IsEnding ending) (isClosed : Bool) (isTable : names ≠ []) (distinct : names.Nodup)
    (areHeadings : ∀ name ∈ names, IsHeading name ∧ IsPlain dialect name)
    (areRows : ∀ row ∈ rows, row.length = names.length ∧
      ∀ value ∈ row, ∀ text ∈ value, text ≠ "" ∧ IsPlain dialect text) :
    Results.decode (Text.Utf8.encodeChars (document dialect ending isClosed (cellsOf names rows))) contentType =
        .ok (.solutions (names.map .text)
          ((rows.filter (· ≠ [none])).map fun row => ⟨keyed (boundIn names row)⟩)) ∧
      (1 < names.length → rows.filter (· ≠ [none]) = rows) := by
  have areSome : ∀ row ∈ rows, ∀ value ∈ row, value ≠ some "" := by
    rintro row isRow _ isValue rfl
    exact ((areRows row isRow).2 _ isValue "" rfl).1 rfl
  have isWritten : IsWritten dialect id names rows := {
    isTable, distinct, areSome
    areHeadings := fun name isIn => (areHeadings name isIn).1
    areRows := fun row isIn => (areRows row isIn).1
    writes := by
      simp only [cellsOf, List.forall_mem_cons, List.forall_mem_map]
      exact ⟨fun name isIn => .plain (areHeadings name isIn).2.1 (areHeadings name isIn).2.2,
        fun row isRow value isValue =>
          writes_cellText fun text isText => ((areRows row isRow).2 value isValue text isText).2⟩ }
  have isRead := decode_document (isSound_of_format isFormat) isEnding isClosed false isWritten
  have areKept : ∀ row ∈ rows, isKept id (row.map cellText) = decide (row ≠ [none]) :=
    fun row isRow => isKept_cells (areSome row isRow)
  constructor
  · rw [decode_of_format isFormat, ← List.filter_congr areKept]
    simpa [marked, ResultFormat.decode] using isRead
  · intro isWide
    refine List.filter_eq_self.mpr fun row isRow => ?_
    have isLong := (areRows row isRow).1
    rw [decide_eq_true_iff]
    rintro rfl
    rw [← isLong] at isWide
    exact absurd isWide (by decide)

theorem isFormat_tabs :
    ResultFormat.ofMediaType? (mediaType (some "Text/Tab-Separated-Values; charset=utf-8")) = some (.tabular tabs) := by
  decide +kernel

theorem isFormat_commas : ResultFormat.ofMediaType? (mediaType (some "text/csv")) = some (.tabular commas) := by
  decide +kernel

/-- A table with a row that binds nothing and one that binds the second variable, whose last line has no end. -/
theorem decode_sparseTable :
    Results.decode (Text.Utf8.encodeChars "s\tfull name\r\na\tAda  L.\r\n\t\r\n\tBob".toList)
        (some "Text/Tab-Separated-Values; charset=utf-8") =
      .ok (.solutions [.text "s", .text "full name"] [
        ⟨[(.text "s", .literal (.plain "a")), (.text "full name", .literal (.plain "Ada  L."))]⟩, ⟨[]⟩,
        ⟨[(.text "full name", .literal (.plain "Bob"))]⟩]) := by
  have areHeadings : ∀ name ∈ ["s", "full name"], IsHeading name ∧ IsPlain tabs name := by decide
  have areRows : ∀ row ∈ [[some "a", some "Ada  L."], [none, none], [none, some "Bob"]], row.length = 2 ∧
      ∀ value ∈ row, ∀ text ∈ value, text ≠ "" ∧ IsPlain tabs text := by
    decide
  exact (decode_plainTable isFormat_tabs (.inr rfl) false (by decide) (by decide) areHeadings areRows).1

/-- A row that binds nothing in a single column is lost. -/
theorem decode_unboundColumn :
    let names := ["x"]
    let rows := [[some "a"], [none], [some "b"]]
    Results.decode (Text.Utf8.encodeChars (document commas ['\r', '\n'] true (cellsOf names rows))) (some "text/csv") =
      .ok (.solutions [.text "x"] [
        ⟨[(.text "x", .literal (.plain "a"))]⟩, ⟨[(.text "x", .literal (.plain "b"))]⟩]) := by
  intro names rows
  have isWritten : IsWritten commas id names rows := {
    isTable := by decide
    distinct := by decide
    areHeadings := by decide
    areRows := by decide
    areSome := by decide
    writes := by
      have arePlainNames : ∀ name ∈ names, IsPlain commas name := by decide
      have arePlain : ∀ row ∈ rows, ∀ value ∈ row, ∀ text ∈ value, IsPlain commas text := by decide
      simp only [cellsOf, List.forall_mem_cons, List.forall_mem_map]
      exact ⟨fun name isIn => .plain (arePlainNames name isIn).1 (arePlainNames name isIn).2,
        fun row isRow value isValue => writes_cellText (arePlain row isRow value isValue)⟩ }
  rw [decode_of_format isFormat_commas]
  exact decode_document ⟨by decide, by decide⟩ (.inr rfl) true false isWritten

/-! ## With quotes -/

/-- A cell as RFC 4180 has it: between quotes if it has a comma, a quote or an end of a line. -/
def enclosed (cell : List Char) : List Char :=
  if cell.any fun c => c = ',' || c = '"' || Reading.isLineEnd c then '"' :: doubled cell ++ ['"'] else cell

theorem writes_enclosed {cell : List Char} (fits : cell.length ≤ maxCell) : Writes commas cell (enclosed cell) := by
  unfold enclosed
  split
  · exact .quoted rfl fits
  · rename_i isPlain
    refine .plain (fun c isIn => ?_) fits
    simp only [List.any_eq_true, not_exists, not_and, Bool.not_eq_true, Bool.or_eq_false_iff,
      decide_eq_false_iff_not] at isPlain
    have isOrdinary := isPlain c isIn
    exact ⟨isOrdinary.1.1, isOrdinary.2, isOrdinary.1.2⟩

/-- A row of texts is written as something. -/
theorem isKept_enclosed {row : List String} (isRow : row ≠ [])
    (areTexts : ∀ text ∈ row, text ≠ "" ∧ text.toList.length ≤ maxCell) :
    isKept enclosed ((row.map some).map cellText) = true := by
  rcases List.exists_cons_of_ne_nil isRow with ⟨text, others, rfl⟩
  rcases areTexts text (.head _) with ⟨isSome, fits⟩
  rw [isKept, decide_eq_true_iff]
  intro isNothing
  have isEmpty : enclosed text.toList = [] := (List.cons.inj isNothing).1
  have writes := writes_enclosed fits
  rw [isEmpty] at writes
  exact isSome (String.toList_eq_nil_iff.mp (cell_of_writes_nil writes))

theorem boundIn_texts (names row : List String) :
    boundIn names (row.map some) = (names.zip row).map fun (name, text) => (name, .literal (.plain text)) := by
  rw [boundIn, List.zip_map_right, List.filterMap_map, ← List.filterMap_eq_map]
  rfl

/-- A table of texts of any kind comes out of its quoted lines as it went in. -/
theorem decode_quotedTable {rows : List (List String)}
    (isFormat : ResultFormat.ofMediaType? (mediaType contentType) = some (.tabular commas))
    (isTable : names ≠ []) (distinct : names.Nodup)
    (areHeadings : ∀ name ∈ names, IsHeading name ∧ name.toList.length ≤ maxCell)
    (areRows : ∀ row ∈ rows, row.length = names.length ∧ ∀ text ∈ row, text ≠ "" ∧ text.toList.length ≤ maxCell)
    (isMarked : Bool) :
    Results.decode (marked isMarked (Text.Utf8.encodeChars (document commas ['\r', '\n'] true
        ((names :: rows).map (·.map fun text => enclosed text.toList))))) contentType =
      .ok (.solutions (names.map .text) (rows.map fun row =>
        ⟨(names.zip row).map fun (name, text) => (.text name, .literal (.plain text))⟩)) := by
  have isWritten : IsWritten commas enclosed names (rows.map (·.map some)) := {
    isTable, distinct
    areHeadings := fun name isIn => (areHeadings name isIn).1
    areRows := List.forall_mem_map.mpr fun row isIn => by rw [List.length_map, (areRows row isIn).1]
    areSome := List.forall_mem_map.mpr fun row isRow => List.forall_mem_map.mpr fun text isText => by
      simpa using ((areRows row isRow).2 text isText).1
    writes := by
      simp only [cellsOf, List.forall_mem_cons, List.forall_mem_map]
      exact ⟨fun name isIn => writes_enclosed (areHeadings name isIn).2,
        fun row isRow text isText => writes_enclosed ((areRows row isRow).2 text isText).2⟩ }
  have areKept : ∀ row ∈ rows.map (·.map some), isKept enclosed (row.map cellText) = true := by
    refine List.forall_mem_map.mpr fun row isIn => ?_
    have isColumn : names.length ≠ 0 := by simpa using isTable
    rw [← (areRows row isIn).1] at isColumn
    exact isKept_enclosed (by simpa using isColumn) (areRows row isIn).2
  have isRead := decode_document (isSound_of_format isFormat) (.inr rfl) true isMarked isWritten
  rw [List.filter_eq_self.mpr areKept] at isRead
  have areCells : (cellsOf names (rows.map (·.map some))).map (·.map enclosed) =
      (names :: rows).map (·.map fun text => enclosed text.toList) := by
    simp [cellsOf, cellText, Function.comp_def]
  have areSolutions : (rows.map (·.map some)).map (fun row => Solution.mk (keyed (boundIn names row))) =
      rows.map fun row => ⟨(names.zip row).map fun (name, text) => (.text name, .literal (.plain text))⟩ := by
    simp [boundIn_texts, keyed, Function.comp_def]
  rw [decode_of_format isFormat, ← areCells, ← areSolutions]
  exact isRead

/-- A table behind a byte-order mark, with separators, quotes, ends of lines and blanks in its cells. -/
theorem decode_quotedLines :
    Results.decode (marked true (Text.Utf8.encodeChars
        "\"a,b\",\"say \"\"x\"\"\"\r\n\" one\r\ntwo\n\",\"\"\"\"\r\n?c, d \r\n".toList)) (some "text/csv") =
      .ok (.solutions [.text "a,b", .text "say \"x\""] [
        ⟨[(.text "a,b", .literal (.plain " one\r\ntwo\n")), (.text "say \"x\"", .literal (.plain "\""))]⟩,
        ⟨[(.text "a,b", .literal (.plain "?c")), (.text "say \"x\"", .literal (.plain " d "))]⟩]) := by
  have areHeadings : ∀ name ∈ ["a,b", "say \"x\""], IsHeading name ∧ name.toList.length ≤ maxCell := by
    decide
  have areRows : ∀ row ∈ [[" one\r\ntwo\n", "\""], ["?c", " d "]], row.length = 2 ∧
      ∀ text ∈ row, text ≠ "" ∧ text.toList.length ≤ maxCell := by
    decide
  exact decode_quotedTable isFormat_commas (by decide) (by decide) areHeadings areRows true

end Sparql.Results.Tabular
