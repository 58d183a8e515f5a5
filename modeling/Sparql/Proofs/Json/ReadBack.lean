import Sparql.Json.Document
import Sparql.Json.Writer

/-!
# Reading JSON back

The text that is written for a value is cut into the tokens of the value, whatever follows it, and these are
read as the value, wherever it stands in a document. Both are shown for texts, and for lists and mappings of
what can be read back.
-/

namespace Sparql.Json

open Sparql.Text

/-! ## Cutting -/

/-- A text that is cut into some tokens, whatever stands around it. -/
def Spells (text : List Char) (tokens : List Token) : Prop :=
  ∀ read rest, tokensFrom read .between (text ++ rest) = tokensFrom (tokens.reverse ++ read) .between rest

theorem Spells.append {first second : List Char} {tokens others : List Token} (spells : Spells first tokens)
    (spellsToo : Spells second others) : Spells (first ++ second) (tokens ++ others) := by
  intro read rest
  rw [List.append_assoc, spells, spellsToo, List.reverse_append, List.append_assoc]

/-- A character that is a token of its own. -/
theorem spells_mark {c : Char} {token : Token} (isMark : start c = ([token], .between)) :
    Spells [c] [token] := by
  intro read rest
  simp [tokensFrom, step, isMark]

/-- The code units of characters are joined into the characters. -/
theorem joinUnits_toNat (chars : List Char) : joinUnits (chars.map Char.toNat) = chars := by
  induction chars with
  | nil => rfl
  | cons c rest ih =>
      have valid : c.toNat < 0xD800 ∨ 0xDFFF < c.toNat ∧ c.toNat < 0x110000 := c.valid
      have notHalf : ¬ (0xD800 ≤ c.toNat ∧ c.toNat < 0xE000) := by omega
      have notHigh : ¬ (0xD800 ≤ c.toNat ∧ c.toNat < 0xDC00) := by omega
      have notLow : ¬ (0xDC00 ≤ c.toNat ∧ c.toNat < 0xE000) := by omega
      cases rest with
      | nil => simp [joinUnits, notHalf]
      | cons next rest =>
          rw [List.map_cons, List.map_cons, joinUnits, if_neg notHigh, if_neg notLow, Char.ofNat_toNat]
          rw [List.map_cons] at ih
          rw [ih]

theorem hexValue?_hexLower : ∀ value < 16, hexValue? (hexLower value) = some value := by decide

/-- Four digits of an escape are read as the code that they write. -/
theorem tokensFrom_hexDigits (read : List Token) (units : List Nat) {code : Nat} (isShort : code < 65536)
    (rest : List Char) :
    tokensFrom read (.unit units 3 0) (hexDigits 4 code ++ rest) =
      tokensFrom read (.text (code :: units)) rest := by
  have digit : ∀ value, hexValue? (hexLower (value % 16)) = some (value % 16) :=
    fun value => hexValue?_hexLower _ (Nat.mod_lt _ (by decide))
  have isCode : (((0 * 16 + code / 16 / 16 / 16 % 16) * 16 + code / 16 / 16 % 16) * 16 + code / 16 % 16) * 16
      + code % 16 = code := by omega
  simp only [hexDigits, List.nil_append, List.cons_append, tokensFrom, step, digit, List.reverse_nil, isCode]

/-- A character inside a text is read as its code, escaped or not. -/
theorem tokensFrom_escapeChar (read : List Token) (units : List Nat) (c : Char) (rest : List Char) :
    tokensFrom read (.text units) (escapeChar c ++ rest) = tokensFrom read (.text (c.toNat :: units)) rest := by
  unfold escapeChar
  split
  · rename_i isQuote
    subst isQuote
    rfl
  split
  · rename_i isBackslash
    subst isBackslash
    rfl
  split
  · have isEscape : tokensFrom read (.text units) (('\\' :: 'u' :: hexDigits 4 c.toNat) ++ rest) =
        tokensFrom read (.unit units 3 0) (hexDigits 4 c.toNat ++ rest) := by
      simp [tokensFrom, step]
    rw [isEscape, tokensFrom_hexDigits read units (by omega)]
  · rename_i notQuote notBackslash notControl
    simp [tokensFrom, step, notQuote, notBackslash, notControl]

theorem tokensFrom_escaped (read : List Token) (units : List Nat) (text rest : List Char) :
    tokensFrom read (.text units) (text.flatMap escapeChar ++ rest) =
      tokensFrom read (.text ((text.map Char.toNat).reverse ++ units)) rest := by
  induction text generalizing units with
  | nil => rfl
  | cons c text ih =>
      rw [List.flatMap_cons, List.append_assoc, tokensFrom_escapeChar, ih]
      simp

/-- A text between quotes is one token. -/
theorem spells_quoteText (text : String) : Spells (quoteText text.toList) [.text text] := by
  intro read rest
  have opened : tokensFrom read .between (quoteText text.toList ++ rest) =
      tokensFrom read (.text []) (text.toList.flatMap escapeChar ++ '"' :: rest) := by
    simp [quoteText, tokensFrom, step, start, isSpace]
  rw [opened, tokensFrom_escaped]
  simp [tokensFrom, step, joinUnits_toNat]

/-! ## Reading -/

/-- Tokens that are read as a value wherever one may stand, with some more levels below it. -/
def Means (tokens : List Token) (value : Value) (height : Nat) : Prop :=
  ∀ stack orEnd rest, stack.length + height ≤ Progress.deepest →
    Progress.run ⟨stack, .value orEnd⟩ (tokens ++ rest) = Progress.run ⟨stack, .after value⟩ rest

/-- A value whose text is read back, with some levels of lists and mappings. -/
def IsReadBack (value : Value) (height : Nat) : Prop :=
  ∃ tokens, Spells (write value) tokens ∧ Means tokens value height

theorem IsReadBack.parse {value : Value} {height : Nat} (isReadBack : IsReadBack value height)
    (fits : height ≤ Progress.deepest) : parse (write value) = .ok value := by
  rcases isReadBack with ⟨listed, spells, means⟩
  have cut := spells [] []
  have read := means [] false [] (by simpa using fits)
  rw [List.append_nil] at cut read
  rw [Json.parse, tokens, cut]
  simpa [tokensFrom, finish, Progress.run] using read

theorem IsReadBack.mono {value : Value} {height more : Nat} (isReadBack : IsReadBack value height)
    (isMore : height ≤ more) : IsReadBack value more := by
  rcases isReadBack with ⟨tokens, spells, means⟩
  exact ⟨tokens, spells, fun stack orEnd rest fits => means stack orEnd rest (by omega)⟩

theorem isReadBack_text (text : String) : IsReadBack (.text text) 0 :=
  ⟨[.text text], spells_quoteText text, fun _ _ _ _ => rfl⟩

/-! ## Lists -/

/-- The items of a list from some place on, and its end. -/
theorem exists_items {items : List Value} {height : Nat} (notEmpty : items ≠ [])
    (each : ∀ item ∈ items, IsReadBack item height) :
    ∃ tokens, Spells (writeItems items) tokens ∧ ∀ done stack orEnd rest,
      stack.length + 1 + height ≤ Progress.deepest →
      Progress.run ⟨.list done :: stack, .value orEnd⟩ (tokens ++ rest) =
        Progress.run ⟨stack, .after (.list (done.reverse ++ items))⟩ rest := by
  induction items with
  | nil => exact absurd rfl notEmpty
  | cons item others ih =>
      rcases each item (.head _) with ⟨tokens, spells, means⟩
      have isItem : ∀ done stack orEnd rest, stack.length + 1 + height ≤ Progress.deepest →
          Progress.run ⟨.list done :: stack, .value orEnd⟩ (tokens ++ rest) =
            Progress.run ⟨.list done :: stack, .after item⟩ rest :=
        fun done stack orEnd rest fits => means (.list done :: stack) orEnd rest (by simpa using fits)
      cases others with
      | nil =>
          refine ⟨tokens ++ [.closeList], ?_, fun done stack orEnd rest fits => ?_⟩
          · exact spells.append (spells_mark rfl)
          · rw [List.append_assoc, isItem done stack orEnd _ fits]
            simp [Progress.run, Progress.refusal?, Progress.step, Progress.continueAfter]
      | cons next others =>
          rcases ih (by simp) fun other mem => each other (.tail _ mem) with ⟨more, spellsMore, isMore⟩
          refine ⟨tokens ++ ([.comma] ++ more), ?_, fun done stack orEnd rest fits => ?_⟩
          · exact spells.append ((spells_mark rfl).append spellsMore)
          · rw [List.append_assoc, isItem done stack orEnd _ fits]
            have continued := isMore (item :: done) stack false rest fits
            simpa [Progress.run, Progress.refusal?, Progress.step, Progress.continueAfter] using continued

theorem isReadBack_list {items : List Value} {height : Nat} (each : ∀ item ∈ items, IsReadBack item height) :
    IsReadBack (.list items) (height + 1) := by
  cases items with
  | nil =>
      refine ⟨[.openList, .closeList], (spells_mark rfl).append (spells_mark rfl),
        fun stack orEnd rest fits => ?_⟩
      have shallow : ¬ Progress.deepest ≤ stack.length := by omega
      simp [Progress.run, Progress.refusal?, Progress.step, Progress.beginValue, shallow]
  | cons item others =>
      rcases exists_items (by simp) each with ⟨tokens, spells, isList⟩
      refine ⟨.openList :: tokens, (spells_mark rfl).append spells, fun stack orEnd rest fits => ?_⟩
      have shallow : ¬ Progress.deepest ≤ stack.length := by omega
      have read := isList [] stack true rest (by omega)
      simpa [Progress.run, Progress.refusal?, Progress.step, Progress.beginValue, shallow] using read

/-! ## Mappings -/

/-- The members of a mapping with textual names. -/
def named (entries : List (String × Value)) : List (Value × Value) :=
  entries.map fun (name, value) => (.text name, value)

/-- A new name comes after those that are there. -/
theorem insertEntry_of_notMem {name : String} {value : Value} {entries : List (String × Value)}
    (isNew : name ∉ entries.map Prod.fst) :
    Value.insertEntry (.text name) value (named entries) = named (entries ++ [(name, value)]) := by
  induction entries with
  | nil => rfl
  | cons entry rest ih =>
      rcases entry with ⟨other, given⟩
      simp only [List.map_cons, List.mem_cons, not_or] at isNew
      have different : Value.sameKey (.text other) (.text name) = false := by
        simpa [Value.sameKey] using Ne.symm isNew.1
      have isFirst : named ((other, given) :: rest) = (.text other, given) :: named rest := rfl
      rw [isFirst, Value.insertEntry, if_neg (by simp [different]), ih isNew.2]
      rfl

theorem spells_entry {name : String} {value : Value} {tokens : List Token} (spells : Spells (write value) tokens) :
    Spells (quoteText name.toList ++ ':' :: write value) ([.text name, .colon] ++ tokens) := by
  simpa using (spells_quoteText name).append ((spells_mark (c := ':') rfl).append spells)

/-- A member is read as its name and its value, with the mapping so far kept below it. -/
theorem run_entry {name : String} {value : Value} {tokens : List Token} {height : Nat}
    (means : Means tokens value height) (done : List (String × Value)) (stack : List Frame) (orEnd : Bool)
    (rest : List Token) (fits : stack.length + 1 + height ≤ Progress.deepest) :
    Progress.run ⟨stack, .name (named done) orEnd⟩ ([.text name, .colon] ++ (tokens ++ rest)) =
      Progress.run ⟨.map (named done) name :: stack, .after value⟩ rest := by
  have read := means (.map (named done) name :: stack) false rest (by simpa using fits)
  simpa [Progress.run, Progress.refusal?, Progress.step] using read

/-- The members of a mapping from some place on, and its end. -/
theorem exists_entries {entries : List (String × Value)} {height : Nat} (notEmpty : entries ≠ [])
    (each : ∀ entry ∈ entries, IsReadBack entry.2 height) :
    ∃ tokens, Spells (writeEntries (named entries)) tokens ∧ ∀ done stack orEnd rest,
      stack.length + 1 + height ≤ Progress.deepest → ((done ++ entries).map Prod.fst).Nodup →
      Progress.run ⟨stack, .name (named done) orEnd⟩ (tokens ++ rest) =
        Progress.run ⟨stack, .after (.map (named (done ++ entries)))⟩ rest := by
  induction entries with
  | nil => exact absurd rfl notEmpty
  | cons entry others ih =>
      rcases entry with ⟨name, value⟩
      rcases each _ (.head _) with ⟨tokens, spells, means⟩
      have isNew : ∀ done, ((done ++ (name, value) :: others).map Prod.fst).Nodup →
          name ∉ done.map Prod.fst := by
        intro done distinct mem
        rw [List.map_append, List.nodup_append] at distinct
        exact distinct.2.2 name mem name (.head _) rfl
      cases others with
      | nil =>
          refine ⟨[.text name, .colon] ++ tokens ++ [.closeMap], ?_, fun done stack orEnd rest fits distinct => ?_⟩
          · have written : writeEntries (named [(name, value)]) =
                (quoteText name.toList ++ ':' :: write value) ++ ['\x7d'] := by
              simp [named, writeEntries, Value.toText]
            rw [written]
            exact (spells_entry spells).append (spells_mark rfl)
          · rw [List.append_assoc, List.append_assoc, run_entry means done stack orEnd _ fits]
            simp [Progress.run, Progress.refusal?, Progress.step, Progress.continueAfter,
              insertEntry_of_notMem (isNew done distinct)]
      | cons next others =>
          rcases ih (by simp) fun other mem => each other (.tail _ mem) with ⟨more, spellsMore, isMore⟩
          refine ⟨[.text name, .colon] ++ tokens ++ ([.comma] ++ more), ?_,
            fun done stack orEnd rest fits distinct => ?_⟩
          · have written : writeEntries (named ((name, value) :: next :: others)) =
                (quoteText name.toList ++ ':' :: write value) ++
                  ([','] ++ writeEntries (named (next :: others))) := by
              simp [named, writeEntries, Value.toText]
            rw [written]
            exact (spells_entry spells).append ((spells_mark rfl).append spellsMore)
          · rw [List.append_assoc, List.append_assoc, run_entry means done stack orEnd _ fits]
            -- The members behind this one are read after it, so the mapping so far is longer by it.
            have continued := isMore (done ++ [(name, value)]) stack false rest fits (by simpa using distinct)
            simpa [Progress.run, Progress.refusal?, Progress.step, Progress.continueAfter,
              insertEntry_of_notMem (isNew done distinct)] using continued

theorem isReadBack_map {entries : List (String × Value)} {height : Nat}
    (each : ∀ entry ∈ entries, IsReadBack entry.2 height) (distinct : (entries.map Prod.fst).Nodup) :
    IsReadBack (.map (named entries)) (height + 1) := by
  cases entries with
  | nil =>
      refine ⟨[.openMap, .closeMap], (spells_mark rfl).append (spells_mark rfl),
        fun stack orEnd rest fits => ?_⟩
      have shallow : ¬ Progress.deepest ≤ stack.length := by omega
      simp [Progress.run, Progress.refusal?, Progress.step, Progress.beginValue, shallow, named]
  | cons entry others =>
      rcases exists_entries (by simp) each with ⟨tokens, spells, isMap⟩
      refine ⟨.openMap :: tokens, (spells_mark rfl).append spells, fun stack orEnd rest fits => ?_⟩
      have shallow : ¬ Progress.deepest ≤ stack.length := by omega
      have read : Progress.run ⟨stack, .name [] true⟩ (tokens ++ rest) =
          Progress.run ⟨stack, .after (.map (named (entry :: others)))⟩ rest :=
        isMap [] stack true rest (by omega) distinct
      simpa [Progress.run, Progress.refusal?, Progress.step, Progress.beginValue, shallow] using read

end Sparql.Json
