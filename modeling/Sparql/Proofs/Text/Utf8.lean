import Sparql.Text.Utf8

/-!
# Reading UTF-8 back

The bytes of a text are read as the text itself. One lemma for each length of a sequence says what its first
bytes are read as; the ranges that a second byte is confined to are those of characters.
-/

namespace Sparql.Text.Utf8

variable {a b c d : Nat} {rest : List UInt8}

theorem toNat_ofNat_of_lt (isByte : a < 256) : (UInt8.ofNat a).toNat = a := by
  simp [Nat.mod_eq_of_lt isByte]

/-! ## Sequences of bytes -/

theorem lead_one (isFirst : a < 128) : lead (.ofNat a) rest = .char a rest := by
  have first : (UInt8.ofNat a).toNat = a := toNat_ofNat_of_lt (by omega)
  have isAscii : UInt8.ofNat a < 0x80 := UInt8.lt_iff_toNat_lt.mpr (by rw [first]; simpa using isFirst)
  rw [lead, if_pos isAscii, first]

theorem lead_two (isFirst : 194 ≤ a ∧ a ≤ 223) (isSecond : 128 ≤ b ∧ b ≤ 191) :
    lead (.ofNat a) (.ofNat b :: rest) = .char (a % 32 * 64 + b % 64) rest := by
  have first : (UInt8.ofNat a).toNat = a := toNat_ofNat_of_lt (by omega)
  have second : (UInt8.ofNat b).toNat = b := toNat_ofNat_of_lt (by omega)
  have notAscii : ¬ a < 128 := by omega
  simp [lead, secondRange?, payload, UInt8.lt_iff_toNat_lt, UInt8.le_iff_toNat_le, -UInt8.toNat_ofNat',
    first, second, isFirst, isSecond, notAscii]

/-- Of three bytes the second is confined behind two first bytes: to the shortest form, and to what is no half
of a pair. -/
theorem lead_three (isFirst : 224 ≤ a ∧ a ≤ 239) (isSecond : 128 ≤ b ∧ b ≤ 191) (isThird : 128 ≤ c ∧ c ≤ 191)
    (isShortest : a = 224 → 160 ≤ b) (notHalf : a = 237 → b ≤ 159) :
    lead (.ofNat a) (.ofNat b :: .ofNat c :: rest) = .char ((a % 16 * 64 + b % 64) * 64 + c % 64) rest := by
  have first : (UInt8.ofNat a).toNat = a := toNat_ofNat_of_lt (by omega)
  have second : (UInt8.ofNat b).toNat = b := toNat_ofNat_of_lt (by omega)
  have third : (UInt8.ofNat c).toNat = c := toNat_ofNat_of_lt (by omega)
  have notAscii : ¬ a < 128 := by omega
  simp [lead, secondRange?, isContinuation, payload, UInt8.lt_iff_toNat_lt, UInt8.le_iff_toNat_le,
    ← UInt8.toNat_inj, -UInt8.toNat_ofNat', first, second, third, notAscii]
  grind

/-- Of four bytes the second is confined to the shortest form and to the last plane. -/
theorem lead_four (isFirst : 240 ≤ a ∧ a ≤ 244) (isSecond : 128 ≤ b ∧ b ≤ 191) (isThird : 128 ≤ c ∧ c ≤ 191)
    (isFourth : 128 ≤ d ∧ d ≤ 191) (isShortest : a = 240 → 144 ≤ b) (notBeyond : a = 244 → b ≤ 143) :
    lead (.ofNat a) (.ofNat b :: .ofNat c :: .ofNat d :: rest) =
      .char (((a % 8 * 64 + b % 64) * 64 + c % 64) * 64 + d % 64) rest := by
  have first : (UInt8.ofNat a).toNat = a := toNat_ofNat_of_lt (by omega)
  have second : (UInt8.ofNat b).toNat = b := toNat_ofNat_of_lt (by omega)
  have third : (UInt8.ofNat c).toNat = c := toNat_ofNat_of_lt (by omega)
  have fourth : (UInt8.ofNat d).toNat = d := toNat_ofNat_of_lt (by omega)
  have notAscii : ¬ a < 128 := by omega
  simp [lead, secondRange?, isContinuation, payload, UInt8.lt_iff_toNat_lt, UInt8.le_iff_toNat_le,
    ← UInt8.toNat_inj, -UInt8.toNat_ofNat', first, second, third, fourth, notAscii]
  grind

/-! ## Texts -/

/-- The bytes of a character are read as the character. -/
theorem lead_encodeChar (char : Char) (rest : List UInt8) :
    ∃ first others, String.utf8EncodeChar char = first :: others ∧
      lead first (others ++ rest) = .char char.toNat rest := by
  have valid : char.toNat < 0xD800 ∨ 0xDFFF < char.toNat ∧ char.toNat < 0x110000 := char.valid
  unfold String.utf8EncodeChar
  simp only [show char.val.toNat = char.toNat from rfl]
  generalize char.toNat = code at valid
  split
  · exact ⟨_, _, rfl, lead_one (by omega)⟩
  split
  · refine ⟨_, _, rfl, (lead_two ?_ ?_).trans ?_⟩ <;> try omega
    congr 1; omega
  split
  · refine ⟨_, _, rfl, (lead_three ?_ ?_ ?_ ?_ ?_).trans ?_⟩ <;> try omega
    congr 1; omega
  · refine ⟨_, _, rfl, (lead_four ?_ ?_ ?_ ?_ ?_ ?_).trans ?_⟩ <;> try omega
    congr 1; omega

theorem decodeOnto_encodeChars (read text : List Char) :
    decodeOnto read (encodeChars text) = some (read.reverse ++ text) := by
  induction text generalizing read with
  | nil => simp [encodeChars, decodeOnto]
  | cons char text ih =>
      rcases lead_encodeChar char (encodeChars text) with ⟨first, others, isEncoded, isLead⟩
      have isBytes : encodeChars (char :: text) = first :: (others ++ encodeChars text) := by
        rw [encodeChars, List.flatMap_cons, isEncoded]
        rfl
      rw [isBytes, decodeOnto]
      split
      · rename_i broken
        cases isLead.symm.trans broken
      · rename_i code remaining isChar
        cases isLead.symm.trans isChar
        rw [Char.ofNat_toNat, ih]
        simp

/-- What is written is read back. -/
theorem decode?_encodeChars (text : List Char) : decode? (encodeChars text) = some text := by
  rw [decode?, decodeOnto_encodeChars]
  rfl

/-- The lossy reader loses nothing of what is well formed. -/
theorem decodeLossyOnto_of_decodeOnto {read text : List Char} {bytes : List UInt8}
    (wellFormed : decodeOnto read bytes = some text) : decodeLossyOnto read bytes = text := by
  induction read, bytes using decodeOnto.induct with
  | case1 read =>
      rw [decodeOnto] at wellFormed
      rw [decodeLossyOnto]
      exact Option.some.inj wellFormed
  | case2 read first rest remaining isBroken =>
      rw [decodeOnto] at wellFormed
      split at wellFormed
      · cases wellFormed
      · rename_i isChar
        cases isBroken.symm.trans isChar
  | case3 read first rest code remaining isChar ih =>
      rw [decodeOnto] at wellFormed
      rw [decodeLossyOnto]
      split at wellFormed
      · cases wellFormed
      · rename_i same
        cases isChar.symm.trans same
        exact ih wellFormed

theorem decodeLossy_encodeChars (text : List Char) : decodeLossy (encodeChars text) = text :=
  decodeLossyOnto_of_decodeOnto (decode?_encodeChars text)

/-! ## Byte-order marks -/

/-- The bytes of a byte-order mark. -/
def mark : List UInt8 := [0xEF, 0xBB, 0xBF]

/-- Only a byte-order mark is dropped. -/
theorem dropMark_encodeChars {text : List Char} (noMark : text.head? ≠ some '\uFEFF') :
    dropMark (encodeChars text) = encodeChars text := by
  unfold dropMark
  split
  · rename_i rest isMark
    cases text with
    | nil => cases isMark
    | cons char text =>
        rcases lead_encodeChar char (encodeChars text) with ⟨first, others, isEncoded, isLead⟩
        rw [encodeChars, List.flatMap_cons, isEncoded, List.cons_append, List.cons.injEq] at isMark
        rw [show others ++ encodeChars text = 0xBB :: 0xBF :: rest from isMark.2, isMark.1] at isLead
        have isCode : lead 0xEF (0xBB :: 0xBF :: rest) = .char 0xFEFF rest := rfl
        have same : char.toNat = 0xFEFF := (Lead.char.inj (isLead.symm.trans isCode)).1
        have isMarkChar : char = '\uFEFF' := by rw [← Char.ofNat_toNat char, same]
        exact absurd (congrArg some isMarkChar) noMark
  · rfl

end Sparql.Text.Utf8
