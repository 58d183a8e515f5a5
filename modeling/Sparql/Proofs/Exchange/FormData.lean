import Sparql.Exchange.Request
import Sparql.Proofs.Text.Utf8

/-!
# Reading form data back

A reader of form data, and that it reads every list of parameters as it was written. An escaped byte is read
before any rest, so that an escaped text is; what separates parameters, and a name from its value, never
stands in an escaped text.
-/

namespace Sparql.FormData

open Sparql.Text

/-! ## The reader -/

/-- The bytes that an escaped text stands for. A percent sign without two digits behind it stands for itself. -/
def unescape : List Char → List UInt8
  | [] => []
  | '+' :: rest => 32 :: unescape rest
  | '%' :: high :: low :: rest =>
    match hexValue? high, hexValue? low with
    | some h, some l => .ofNat (h * 16 + l) :: unescape rest
    | _, _ => 37 :: unescape (high :: low :: rest)
  | char :: rest => String.utf8EncodeChar char ++ unescape rest

/-- The text that an escaped text stands for. -/
def read (text : List Char) : String := String.ofList (Utf8.decodeLossy (unescape text))

/-- One parameter: its name stands before the first equals sign, its value behind it. -/
def readParameter (text : List Char) : String × String :=
  (read (text.takeWhile (· ≠ '=')), read ((text.dropWhile (· ≠ '=')).drop 1))

/-- All parameters. What is empty between two ampersands is none. -/
def decode (text : List Char) : List (String × String) :=
  ((text.splitOn '&').filter (!·.isEmpty)).map readParameter

/-- Behind an ampersand the reader starts afresh. -/
theorem decode_append (first second : List Char) :
    decode (first ++ '&' :: second) = decode first ++ decode second := by
  rw [decode, List.splitOn_append_cons_self, List.filter_append, List.map_append]
  rfl

/-! ## Escaped texts -/

/-- A character that an escaped text can have. -/
def isFormChar (char : Char) : Bool :=
  isUnreserved (.ofNat char.toNat) && char.toNat < 128 || char == '+' || char == '%'

theorem hexValue?_hexUpper : ∀ value < 16, hexValue? (hexUpper value) = some value := by decide

theorem isFormChar_hexUpper : ∀ value < 16, isFormChar (hexUpper value) = true := by decide

/-- A byte that stands for itself is that of an ASCII character, and of none that the reader takes for more. -/
theorem code_of_isUnreserved {byte : UInt8} (unreserved : isUnreserved byte) :
    byte.toNat < 128 ∧ byte.toNat ≠ 43 ∧ byte.toNat ≠ 37 := by
  simp only [isUnreserved, Bool.or_eq_true, Bool.and_eq_true, decide_eq_true_eq, beq_iff_eq] at unreserved
  omega

theorem toNat_ofNat_of_unreserved {byte : UInt8} (unreserved : isUnreserved byte) :
    (Char.ofNat byte.toNat).toNat = byte.toNat := by
  have below := code_of_isUnreserved unreserved
  rw [Char.ofNat, dif_pos (.inl (by omega))]
  rfl

theorem isFormChar_escapeByte {byte : UInt8} : ∀ char ∈ escapeByte byte, isFormChar char := by
  unfold escapeByte
  split
  · next unreserved =>
      have isCode := toNat_ofNat_of_unreserved unreserved
      have below := (code_of_isUnreserved unreserved).1
      simp [isFormChar, isCode, unreserved, below]
  split
  · simpa using (by decide : isFormChar '+')
  · have high := isFormChar_hexUpper (byte.toNat / 16) (by have := byte.toNat_lt; omega)
    have low := isFormChar_hexUpper (byte.toNat % 16) (Nat.mod_lt _ (by decide))
    have sign : isFormChar '%' := by decide
    simp [high, low, sign]

theorem isFormChar_escape {text : List Char} : ∀ char ∈ escape text, isFormChar char := by
  intro char mem
  rcases List.mem_flatMap.mp mem with ⟨byte, _, isEscaped⟩
  exact isFormChar_escapeByte char isEscaped

theorem code_of_isFormChar {char : Char} (isForm : isFormChar char) :
    37 ≤ char.toNat ∧ char.toNat < 127 ∧ char.toNat ≠ 62 := by
  simp only [isFormChar, Bool.or_eq_true, Bool.and_eq_true, decide_eq_true_eq, beq_iff_eq] at isForm
  rcases isForm with (⟨unreserved, below⟩ | rfl) | rfl
  · have isCode : (UInt8.ofNat char.toNat).toNat = char.toNat := Utf8.toNat_ofNat_of_lt (by omega)
    simp only [isUnreserved, isCode, Bool.or_eq_true, Bool.and_eq_true, decide_eq_true_eq,
      beq_iff_eq] at unreserved
    omega
  · decide
  · decide

/-- An escaped byte is read as the byte, whatever follows. -/
theorem unescape_escapeByte (byte : UInt8) (rest : List Char) :
    unescape (escapeByte byte ++ rest) = byte :: unescape rest := by
  unfold escapeByte
  split
  · next unreserved =>
      have isCode := toNat_ofNat_of_unreserved unreserved
      have ⟨below, notPlus, notPercent⟩ := code_of_isUnreserved unreserved
      generalize Char.ofNat byte.toNat = char at isCode
      rw [List.singleton_append, unescape]
      · simp [String.utf8EncodeChar, isCode, Nat.le_of_lt_succ below]
      · rintro rfl
        exact notPlus isCode.symm
      · rintro _ _ _ rfl _
        exact notPercent isCode.symm
  split
  · next isSpace =>
      subst isSpace
      rfl
  · have high := hexValue?_hexUpper (byte.toNat / 16) (by have := byte.toNat_lt; omega)
    have low := hexValue?_hexUpper (byte.toNat % 16) (Nat.mod_lt _ (by decide))
    have isByte : byte.toNat / 16 * 16 + byte.toNat % 16 = byte.toNat := Nat.div_add_mod' _ _
    simp only [List.cons_append, List.nil_append, unescape, high, low, isByte, UInt8.ofNat_toNat]

theorem unescape_escape (text rest : List Char) :
    unescape (escape text ++ rest) = Utf8.encodeChars text ++ unescape rest := by
  unfold escape
  generalize Utf8.encodeChars text = bytes
  induction bytes with
  | nil => rfl
  | cons byte bytes ih =>
      rw [List.flatMap_cons, List.append_assoc, unescape_escapeByte, ih]
      rfl

theorem read_escape (text : String) : read (escape text.toList) = text := by
  have isText := unescape_escape text.toList []
  rw [List.append_nil] at isText
  rw [read, isText, unescape, List.append_nil, Utf8.decodeLossy_encodeChars, String.ofList_toList]

/-! ## Parameters -/

theorem mem_parameter {name value : String} {char : Char} (mem : char ∈ (parameter name value).toList) :
    isFormChar char ∨ char = '=' := by
  rw [parameter, String.toList_ofList, List.mem_append, List.mem_cons] at mem
  rcases mem with inName | isSign | inValue
  · exact .inl (isFormChar_escape char inName)
  · exact .inr isSign
  · exact .inl (isFormChar_escape char inValue)

theorem readParameter_parameter (name value : String) :
    readParameter (parameter name value).toList = (name, value) := by
  have noSign : ∀ char ∈ escape name.toList, decide (char ≠ '=') = true := by
    intro char mem
    refine decide_eq_true ?_
    rintro rfl
    exact absurd (isFormChar_escape '=' mem) (by decide)
  rw [parameter, String.toList_ofList, readParameter, List.takeWhile_append_of_pos noSign,
    List.dropWhile_append_of_pos noSign]
  simp [read_escape]

/-- The parameters as written, with an ampersand between each two. -/
theorem toList_encode (parameters : List (String × String)) :
    (encode parameters).toList =
      ['&'].intercalate (parameters.map fun (name, value) => (parameter name value).toList) := by
  rw [encode, String.toList_intercalate, List.map_map]
  rfl

/-- Parameters are read as they were written. -/
theorem decode_encode (parameters : List (String × String)) :
    decode (encode parameters).toList = parameters := by
  rcases parameters with _ | ⟨first, rest⟩
  · rfl
  have noSeparator : ∀ part ∈ (first :: rest).map fun (name, value) => (parameter name value).toList,
      '&' ∉ part := by
    rintro _ isPart mem
    rcases List.mem_map.mp isPart with ⟨⟨name, value⟩, _, rfl⟩
    rcases mem_parameter mem with isForm | isSign
    · exact absurd isForm (by decide)
    · exact absurd isSign (by decide)
  have notEmpty : ∀ part ∈ (first :: rest).map fun (name, value) => (parameter name value).toList,
      (!part.isEmpty) = true := by
    rintro _ isPart
    rcases List.mem_map.mp isPart with ⟨⟨name, value⟩, _, rfl⟩
    simp [parameter]
  rw [decode, toList_encode, List.splitOn_intercalate '&' noSeparator (by simp),
    List.filter_eq_self.mpr notEmpty, List.map_map]
  exact List.map_id'' (fun (name, value) => readParameter_parameter name value) _

/-- The characters of form data. -/
theorem mem_encode {parameters : List (String × String)} {char : Char}
    (mem : char ∈ (encode parameters).toList) : isFormChar char ∨ char = '=' ∨ char = '&' := by
  rw [toList_encode] at mem
  induction parameters with
  | nil => cases mem
  | cons first rest ih =>
      have inFirst (mem : char ∈ (parameter first.1 first.2).toList) :
          isFormChar char ∨ char = '=' ∨ char = '&' :=
        (mem_parameter mem).imp_right .inl
      rcases rest with _ | ⟨second, rest⟩
      · rw [List.map_singleton, List.intercalate_singleton] at mem
        exact inFirst mem
      · rw [List.map_cons, List.map_cons, List.intercalate_cons_cons] at mem
        rcases List.mem_append.mp mem with here | later
        · rcases List.mem_append.mp here with here | separator
          · exact inFirst here
          · exact .inr (.inr (List.mem_singleton.mp separator))
        · exact ih later

end Sparql.FormData
