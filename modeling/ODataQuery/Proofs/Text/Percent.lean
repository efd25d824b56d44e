import ODataQuery.Text.Percent

/-!
# Percent-encoding read back

Decoding a percent-encoded text gives the text back, whatever follows it: each byte is written so
that the reader takes exactly its characters (`bytes_encodeByte_append`), and a text without `%`
stands for its own bytes (`bytes_append_of_no_percent`). What is written is plain ASCII, so it holds
none of the characters that delimit anything (`isPlain_or_percent_of_mem_encode`).
-/

namespace ODataQuery.Percent

/-! ## Bytes of a text

`utf8 cs` is the list of the bytes of the characters `cs`, which the library keeps as a
`ByteArray`. -/

/-- The bytes of a list of characters in UTF-8. -/
def utf8 (cs : List Char) : List UInt8 := cs.flatMap String.utf8EncodeChar

@[simp] theorem utf8_nil : utf8 [] = [] := rfl

@[simp] theorem utf8_cons (c : Char) (cs : List Char) :
    utf8 (c :: cs) = String.utf8EncodeChar c ++ utf8 cs := rfl

/-- Bytes of a text that is put together. -/
@[simp] theorem utf8_append (cs ds : List Char) : utf8 (cs ++ ds) = utf8 cs ++ utf8 ds :=
  List.flatMap_append

/-- The bytes of a string are those of its characters, one after the other. -/
theorem toUTF8_toList (s : String) : s.toUTF8.data.toList = utf8 s.toList := by
  show s.toByteArray.data.toList = utf8 s.toList
  rw [← String.utf8Encode_toList]
  exact List.toList_data_toByteArray

theorem toByteArray_ofList (cs : List Char) :
    (String.ofList cs).toByteArray = ⟨(utf8 cs).toArray⟩ := by
  rw [String.toByteArray_ofList]
  apply ByteArray.ext
  apply Array.toList_inj.mp
  exact List.toList_data_toByteArray

/-- Bytes that come from characters are valid, and give the characters back. -/
theorem fromUTF8?_utf8 (cs : List Char) :
    String.fromUTF8? ⟨(utf8 cs).toArray⟩ = some (String.ofList cs) := by
  rw [← toByteArray_ofList]
  unfold String.fromUTF8?
  rw [dif_pos (String.ofList cs).isValidUTF8]
  rfl

/-- Valid bytes are the bytes of some characters. -/
theorem exists_utf8_of_isValidUTF8 {bs : List UInt8} (h : ByteArray.IsValidUTF8 ⟨bs.toArray⟩) :
    ∃ cs, bs = utf8 cs := by
  obtain ⟨cs, hcs⟩ := h
  refine ⟨cs, ?_⟩
  calc bs = (⟨bs.toArray⟩ : ByteArray).data.toList := rfl
    _ = cs.utf8Encode.data.toList := by rw [hcs]
    _ = utf8 cs := List.toList_data_toByteArray

/-- An ASCII character is one byte, its own code. -/
theorem utf8EncodeChar_ascii {c : Char} (h : c.toNat < 128) :
    String.utf8EncodeChar c = [UInt8.ofNat c.toNat] := by
  have hle : c.val.toNat ≤ 127 := by
    show c.toNat ≤ 127
    omega
  unfold String.utf8EncodeChar
  exact if_pos hle

/-- Outside ASCII no byte of a character is the code of an ASCII character. -/
theorem le_of_mem_utf8EncodeChar {c : Char} {b : UInt8} (h : 128 ≤ c.toNat)
    (hb : b ∈ String.utf8EncodeChar c) : 128 ≤ b.toNat := by
  have hv : ¬ c.val.toNat ≤ 127 := by
    show ¬ c.toNat ≤ 127
    omega
  -- Each of the bytes has its highest bit set, whether there are two, three or four.
  unfold String.utf8EncodeChar at hb
  simp only [hv, ↓reduceIte] at hb
  split at hb
  · simp only [List.mem_cons, List.not_mem_nil, or_false] at hb
    rcases hb with rfl | rfl <;> rw [UInt8.toNat_ofNat'] <;> omega
  · split at hb
    · simp only [List.mem_cons, List.not_mem_nil, or_false] at hb
      rcases hb with rfl | rfl | rfl <;> rw [UInt8.toNat_ofNat'] <;> omega
    · simp only [List.mem_cons, List.not_mem_nil, or_false] at hb
      rcases hb with rfl | rfl | rfl | rfl <;> rw [UInt8.toNat_ofNat'] <;> omega

/-! ## What is written

A byte is written as itself if it is the code of a plain character, and as a triple of `%` and two
hexadecimal digits otherwise. All of these characters are ASCII. -/

/-- The characters that stand for themselves: ASCII letters and digits, `-`, `_`, `.` and `~`. -/
def isPlain (c : Char) : Bool :=
  c.isAlphanum || c = '-' || c = '_' || c = '.' || c = '~'

/-- A byte is written as itself exactly if the character of its code is plain. -/
theorem isUnreserved_eq_isPlain (b : UInt8) : isUnreserved b = isPlain (Char.ofNat b.toNat) := rfl

/-- Each range of letters and digits ends below 128. -/
theorem toNat_lt_of_isAlphanum {c : Char} (h : c.isAlphanum = true) : c.toNat < 128 := by
  have hle : ∀ last : Char, last.toNat < 128 → c.val ≤ last.val → c.toNat < 128 := by
    intro last hlast hc
    exact Nat.lt_of_le_of_lt (UInt32.le_iff_toNat_le.mp hc) hlast
  rw [show c.isAlphanum = (c.isUpper || c.isLower || c.isDigit) from rfl, Bool.or_eq_true,
    Bool.or_eq_true] at h
  rcases h with (hupper | hlower) | hdigit
  · exact hle 'Z' (by decide) (of_decide_eq_true hupper).2
  · exact hle 'z' (by decide) (of_decide_eq_true (Bool.and_eq_true_iff.mp hlower).2)
  · exact hle '9' (by decide) (of_decide_eq_true (Bool.and_eq_true_iff.mp hdigit).2)

/-- Plain characters are ASCII. -/
theorem toNat_lt_of_isPlain {c : Char} (h : isPlain c = true) : c.toNat < 128 := by
  simp only [isPlain, Bool.or_eq_true, decide_eq_true_eq] at h
  rcases h with (((halphanum | rfl) | rfl) | rfl) | rfl
  · exact toNat_lt_of_isAlphanum halphanum
  all_goals decide

theorem toNat_ofNat_of_isValidChar {n : Nat} (h : n.isValidChar) : (Char.ofNat n).toNat = n := by
  rw [Char.ofNat, dif_pos h]
  rfl

/-- Each byte is the code of a character. -/
theorem toNat_charOfNat (b : UInt8) : (Char.ofNat b.toNat).toNat = b.toNat :=
  have hb := b.toNat_lt
  toNat_ofNat_of_isValidChar (.inl (by omega))

/-- Reading a digit gives back its value. -/
theorem hexValue?_hexDigit : ∀ n < 16, hexValue? (hexDigit n) = some n := by decide

/-- Digits need no escape of their own. -/
theorem isPlain_hexDigit : ∀ n < 16, isPlain (hexDigit n) = true := by decide

/-- What is written for a byte holds nothing but plain characters and percent signs. -/
theorem isPlain_or_percent_of_mem_encodeByte {c : Char} {b : UInt8} (h : c ∈ encodeByte b) :
    isPlain c = true ∨ c = '%' := by
  have hb := b.toNat_lt
  unfold encodeByte at h
  split at h
  · next hplain =>
    rw [List.mem_singleton] at h
    rw [h, ← isUnreserved_eq_isPlain]
    exact Or.inl hplain
  · simp only [List.mem_cons, List.not_mem_nil, or_false] at h
    -- A percent sign and two digits.
    rcases h with rfl | rfl | rfl
    · exact Or.inr rfl
    · exact Or.inl (isPlain_hexDigit _ (by omega))
    · exact Or.inl (isPlain_hexDigit _ (by omega))

/-- A text is written byte by byte. -/
theorem toList_encode (s : String) : (encode s).toList = (utf8 s.toList).flatMap encodeByte := by
  rw [encode, String.toList_ofList, toUTF8_toList]

/-- An encoded text holds plain characters and `%` only. -/
theorem isPlain_or_percent_of_mem_encode {c : Char} {s : String} (h : c ∈ (encode s).toList) :
    isPlain c = true ∨ c = '%' := by
  rw [toList_encode] at h
  obtain ⟨b, _, hc⟩ := List.mem_flatMap.mp h
  exact isPlain_or_percent_of_mem_encodeByte hc

/-! ## Reading back

Decoding undoes encoding: every byte is found again, and so is the text that the bytes stand for. -/

/-- A character that is no percent sign stands for its own bytes. -/
theorem bytes_cons_of_ne {c : Char} (h : c ≠ '%') (rest : List Char) :
    bytes (c :: rest) = String.utf8EncodeChar c ++ bytes rest := by
  rw [bytes]
  intro _ _ _ hc
  exact absurd hc h

/-- The reader takes exactly the characters that a byte is written with. -/
theorem bytes_encodeByte_append (b : UInt8) (rest : List Char) :
    bytes (encodeByte b ++ rest) = b :: bytes rest := by
  have hb := b.toNat_lt
  unfold encodeByte
  split
  · next hplain =>
    rw [isUnreserved_eq_isPlain] at hplain
    -- A byte that is written as it is stands for a character of ASCII.
    have hascii := toNat_lt_of_isPlain hplain
    have hne : Char.ofNat b.toNat ≠ '%' := by
      intro heq
      rw [heq] at hplain
      exact absurd hplain (by decide)
    rw [List.singleton_append, bytes_cons_of_ne hne, utf8EncodeChar_ascii hascii, toNat_charOfNat,
      UInt8.ofNat_toNat, List.singleton_append]
  · -- The two digits are the two halves of the byte.
    show bytes ('%' :: hexDigit (b.toNat / 16) :: hexDigit (b.toNat % 16) :: rest) = _
    rw [bytes, hexValue?_hexDigit _ (by omega), hexValue?_hexDigit _ (by omega)]
    simp only
    rw [show 16 * (b.toNat / 16) + b.toNat % 16 = b.toNat from by omega, UInt8.ofNat_toNat]

/-- What is written for bytes is read as these bytes, whatever follows it. -/
theorem bytes_flatMap_encodeByte_append (bs : List UInt8) (rest : List Char) :
    bytes (bs.flatMap encodeByte ++ rest) = bs ++ bytes rest := by
  induction bs with
  | nil => rfl
  | cons b bs ih =>
    rw [List.flatMap_cons, List.append_assoc, bytes_encodeByte_append, ih, List.cons_append]

/-- An encoded text is read as the bytes of the text, whatever follows it. -/
theorem bytes_encode_append (s : String) (rest : List Char) :
    bytes ((encode s).toList ++ rest) = utf8 s.toList ++ bytes rest := by
  rw [toList_encode, bytes_flatMap_encodeByte_append]

/-- A text without `%` stands for itself. -/
theorem bytes_append_of_no_percent {cs : List Char} (h : '%' ∉ cs) (rest : List Char) :
    bytes (cs ++ rest) = utf8 cs ++ bytes rest := by
  induction cs with
  | nil => rfl
  | cons c cs ih =>
    have hc : c ≠ '%' := fun heq => h (heq ▸ List.mem_cons_self)
    have hcs : '%' ∉ cs := fun hmem => h (List.mem_cons_of_mem _ hmem)
    rw [List.cons_append, bytes_cons_of_ne hc, ih hcs, utf8_cons, List.append_assoc]

/-- A text decodes to the characters whose bytes it stands for. -/
theorem decode?_of_bytes {s : String} {cs : List Char} (h : bytes s.toList = utf8 cs) :
    decode? s = some (String.ofList cs) := by
  rw [decode?, h, fromUTF8?_utf8]

/-- Decoding is a left inverse of encoding on all texts. -/
theorem decode?_encode (s : String) : decode? (encode s) = some s := by
  have hbytes : bytes (encode s).toList = utf8 s.toList := by
    simpa [bytes] using bytes_encode_append s []
  rw [decode?_of_bytes hbytes, String.ofList_toList]

end ODataQuery.Percent
