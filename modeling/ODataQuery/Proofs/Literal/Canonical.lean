import ODataQuery.Proofs.Literal.Quotes
import ODataQuery.Proofs.Text.Percent

/-!
# Canonical literals

A literal is canonical if it is spelled the way values are written: quotes at both ends, plain
characters as they are, every other byte as a triple with upper-case digits, valid UTF-8, and quotes
of the value in pairs. The main statement (`encode_bijective_onto_canonical`) says that values and
canonical literals correspond one to one, and that decoding is the inverse of encoding.

The proof goes through the bytes. `Piece.ofByte` and `Piece.byte` are inverse to each other on
well-formed pieces, so pieces are bytes in another spelling; runs of quotes are the same in both,
and the same again in the characters of the value, because UTF-8 uses the byte of the quote for the
quote alone.
-/

namespace ODataQuery.Literal

/-! ## Pieces of a literal

A piece is a plain character or a triple of a percent sign and two digits. Well-formed pieces and
bytes correspond one to one (`ofByte_byte`, `byte_ofByte`), and the text of a piece is what is
written for its byte (`text_ofByte`). -/

/-- The digits of a triple. -/
def upperHexDigits : List Char := "0123456789ABCDEF".toList

/-- What stands for one byte inside a literal: a character, or `%` and two digits. -/
inductive Piece where
  | plain (c : Char)
  | triple (high low : Char)
deriving DecidableEq, Repr

namespace Piece

/-- The characters of a piece. -/
def text : Piece → List Char
  | plain c => [c]
  | triple high low => ['%', high, low]

/-- The byte that a piece stands for. -/
def byte : Piece → UInt8
  | plain c => UInt8.ofNat c.toNat
  | triple high low => UInt8.ofNat (16 * upperHexDigits.idxOf high + upperHexDigits.idxOf low)

/-- A character stands for itself only if it is plain; a triple has upper-case digits and stands for
a byte that is no plain character. -/
def WellFormed : Piece → Prop
  | plain c => Percent.isPlain c = true
  | triple high low =>
    high ∈ upperHexDigits ∧ low ∈ upperHexDigits ∧
      Percent.isPlain (Char.ofNat (triple high low).byte.toNat) = false

instance : DecidablePred WellFormed := fun piece =>
  match piece with
  | plain c => inferInstanceAs (Decidable (Percent.isPlain c = true))
  | triple _ _ => inferInstanceAs (Decidable (_ ∧ _ ∧ _))

/-- The triple of the quote. -/
def quote : Piece := triple '2' '7'

/-- The piece that a byte is written as. -/
def ofByte (b : UInt8) : Piece :=
  if Percent.isUnreserved b then plain (Char.ofNat b.toNat)
  else triple (Percent.hexDigit (b.toNat / 16)) (Percent.hexDigit (b.toNat % 16))

/-- The piece of a byte is spelled as the byte is written. -/
theorem text_ofByte (b : UInt8) : (ofByte b).text = Percent.encodeByte b := by
  unfold ofByte Percent.encodeByte
  split <;> rfl

/-- The digits that are written are upper-case. -/
theorem hexDigit_mem : ∀ n < 16, Percent.hexDigit n ∈ upperHexDigits := by decide

/-- The value of a digit is its place among all of them. -/
theorem idxOf_hexDigit : ∀ n < 16, upperHexDigits.idxOf (Percent.hexDigit n) = n := by decide

/-- A digit is written again as itself. -/
theorem hexDigit_idxOf : ∀ c ∈ upperHexDigits,
    Percent.hexDigit (upperHexDigits.idxOf c) = c ∧ upperHexDigits.idxOf c < 16 := by
  have hall : upperHexDigits.all fun c =>
      Percent.hexDigit (upperHexDigits.idxOf c) = c ∧ upperHexDigits.idxOf c < 16 := by decide
  intro c hc
  exact of_decide_eq_true (List.all_eq_true.mp hall c hc)

/-- Each byte is the byte of its piece. -/
theorem byte_ofByte (b : UInt8) : (ofByte b).byte = b := by
  have hb := b.toNat_lt
  unfold ofByte
  split
  · show UInt8.ofNat (Char.ofNat b.toNat).toNat = b
    rw [Percent.toNat_charOfNat, UInt8.ofNat_toNat]
  · show UInt8.ofNat (16 * upperHexDigits.idxOf (Percent.hexDigit (b.toNat / 16))
      + upperHexDigits.idxOf (Percent.hexDigit (b.toNat % 16))) = b
    rw [idxOf_hexDigit _ (by omega), idxOf_hexDigit _ (by omega),
      show 16 * (b.toNat / 16) + b.toNat % 16 = b.toNat from by omega, UInt8.ofNat_toNat]

/-- Escapes are used for no byte that has a plain character. -/
theorem wellFormed_ofByte (b : UInt8) : (ofByte b).WellFormed := by
  have hb := b.toNat_lt
  have hbyte := byte_ofByte b
  unfold ofByte at hbyte ⊢
  split
  · next hplain => exact hplain
  · next hplain =>
    rw [if_neg hplain] at hbyte
    refine ⟨hexDigit_mem _ (by omega), hexDigit_mem _ (by omega), ?_⟩
    rw [hbyte]
    simpa [Percent.isUnreserved_eq_isPlain] using hplain

/-- There is only one well-formed spelling of a byte. -/
theorem ofByte_byte {piece : Piece} (h : piece.WellFormed) : ofByte piece.byte = piece := by
  cases piece with
  | plain c =>
    have hplain : Percent.isPlain c = true := h
    have hlt := Percent.toNat_lt_of_isPlain hplain
    have hbyte : (plain c).byte.toNat = c.toNat := by
      show (UInt8.ofNat c.toNat).toNat = c.toNat
      rw [UInt8.toNat_ofNat']
      omega
    unfold ofByte
    rw [Percent.isUnreserved_eq_isPlain, hbyte, Char.ofNat_toNat, if_pos hplain]
  | triple high low =>
    -- A well-formed triple stands for a byte that is not plain, so it is written as a triple again.
    obtain ⟨hhigh, hlow, hplain⟩ := h
    obtain ⟨hhighDigit, hhighLt⟩ := hexDigit_idxOf high hhigh
    obtain ⟨hlowDigit, hlowLt⟩ := hexDigit_idxOf low hlow
    have hbyte : (triple high low).byte.toNat
        = 16 * upperHexDigits.idxOf high + upperHexDigits.idxOf low := by
      show (UInt8.ofNat _).toNat = _
      rw [UInt8.toNat_ofNat']
      omega
    unfold ofByte
    rw [Percent.isUnreserved_eq_isPlain, if_neg (by rw [hplain]; decide), hbyte,
      show (16 * upperHexDigits.idxOf high + upperHexDigits.idxOf low) / 16
        = upperHexDigits.idxOf high from by omega,
      show (16 * upperHexDigits.idxOf high + upperHexDigits.idxOf low) % 16
        = upperHexDigits.idxOf low from by omega, hhighDigit, hlowDigit]

/-- Well-formed pieces are given by their bytes. -/
theorem map_ofByte_byte {pieces : List Piece} (h : ∀ piece ∈ pieces, piece.WellFormed) :
    (pieces.map byte).map ofByte = pieces := by
  calc (pieces.map byte).map ofByte = pieces.map (fun piece => ofByte piece.byte) := List.map_map
    _ = pieces.map id := List.map_congr_left fun piece hpiece => ofByte_byte (h piece hpiece)
    _ = pieces := List.map_id pieces

/-- Bytes are given by their pieces. -/
theorem map_byte_ofByte (bs : List UInt8) : (bs.map ofByte).map byte = bs := by
  rw [List.map_map]
  exact (List.map_congr_left fun b _ => byte_ofByte b).trans (List.map_id bs)

/-- The text of pieces is what is written for their bytes. -/
theorem flatMap_text_ofByte (bs : List UInt8) :
    (bs.map ofByte).flatMap text = bs.flatMap Percent.encodeByte := by
  rw [List.flatMap_map]
  exact congrArg (fun f => bs.flatMap f) (funext text_ofByte)

/-- The triple of the quote is the only well-formed piece for its byte. -/
theorem eq_quote_of_byte {piece : Piece} (h : piece.WellFormed)
    (hbyte : piece.byte = quote.byte) : piece = quote := by
  rw [← ofByte_byte h, hbyte, ofByte_byte (by decide)]

end Piece

/-! ## Runs of quotes in bytes and in characters

A quote is one byte, and no other character has that byte. So the runs of quotes are the same in a
text and in its bytes. -/

/-- The byte of the quote. -/
def quoteByte : UInt8 := 0x27

theorem utf8EncodeChar_quote : String.utf8EncodeChar '\'' = [quoteByte] := by decide

/-- UTF-8 uses the byte of the quote for the quote alone. -/
theorem quoteByte_not_mem {c : Char} (h : c ≠ '\'') : quoteByte ∉ String.utf8EncodeChar c := by
  intro hmem
  by_cases hascii : c.toNat < 128
  · rw [Percent.utf8EncodeChar_ascii hascii, List.mem_singleton] at hmem
    have hcode : c.toNat = 0x27 := by
      have hnat := congrArg UInt8.toNat hmem
      rw [UInt8.toNat_ofNat'] at hnat
      have : quoteByte.toNat = 0x27 := rfl
      omega
    exact h (by rw [← Char.ofNat_toNat c, hcode])
  · have hle := Percent.le_of_mem_utf8EncodeChar (by omega) hmem
    exact absurd hle (by decide)

/-- Quotes come in pairs in a text if and only if they do in its bytes. Recursion on the text, which
loses a pair of quotes or another character. -/
theorem paired_utf8_iff {cs : List Char} :
    Paired quoteByte (Percent.utf8 cs) ↔ Paired '\'' cs := by
  constructor
  · intro h
    match cs with
    | [] => exact .nil
    | c :: cs =>
      rw [Percent.utf8_cons] at h
      by_cases hc : c = '\''
      · subst hc
        rw [utf8EncodeChar_quote, List.singleton_append] at h
        obtain ⟨rest, hrest⟩ := h.evenRuns.exists_pair
        -- The byte that follows the quote's is a quote's again, so the next character is one.
        match cs with
        | [] => exact absurd hrest (by simp)
        | d :: cs =>
          rw [Percent.utf8_cons] at hrest
          have hd : d = '\'' := by
            by_contra hne
            have hmem : quoteByte ∈ String.utf8EncodeChar d := by
              cases hbytes : String.utf8EncodeChar d with
              | nil => exact absurd hbytes String.utf8EncodeChar_ne_nil
              | cons b bs =>
                rw [hbytes, List.cons_append] at hrest
                rw [(List.cons.inj hrest).1]
                exact List.mem_cons_self
            exact quoteByte_not_mem hne hmem
          subst hd
          rw [Percent.utf8_cons, utf8EncodeChar_quote, List.singleton_append] at h
          cases h with
          | pair h => exact .pair (paired_utf8_iff.mp h)
          | other hne _ => exact absurd rfl hne
      · exact .other hc (paired_utf8_iff.mp (h.of_append (quoteByte_not_mem hc)))
  · intro h
    induction h with
    | nil => exact .nil
    | pair h ih =>
      rw [Percent.utf8_cons, Percent.utf8_cons, utf8EncodeChar_quote]
      exact .pair ih
    | other hne h ih =>
      rw [Percent.utf8_cons]
      exact ih.append (quoteByte_not_mem hne)
termination_by cs.length

/-! ## Canonical literals

Both directions of the characterization: what is written is canonical, and a canonical literal is
taken apart into pieces, bytes and characters, which are halved to the value that it is written for.
-/

/-- The spelling of a literal in which a value is written: between two quotes stand well-formed
pieces, whose bytes are UTF-8 and among which the triple of the quote comes in runs of even length
only. -/
def IsCanonical (literal : String) : Prop :=
  ∃ pieces : List Piece,
    literal.toList = '\'' :: pieces.flatMap Piece.text ++ ['\''] ∧
    (∀ piece ∈ pieces, piece.WellFormed) ∧
    ByteArray.IsValidUTF8 ⟨(pieces.map Piece.byte).toArray⟩ ∧
    EvenRuns Piece.quote pieces

/-- A literal is a quote, the encoded text with doubled quotes, and a quote. -/
theorem toList_encode (value : String) (caseInsensitive : Bool) :
    (encode value caseInsensitive).toList =
      '\'' :: (Percent.encode (String.ofList
        (doubleQuotes (foldCase value caseInsensitive).toList))).toList ++ ['\''] := by
  simp [encode]

/-- Decoding a literal gives the value that was compared. -/
theorem decode?_encode (value : String) (caseInsensitive : Bool) :
    decode? (encode value caseInsensitive) = some (foldCase value caseInsensitive) := by
  have hunquote : unquote? (encode value caseInsensitive).toList = some (Percent.encode
      (String.ofList (doubleQuotes (foldCase value caseInsensitive).toList))).toList := by
    rw [toList_encode, List.cons_append, unquote?]
    simp
  rw [decode?, hunquote]
  simp only [Option.bind_eq_bind, Option.bind_some, String.ofList_toList]
  rw [Percent.decode?_encode]
  simp [halveQuotes_doubleQuotes]

/-- What is written is canonical: its pieces are the bytes of the doubled value. -/
theorem isCanonical_encode (value : String) : IsCanonical (encode value false) := by
  obtain ⟨doubled, hdoubled⟩ : ∃ doubled, doubled = doubleQuotes value.toList := ⟨_, rfl⟩
  refine ⟨(Percent.utf8 doubled).map Piece.ofByte, ?_, ?_, ?_, ?_⟩
  · rw [toList_encode, Piece.flatMap_text_ofByte, Percent.toList_encode, String.toList_ofList,
      hdoubled]
    rfl
  · intro piece hpiece
    obtain ⟨b, _, rfl⟩ := List.mem_map.mp hpiece
    exact Piece.wellFormed_ofByte b
  · rw [Piece.map_byte_ofByte, ← Percent.toByteArray_ofList]
    exact (String.ofList doubled).isValidUTF8
  · -- Doubling makes pairs of quotes, and these are runs of even length.
    have hpaired : Paired quoteByte (Percent.utf8 doubled) :=
      paired_utf8_iff.mpr (paired_iff_doubleQuotes.mpr ⟨_, hdoubled⟩)
    have hpieces := hpaired.map (f := Piece.ofByte) fun b _ heq => by
      rw [← Piece.byte_ofByte b, heq, Piece.byte_ofByte]
    exact hpieces.evenRuns

/-- A canonical literal is the one written for the value that its bytes spell. -/
theorem exists_encode_of_isCanonical {literal : String} (h : IsCanonical literal) :
    ∃ value, encode value false = literal := by
  obtain ⟨pieces, htext, hwf, hvalid, hruns⟩ := h
  obtain ⟨cs, hcs⟩ := Percent.exists_utf8_of_isValidUTF8 hvalid
  have hpaired : Paired quoteByte (Percent.utf8 cs) := by
    rw [← hcs]
    exact hruns.paired.map fun piece hpiece heq => Piece.eq_quote_of_byte (hwf piece hpiece) heq
  -- The quotes come in pairs, so the text is a doubled one.
  obtain ⟨ds, hds⟩ := paired_iff_doubleQuotes.mp (paired_utf8_iff.mp hpaired)
  refine ⟨String.ofList ds, ?_⟩
  have hpieces : pieces.flatMap Piece.text = (Percent.utf8 cs).flatMap Percent.encodeByte := by
    rw [← Piece.map_ofByte_byte hwf, hcs, Piece.flatMap_text_ofByte]
  apply String.toList_injective
  rw [htext, toList_encode, Percent.toList_encode, hpieces]
  simp [foldCase, hds]

/-- Encoding is a bijection between all values and the canonical literals, and decoding is its
inverse; a literal without regard to letter case decodes to the value in lower case. -/
theorem encode_bijective_onto_canonical :
    (∀ value, decode? (encode value false) = some value ∧
      decode? (encode value true) = some (LowerCase.lowerText value)) ∧
    (∀ literal, (∃ value, encode value false = literal) ↔ IsCanonical literal) ∧
    (∀ literal, IsCanonical literal →
      ∃ value, decode? literal = some value ∧ encode value false = literal) := by
  refine ⟨?_, ?_, ?_⟩
  · intro value
    exact ⟨decode?_encode value false, decode?_encode value true⟩
  · intro literal
    constructor
    · rintro ⟨value, rfl⟩
      exact isCanonical_encode value
    · exact exists_encode_of_isCanonical
  · intro literal hcanonical
    obtain ⟨value, rfl⟩ := exists_encode_of_isCanonical hcanonical
    exact ⟨value, decode?_encode value false, rfl⟩

/-- A canonical literal with a pair of quotes and a character of two bytes. -/
theorem isCanonical_zoes_inn :
    IsCanonical "'Zo%C3%AB%27%27s'" ∧
      ∃ value, decode? "'Zo%C3%AB%27%27s'" = some value ∧
        encode value false = "'Zo%C3%AB%27%27s'" := by
  have hcanonical : IsCanonical "'Zo%C3%AB%27%27s'" := by
    refine ⟨[.plain 'Z', .plain 'o', .triple 'C' '3', .triple 'A' 'B', .quote, .quote, .plain 's'],
      by decide, by decide, by decide, ?_⟩
    exact (Paired.other (by decide) <| .other (by decide) <| .other (by decide) <|
      .other (by decide) <| .pair <| .other (by decide) .nil).evenRuns
  exact ⟨hcanonical, encode_bijective_onto_canonical.2.2 _ hcanonical⟩

end ODataQuery.Literal
