import ODataQuery.Json.Decode
import ODataQuery.Json.Writer
import ODataQuery.Proofs.Json.Reading

/-!
# Written trees

A tree is spelled by the text that is written for it (`spelledBy_toText`), if it is complete and its
numbers are natural, and so it is read again as it was (`Reader.ofText_toText`).
-/

namespace ODataQuery.Json

/-! ## Strings

A character is written as it is, with a short escape or, if it is a control character without one,
with four digits. All of these are spellings of it. -/

/-- What is written for a character is a spelling of it. -/
theorem spellsChar_writeChar (c : Char) : SpellsChar c (writeChar c) := by
  unfold writeChar
  split
  case h_8 =>
    split
    · next hcontrol =>
      have hdigit : ∀ n < 16, HasHexValue (lowerHexDigit n) n := by
        unfold HasHexValue
        decide
      have hzero : HasHexValue '0' 0 := hdigit 0 (by decide)
      have hhigh := hdigit (c.toNat / 16) (by omega)
      have hlow := hdigit (c.toNat % 16) (by omega)
      -- The first two digits are zero, since control characters are small.
      have hunit : 16 * (16 * (16 * 0 + 0) + c.toNat / 16) + c.toNat % 16 = c.toNat := by omega
      have hescape := SpellsEscape.intro hzero hzero hhigh hlow
      rw [hunit] at hescape
      exact .unit (.escape hescape)
    · next hquote hbackslash _ _ _ _ _ hcontrol =>
      have hverbatim : IsVerbatim c := ⟨(hquote ·), (hbackslash ·), by omega⟩
      exact .unit (.verbatim hverbatim)
  all_goals exact .unit (.short (by decide))

/-- What is written for a text is a spelling of it. -/
theorem spellsText_flatMap_writeChar (cs : List Char) : SpellsText cs (cs.flatMap writeChar) := by
  induction cs with
  | nil => exact .nil
  | cons c cs ih => exact .cons (spellsChar_writeChar c) ih

/-- What is written for a string is one token. -/
theorem lexeme_writeString (s : String) : Lexeme (.string (some s)) (writeString (some s)) :=
  .text (spellsText_flatMap_writeChar s.toList)

/-! ## Numbers

Only natural numbers are written, and their digits are a number of the grammar. -/

/-- The digits of a number that is not zero do not begin with a zero. -/
theorem exists_toDigits_eq_cons {n : Nat} (hn : 0 < n) :
    ∃ d ds, Nat.toDigits 10 n = d :: ds ∧ d ≠ '0' := by
  induction n using Nat.strongRecOn with
  | _ n ih =>
    by_cases hlt : n < 10
    · have hdigit : ∀ n < 10, 0 < n → n.digitChar ≠ '0' := by decide
      exact ⟨n.digitChar, [], Nat.toDigits_of_lt_base hlt, hdigit n hlt hn⟩
    · -- The first digits are those of the tenth.
      obtain ⟨d, ds, hds, hd⟩ := ih (n / 10) (by omega) (by omega)
      refine ⟨d, ds ++ [(n % 10).digitChar], ?_, hd⟩
      rw [Nat.toDigits_of_base_le (by decide) (by omega), hds, List.cons_append]

/-- The digits of a natural number are the whole part of a number. -/
theorem isWhole_toDigits (n : Nat) : IsWhole (Nat.toDigits 10 n) := by
  rcases Nat.eq_zero_or_pos n with rfl | hn
  · exact .zero
  · obtain ⟨d, ds, hds, hd⟩ := exists_toDigits_eq_cons hn
    have hdigits : AreDigits (d :: ds) := by
      intro c hc
      exact Nat.isDigit_of_mem_toDigits (by decide) (by decide) (hds ▸ hc)
    obtain ⟨hdigit, hdigits⟩ := areDigits_cons.mp hdigits
    rw [hds]
    exact .digits hdigit hd hdigits

/-- What is written for a natural number is one token. -/
theorem lexeme_repr (n : Nat) : Lexeme (.number (Nat.repr n)) (Nat.repr n).toList := by
  have hunsigned := IsUnsignedNumber.intro (isWhole_toDigits n) .none .none
  rw [List.append_nil, List.append_nil, ← Nat.toList_repr] at hunsigned
  have hlexeme := Lexeme.number (.positive hunsigned)
  rwa [String.ofList_toList] at hlexeme

/-! ## Trees

A tree is plain if it can be written. No blanks are written between the tokens. -/

mutual
/-- The tree is complete, its strings hold text and its numbers are natural. -/
def IsPlain : Json → Prop
  | .null | .bool _ => True
  | .number lexeme => ∃ n, lexeme = Nat.repr n
  | .string text => text.isSome = true
  | .array items closed => closed = true ∧ ArePlain items
  | .object members closed => closed = true ∧ MembersArePlain members
  | .broken => False

/-- `IsPlain` for every item. -/
def ArePlain : List Json → Prop
  | [] => True
  | item :: items => item.IsPlain ∧ ArePlain items

/-- `IsPlain` for every value, and every key is a text. -/
def MembersArePlain : List (Option String × Json) → Prop
  | [] => True
  | (key, value) :: members => key.isSome = true ∧ value.IsPlain ∧ MembersArePlain members
end

mutual
theorem IsPlain.complete : ∀ {j : Json}, j.IsPlain → j.complete = true
  | .null, _ | .bool _, _ | .number _, _ | .string _, _ => rfl
  | .array _ _, h => complete_array.mpr ⟨h.1, ArePlain.complete h.2⟩
  | .object _ _, h => complete_object.mpr ⟨h.1, MembersArePlain.complete h.2⟩

theorem ArePlain.complete : ∀ {items : List Json}, ArePlain items → completeItems items = true
  | [], _ => rfl
  | _ :: _, h => completeItems_cons.mpr ⟨h.1.complete, ArePlain.complete h.2⟩

theorem MembersArePlain.complete : ∀ {members : List (Option String × Json)},
    MembersArePlain members → completeMembers members = true
  | [], _ => rfl
  | _ :: _, h => completeMembers_cons.mpr ⟨h.2.1.complete, MembersArePlain.complete h.2.2⟩
end

/-- A token can stand directly in front of others. -/
theorem Lexes.cons_lexeme {token : Token} {tokens : List Token} {lexeme rest : List Char}
    (hlexeme : Lexeme token lexeme) (hrest : Lexes tokens rest) :
    Lexes (token :: tokens) (lexeme ++ rest) :=
  .cons (List.nil_subset _) hlexeme hrest

mutual
/-- The text of a tree consists of its tokens, before any further ones. -/
theorem lexes_write : ∀ {j : Json}, j.IsPlain → ∀ {tokens : List Token} {rest : List Char},
    Lexes tokens rest → Lexes (j.tokens ++ tokens) (j.write ++ rest)
  | .null, _, _, _, hrest => hrest.cons_lexeme .null
  | .bool true, _, _, _, hrest => hrest.cons_lexeme .true
  | .bool false, _, _, _, hrest => hrest.cons_lexeme .false
  | .number _, ⟨n, hn⟩, _, _, hrest => by
    subst hn
    exact hrest.cons_lexeme (lexeme_repr n)
  | .string (some s), _, _, _, hrest => hrest.cons_lexeme (lexeme_writeString s)
  | .array items _, h, tokens, rest, hrest => by
    have hclose := hrest.cons_lexeme .closeArray
    -- From the last token to the first one, since each is put in front of the others.
    have hitems := (lexes_writeItems h.2 hclose).cons_lexeme .openArray
    rw [tokens_array]
    simp only [write, List.append_assoc, List.cons_append, List.nil_append]
    exact hitems
  | .object members _, h, tokens, rest, hrest => by
    have hclose := hrest.cons_lexeme .closeObject
    have hmembers := (lexes_writeMembers h.2 hclose).cons_lexeme .openObject
    rw [tokens_object]
    simp only [write, List.append_assoc, List.cons_append, List.nil_append]
    exact hmembers

/-- What is written for items has their tokens, with commas between them. -/
theorem lexes_writeItems : ∀ {items : List Json}, ArePlain items →
    ∀ {tokens : List Token} {rest : List Char}, Lexes tokens rest →
    Lexes (itemTokens items ++ tokens) (writeItems items ++ rest)
  | [], _, _, _, hrest => hrest
  | [_], h, _, _, hrest => lexes_write h.1 hrest
  | _ :: next :: items, h, tokens, rest, hrest => by
    have hcomma := (lexes_writeItems h.2 hrest).cons_lexeme .comma
    have hitem := lexes_write h.1 hcomma
    simp only [itemTokens_cons_cons, writeItems, List.append_assoc, List.cons_append,
      List.nil_append]
    exact hitem

/-- What is written for members has their tokens, with commas between them. -/
theorem lexes_writeMembers : ∀ {members : List (Option String × Json)}, MembersArePlain members →
    ∀ {tokens : List Token} {rest : List Char}, Lexes tokens rest →
    Lexes (memberTokens members ++ tokens) (writeMembers members ++ rest)
  | [], _, _, _, hrest => hrest
  | [(some key, _)], h, _, _, hrest => by
    have hcolon := (lexes_write h.2.1 hrest).cons_lexeme .colon
    have hmember := hcolon.cons_lexeme (lexeme_writeString key)
    simp only [memberTokens, writeMembers, List.append_assoc, List.cons_append, List.nil_append]
    exact hmember
  | (some key, _) :: next :: members, h, tokens, rest, hrest => by
    have hcomma := (lexes_writeMembers h.2.2 hrest).cons_lexeme .comma
    have hcolon := (lexes_write h.2.1 hcomma).cons_lexeme .colon
    have hmember := hcolon.cons_lexeme (lexeme_writeString key)
    simp only [memberTokens_cons_cons, writeMembers, List.append_assoc, List.cons_append,
      List.nil_append]
    exact hmember
end

/-! ## Documents

So what is written is read back, as far as it does not nest too deep. -/

/-- What is written for a plain tree spells it. -/
theorem spelledBy_toText {j : Json} (hj : j.IsPlain) : j.SpelledBy j.toText := by
  have hlexes := lexes_write hj (.nil (List.nil_subset _))
  rw [List.append_nil, List.append_nil] at hlexes
  refine ⟨hj.complete, ?_⟩
  rwa [toText, String.toList_ofList]

/-- What a tree is read as is read from its text. -/
theorem Reader.ofText_toText {α : Type} (read : Reader α) {j : Json} (hj : j.IsPlain) :
    read.ofText j.toText = read .text maxDepth j :=
  read.ofText_of_spelledBy (spelledBy_toText hj)

end ODataQuery.Json
