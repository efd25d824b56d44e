import Mathlib
import ODataQuery.Text.LowerCase

/-!
# Lower case and ASCII

On ASCII characters, lower case is that of the letters from `A` to `Z`. A character outside ASCII
has a lower-case form outside ASCII, with one exception: that of the Kelvin sign is the letter `k`
(`lowerChar_of_not_ascii`). So a word of ASCII characters other than `k` is the lower-case form of
ASCII texts only (`flatMap_lowerChar_eq_iff`).
-/

namespace ODataQuery.LowerCase

/-- The character is one of the 128 of ASCII. -/
def IsAscii (c : Char) : Prop := c.toNat < 0x80

instance (c : Char) : Decidable (IsAscii c) := Nat.decLt _ _

/-! ## Characters

Outside of ASCII there are characters whose lower case is ASCII after all: the Kelvin sign becomes
`k`, and the capital I with a dot becomes an `i` with a mark behind it. No other entry of the table
leads back, so `k` is the only letter that has to be kept out of words. -/

/-- On ASCII the table is not looked at. -/
theorem lowerChar_of_ascii {c : Char} (h : IsAscii c) : lowerChar c = [c.toLower] := if_pos h

/-- The ASCII map leaves every other character alone. -/
theorem toLower_of_not_ascii {c : Char} (h : ¬ IsAscii c) : c.toLower = c := by
  apply Char.toLower_eq_of_not_isUpper
  intro hupper
  rw [Char.isUpper, decide_eq_true_eq] at hupper
  exact h (Nat.lt_of_le_of_lt (UInt32.le_iff_toNat_le.mp hupper.2) (by decide))

/-- The range that holds the Kelvin sign alone. -/
def kelvin : CaseRange := ⟨0x212A, 0x212A, 1, 0x6B⟩

/-- The code points that a range assigns are those of characters outside ASCII. -/
def CaseRange.LeavesAscii (range : CaseRange) : Prop :=
  0x80 ≤ range.lower ∧
    (range.lower + (range.last - range.first) < 0xD800 ∨
      0xDFFF < range.lower ∧ range.lower + (range.last - range.first) < 0x110000)

instance (range : CaseRange) : Decidable range.LeavesAscii := inferInstanceAs (Decidable (_ ∧ _))

/-- Checked over the table of ranges: the Kelvin sign is the only one that leads into ASCII. -/
theorem eq_kelvin_or_leavesAscii : ∀ range ∈ caseRanges, range = kelvin ∨ range.LeavesAscii := by
  decide +kernel

/-- A range maps by the distance from its first character. -/
theorem CaseRange.lower?_eq_some {range : CaseRange} {n m : Nat} (h : range.lower? n = some m) :
    range.first ≤ n ∧ n ≤ range.last ∧ m = range.lower + (n - range.first) := by
  unfold lower? at h
  split at h
  · next hmem => exact ⟨hmem.1, hmem.2.1, (Option.some.inj h).symm⟩
  · exact absurd h (by simp)

/-- Such a range has no ASCII character among its lower cases. -/
theorem CaseRange.LeavesAscii.not_ascii {range : CaseRange} (hrange : range.LeavesAscii) {n m : Nat}
    (h : range.lower? n = some m) : ¬ IsAscii (Char.ofNat m) := by
  obtain ⟨hfirst, hlast, rfl⟩ := lower?_eq_some h
  obtain ⟨hlower, hvalid⟩ := hrange
  have hchar : (range.lower + (n - range.first)).isValidChar := by
    rcases hvalid with hbelow | ⟨habove, hmax⟩
    · exact .inl (by omega)
    · exact .inr ⟨by omega, by omega⟩
  rw [IsAscii, Char.toNat_ofNat, if_pos hchar]
  omega

/-- Of all characters outside ASCII, the Kelvin sign alone has a lower-case form in ASCII. -/
theorem lowerChar_of_not_ascii {c : Char} (h : ¬ IsAscii c) :
    lowerChar c = ['k'] ∨ ∃ d ∈ lowerChar c, ¬ IsAscii d := by
  have hcode : ¬ c.toNat < 0x80 := h
  rw [lowerChar, if_neg hcode]
  split
  · -- The capital I with a dot keeps the dot as a mark of its own.
    exact .inr ⟨'\u0307', by simp, by decide⟩
  · cases hlower : caseRanges.findSome? (·.lower? c.toNat) with
    | none => exact .inr ⟨c, by simp, h⟩
    | some m =>
      obtain ⟨range, hrange, hm⟩ := List.exists_of_findSome?_eq_some hlower
      -- The range is the Kelvin sign alone, or all that it leads to is outside.
      rcases eq_kelvin_or_leavesAscii range hrange with rfl | hleaves
      · obtain ⟨hfirst, hlast, hm⟩ := CaseRange.lower?_eq_some hm
        have hcode : c.toNat = kelvin.first := Nat.le_antisymm hlast hfirst
        rw [hcode, Nat.sub_self] at hm
        rw [hm]
        exact .inl rfl
      · exact .inr ⟨Char.ofNat m, by simp, hleaves.not_ascii hm⟩

/-! ## Texts

A word without `k` is the lower case of a text exactly if it is its ASCII lower case: the text
cannot hold anything but ASCII then. -/

variable {cs word : List Char}

/-- On ASCII texts both lower cases agree. -/
theorem flatMap_lowerChar_of_ascii (h : ∀ c ∈ cs, IsAscii c) :
    cs.flatMap lowerChar = cs.map Char.toLower := by
  rw [List.map_eq_flatMap]
  exact List.flatMap_congr fun c hc => lowerChar_of_ascii (h c hc)

/-- The ASCII map cannot make ASCII of anything else. -/
theorem ascii_of_map_toLower (hword : ∀ d ∈ word, IsAscii d) (h : cs.map Char.toLower = word) :
    ∀ c ∈ cs, IsAscii c := by
  intro c hc
  apply Decidable.byContradiction
  intro hnot
  have hmem : c.toLower ∈ word := h ▸ List.mem_map_of_mem hc
  exact hnot (toLower_of_not_ascii hnot ▸ hword _ hmem)

/-- A text has a lower-case form in ASCII without the letter `k` if and only if changing the case of
its ASCII letters leads there. -/
theorem flatMap_lowerChar_eq_iff (hword : ∀ d ∈ word, IsAscii d ∧ d ≠ 'k') :
    cs.flatMap lowerChar = word ↔ cs.map Char.toLower = word := by
  constructor
  · intro h
    have hmem : ∀ c ∈ cs, ∀ d ∈ lowerChar c, d ∈ word := fun c hc d hd =>
      h ▸ List.mem_flatMap.mpr ⟨c, hc, hd⟩
    -- Every character outside of ASCII would leave a `k` or something outside in the word.
    have hascii : ∀ c ∈ cs, IsAscii c := by
      intro c hc
      apply Decidable.byContradiction
      intro hnot
      rcases lowerChar_of_not_ascii hnot with hlower | ⟨d, hd, hout⟩
      · exact (hword 'k' (hmem c hc 'k' (hlower ▸ List.mem_singleton_self _))).2 rfl
      · exact hout (hword d (hmem c hc d hd)).1
    rw [← flatMap_lowerChar_of_ascii hascii, h]
  · intro h
    rw [flatMap_lowerChar_of_ascii (ascii_of_map_toLower (fun d hd => (hword d hd).1) h), h]

end ODataQuery.LowerCase
