import ODataQuery.Request.Paging

/-!
# Rows of pages

Where the pages of a result begin (`Paging.firstRow?`). With page tokens every page begins where the
one before it ends. With offsets that holds from page 1 on: page 0 is asked for without an offset
and page 1 begins two pages further, so the rows between them are on no page
(`offset_pages_leave_gap`).
-/

namespace ODataQuery.Paging

/-- The index of the first row that is asked for, if there is a page size. The pages that a server
keeps track of are numbered from one. -/
def firstRow? : Paging → Option Nat
  | .unbounded => none
  | .first _ => some 0
  | .offset _ skip => some skip.toNat
  | .skipToken top pageNumber => some ((pageNumber.toNat - 1) * top.toNat)

/-! ## The arithmetic is exact

Page and size have 32 bits and the product is computed with 64, so nothing is lost. -/

theorem toNat_pageNumber (page : UInt32) : (page.toUInt64 + 1).toNat = page.toNat + 1 := by
  have hpage := page.toNat_lt
  rw [UInt64.toNat_add, UInt32.toNat_toUInt64, UInt64.toNat_one]
  omega

/-- The number of rows that are skipped does not overflow. -/
theorem toNat_skip (top page : UInt32) :
    ((page.toUInt64 + 1) * top.toUInt64).toNat = (page.toNat + 1) * top.toNat := by
  -- Both factors are at most `2 ^ 32`, and the second one is less.
  have hpage : page.toNat + 1 ≤ 2 ^ 32 := page.toNat_lt
  have hfits : (page.toNat + 1) * top.toNat < 2 ^ 64 := by
    calc (page.toNat + 1) * top.toNat
      _ ≤ 2 ^ 32 * top.toNat := Nat.mul_le_mul_right _ hpage
      _ < 2 ^ 32 * 2 ^ 32 := Nat.mul_lt_mul_of_pos_left top.toNat_lt (by decide)
      _ = 2 ^ 64 := by decide
  rw [UInt64.toNat_mul, toNat_pageNumber, UInt32.toNat_toUInt64, Nat.mod_eq_of_lt hfits]

/-! ## Where pages begin

The first row of each page as a number without bounds, for the two ways of paging. -/

section FirstRow

variable {top : UInt32} (htop : top ≠ 0)
include htop

/-- With page tokens, each page begins behind those before it. -/
theorem firstRow?_ofPage_skipToken (page : UInt32) :
    firstRow? (ofPage top page true) = some (page.toNat * top.toNat) := by
  rw [ofPage, if_neg htop]
  split
  · next hpage =>
    rw [hpage]
    show some 0 = some (0 * top.toNat)
    rw [Nat.zero_mul]
  · show some (((page.toUInt64 + 1).toNat - 1) * top.toNat) = _
    rw [toNat_pageNumber, Nat.add_sub_cancel]

/-- Page 0 begins with the first row. -/
theorem firstRow?_ofPage_zero (skipTokens : Bool) :
    firstRow? (ofPage top 0 skipTokens) = some 0 := by
  rw [ofPage, if_neg htop, if_pos rfl]
  rfl

/-- With offsets, each page but page 0 begins one page late. -/
theorem firstRow?_ofPage_offset {page : UInt32} (hpage : page ≠ 0) :
    firstRow? (ofPage top page false) = some ((page.toNat + 1) * top.toNat) := by
  rw [ofPage, if_neg htop, if_neg hpage]
  show some ((page.toUInt64 + 1) * top.toUInt64).toNat = _
  rw [toNat_skip]

end FirstRow

theorem toNat_succ {page : UInt32} (h : page.toNat + 1 < UInt32.size) :
    (page + 1).toNat = page.toNat + 1 := by
  rw [UInt32.toNat_add, UInt32.toNat_one]
  exact Nat.mod_eq_of_lt h

/-- With page tokens every page begins where the one before it ends, and with offsets every page but
page 1 does. That one begins at twice the page size, and from there on a page with an offset begins
later than the one with a token. -/
theorem offset_pages_leave_gap {top : UInt32} (htop : top ≠ 0) :
    (∀ page : UInt32, page.toNat + 1 < UInt32.size →
      firstRow? (ofPage top (page + 1) true)
        = (firstRow? (ofPage top page true)).map (· + top.toNat)) ∧
    (∀ page : UInt32, page ≠ 0 → page.toNat + 1 < UInt32.size →
      firstRow? (ofPage top (page + 1) false)
        = (firstRow? (ofPage top page false)).map (· + top.toNat)) ∧
    firstRow? (ofPage top 0 false) = some 0 ∧
    firstRow? (ofPage top 1 false) = some (2 * top.toNat) ∧
    ∀ page : UInt32,
      firstRow? (ofPage top page false) = firstRow? (ofPage top page true) ↔ page = 0 := by
  refine ⟨fun page hnext => ?_, fun page hpage hnext => ?_, firstRow?_ofPage_zero htop false,
    firstRow?_ofPage_offset htop (by decide), fun page => ⟨fun hsame => ?_, ?_⟩⟩
  · rw [firstRow?_ofPage_skipToken htop, firstRow?_ofPage_skipToken htop, toNat_succ hnext,
      Nat.add_one_mul]
    rfl
  · -- The next page is not page 0, as page numbers do not wrap.
    have hsucc : page + 1 ≠ 0 := by
      intro hzero
      have := toNat_succ hnext
      rw [hzero] at this
      exact absurd this.symm (Nat.succ_ne_zero _)
    rw [firstRow?_ofPage_offset htop hsucc, firstRow?_ofPage_offset htop hpage, toNat_succ hnext,
      Nat.add_one_mul]
    rfl
  · -- Away from page 0 the two ways differ by the size of a page.
    apply Decidable.byContradiction
    intro hpage
    rw [firstRow?_ofPage_offset htop hpage, firstRow?_ofPage_skipToken htop,
      Nat.add_one_mul] at hsame
    have hpositive : top.toNat ≠ 0 := fun hzero => htop (UInt32.toNat_inj.mp hzero)
    have hrows := Option.some.inj hsame
    omega
  · rintro rfl
    rw [firstRow?_ofPage_zero htop, firstRow?_ofPage_zero htop]

/-- The first two pages of fifty rows begin at rows 0 and 100. -/
theorem offset_pages_leave_gap_fifty :
    (50 : UInt32) ≠ 0 ∧ firstRow? (ofPage 50 0 false) = some 0 ∧
      firstRow? (ofPage 50 1 false) = some 100 := by
  have hfifty : (50 : UInt32) ≠ 0 := by decide
  obtain ⟨-, -, hfirst, hsecond, -⟩ := offset_pages_leave_gap hfifty
  exact ⟨hfifty, hfirst, hsecond⟩

/-- So pages do not always fit together. -/
theorem not_all_pages_fit :
    ¬ ∀ top page : UInt32, top ≠ 0 → page.toNat + 1 < UInt32.size →
      (∀ skipTokens, firstRow? (ofPage top (page + 1) skipTokens)
        = (firstRow? (ofPage top page skipTokens)).map (· + top.toNat)) ∧
      firstRow? (ofPage top page false) = firstRow? (ofPage top page true) := by
  intro hfit
  have hfirst := (hfit 50 0 (by decide) (by decide)).1 false
  exact absurd hfirst (by decide)

end ODataQuery.Paging
