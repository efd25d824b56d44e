import Mathlib
import ODataQuery.Proofs.Request.Pages
import ODataQuery.Proofs.Request.Parts

/-!
# Query parts of pages

The query parts of a page say how it is requested (`queryParts_injective`), and that says which page
it is: the number of rows to skip is exact, so it determines the page (`skip_inj`). Requests for
different pages therefore differ in their parts, apart from inputs that a request does not depend
on: the page if there is no page size, and the way of paging on page 0
(`queryParts_ofPage_eq_iff`).
-/

namespace ODataQuery.Paging

/-! ## The parts say how a page is requested

Every part begins with its own name and ends with a number, and decimal numbers can be read back. -/

theorem topPart_inj {top top' : UInt32} : topPart top = topPart top' ↔ top = top' := by
  rw [topPart, topPart, String.append_right_inj, Nat.repr_inj, UInt32.toNat_inj]

/-- The part of an offset is not the part of a page token: they part after `$skip`. -/
theorem offsetPart_ne_tokenPart (skip number : Nat) :
    "$skip=" ++ Nat.repr skip ≠ "$skiptoken=<cookie pagenumber='" ++ Nat.repr number ++ "' />" := by
  intro h
  have hlists := congrArg String.toList h
  simp only [String.toList_append] at hlists
  exact absurd hlists (by simp)

/-- The parts of a request determine how the page is requested. -/
theorem queryParts_injective : Function.Injective queryParts := by
  intro paging paging' h
  -- The number of parts and the name of the second one tell the ways apart.
  cases paging with
  | unbounded =>
    cases paging' with
    | unbounded => rfl
    | _ => simp [queryParts] at h
  | first top =>
    cases paging' with
    | first top' =>
      simp only [queryParts, List.cons.injEq, topPart_inj, and_true] at h
      rw [h]
    | _ => simp [queryParts] at h
  | offset top skip =>
    cases paging' with
    | offset top' skip' =>
      simp only [queryParts, List.cons.injEq, topPart_inj, String.append_right_inj, Nat.repr_inj,
        UInt64.toNat_inj, and_true] at h
      rw [h.1, h.2]
    | skipToken top' number' =>
      simp only [queryParts, List.cons.injEq] at h
      exact absurd h.2.1 (offsetPart_ne_tokenPart _ _)
    | _ => simp [queryParts] at h
  | skipToken top number =>
    cases paging' with
    | skipToken top' number' =>
      simp only [queryParts, List.cons.injEq, topPart_inj, String.append_left_inj,
        String.append_right_inj, Nat.repr_inj, UInt64.toNat_inj, and_true] at h
      rw [h.1, h.2]
    | offset top' skip' =>
      simp only [queryParts, List.cons.injEq] at h
      exact absurd h.2.1.symm (offsetPart_ne_tokenPart _ _)
    | _ => simp [queryParts] at h

/-! ## How a page is requested says which page it is

The page size is found in the request. With a size, page 0 has no second number, and on all other
pages the second number determines the page. -/

section Page

variable {top page page' : UInt32}

theorem pageNumber_inj : page.toUInt64 + 1 = page'.toUInt64 + 1 ↔ page = page' := by
  rw [← UInt64.toNat_inj, toNat_pageNumber, toNat_pageNumber, Nat.add_right_cancel_iff,
    UInt32.toNat_inj]

/-- The product does not wrap, so the factor that is not the page size can be read off. -/
theorem skip_inj (htop : top ≠ 0) :
    (page.toUInt64 + 1) * top.toUInt64 = (page'.toUInt64 + 1) * top.toUInt64 ↔ page = page' := by
  have hpositive : 0 < top.toNat :=
    Nat.pos_of_ne_zero fun hzero => htop (UInt32.toNat_inj.mp hzero)
  rw [← UInt64.toNat_inj, toNat_skip, toNat_skip, Nat.mul_left_inj (Nat.ne_of_gt hpositive),
    Nat.add_right_cancel_iff, UInt32.toNat_inj]

/-- On page 0 only the size counts. -/
theorem ofPage_first (htop : top ≠ 0) (skipTokens : Bool) :
    ofPage top 0 skipTokens = .first top := by
  rw [ofPage, if_neg htop, if_pos rfl]

/-- On any other page there is a number besides the size, and which one depends on the way of
paging. -/
theorem ofPage_later (htop : top ≠ 0) (hpage : page ≠ 0) (skipTokens : Bool) :
    ofPage top page skipTokens
      = if skipTokens then .skipToken top (page.toUInt64 + 1)
        else .offset top ((page.toUInt64 + 1) * top.toUInt64) := by
  rw [ofPage, if_neg htop, if_neg hpage]

/-- Page 0 is requested unlike any other page. -/
theorem ofPage_first_ne_later (htop : top ≠ 0) (hpage : page ≠ 0) (skipTokens skipTokens' : Bool) :
    ofPage top 0 skipTokens ≠ ofPage top page skipTokens' := by
  rw [ofPage_first htop, ofPage_later htop hpage]
  cases skipTokens' <;> simp

/-- Among the pages after the first one, page and way of paging can be read off a request. -/
theorem ofPage_later_inj (htop : top ≠ 0) (hpage : page ≠ 0) (hpage' : page' ≠ 0)
    {skipTokens skipTokens' : Bool}
    (h : ofPage top page skipTokens = ofPage top page' skipTokens') :
    page = page' ∧ skipTokens = skipTokens' := by
  rw [ofPage_later htop hpage, ofPage_later htop hpage'] at h
  cases skipTokens with
  | false =>
    cases skipTokens' with
    | false => exact ⟨(skip_inj htop).mp (offset.inj h).2, rfl⟩
    | true => simp at h
  | true =>
    cases skipTokens' with
    | false => simp at h
    | true => exact ⟨pageNumber_inj.mp (skipToken.inj h).2, rfl⟩

/-- The page size of a request, if it has one. -/
def size? : Paging → Option UInt32
  | .unbounded => none
  | .first top | .offset top _ | .skipToken top _ => some top

/-- A page has the size that was asked for, and none if that is zero. -/
theorem size?_ofPage (top page : UInt32) (skipTokens : Bool) :
    (ofPage top page skipTokens).size? = if top = 0 then none else some top := by
  unfold ofPage
  split
  · rfl
  · split
    · rfl
    · split <;> rfl

/-- Requests for pages are the same if nothing differs that they depend on. -/
theorem ofPage_eq_iff {top' : UInt32} {skipTokens skipTokens' : Bool} :
    ofPage top page skipTokens = ofPage top' page' skipTokens' ↔
      top = top' ∧ (top = 0 ∨ page = page' ∧ (page = 0 ∨ skipTokens = skipTokens')) := by
  constructor
  · intro h
    -- The sizes are part of the request, so they are compared first.
    have htops : top = top' := by
      have hsizes := congrArg size? h
      rw [size?_ofPage, size?_ofPage] at hsizes
      grind
    subst htops
    by_cases htop : top = 0
    · exact ⟨rfl, .inl htop⟩
    by_cases hpage : page = 0
    · subst hpage
      have hpage' : page' = 0 := by
        by_contra hpage'
        exact ofPage_first_ne_later htop hpage' _ _ h
      exact ⟨rfl, .inr ⟨hpage'.symm, .inl rfl⟩⟩
    · have hpage' : page' ≠ 0 := by
        rintro rfl
        exact ofPage_first_ne_later htop hpage _ _ h.symm
      obtain ⟨hpages, hmodes⟩ := ofPage_later_inj htop hpage hpage' h
      exact ⟨rfl, .inr ⟨hpages, .inr hmodes⟩⟩
  · rintro ⟨rfl, rfl | ⟨rfl, rfl | rfl⟩⟩
    · rfl
    · unfold ofPage
      split <;> rfl
    · rfl

end Page

/-! ## The header names the page size of the parts

The size in the header is that of the page. For the parts it has to be shown that no other one
begins like a page size. -/

/-- Of the parts of a page with a size, exactly one begins like a page size, and it is that of the
page. -/
theorem mem_queryParts_topPart_iff {paging : Paging} {top : UInt32} (h : paging.size? = some top)
    (part : String) :
    part ∈ paging.queryParts ∧ "$top=".toList <+: part.toList ↔ part = topPart top := by
  have hprefix : "$top=".toList <+: (topPart top).toList := by
    rw [topPart, String.toList_append]
    exact List.prefix_append _ _
  -- The names of the other parts do not begin in this way.
  have hskip : ∀ skip, ¬ "$top=".toList <+: ("$skip=" ++ skip : String).toList := by
    intro skip
    rw [String.toList_append]
    simp
  have htoken : ∀ number, ¬ "$top=".toList <+:
      ("$skiptoken=<cookie pagenumber='" ++ number ++ "' />" : String).toList := by
    intro number
    rw [String.append_assoc, String.toList_append]
    simp
  constructor
  · rintro ⟨hpart, hbegins⟩
    cases paging with
    | unbounded => simp [size?] at h
    | first top' =>
      obtain rfl : top' = top := Option.some.inj h
      simpa [queryParts] using hpart
    | offset top' skip =>
      obtain rfl : top' = top := Option.some.inj h
      simp only [queryParts, List.mem_cons, List.not_mem_nil, or_false] at hpart
      exact hpart.resolve_right fun hlater => hskip _ (hlater ▸ hbegins)
    | skipToken top' number =>
      obtain rfl : top' = top := Option.some.inj h
      simp only [queryParts, List.mem_cons, List.not_mem_nil, or_false] at hpart
      exact hpart.resolve_right fun hlater => htoken _ (hlater ▸ hbegins)
  · rintro rfl
    refine ⟨?_, hprefix⟩
    cases paging with
    | unbounded => simp [size?] at h
    | _ =>
      obtain rfl := Option.some.inj h
      exact List.mem_cons_self

/-- Requests for pages have the same query parts only if they ask for the same page: the page size
is the same and, if there is one, the page, and after page 0 the way of paging too. No number wraps
that a request holds. The header for page tokens goes with the part that sends one, and names the
page size of the parts. -/
theorem queryParts_ofPage_eq_iff :
    (∀ (top page top' page' : UInt32) (skipTokens skipTokens' : Bool),
      (ofPage top page skipTokens).queryParts = (ofPage top' page' skipTokens').queryParts ↔
        top = top' ∧ (top = 0 ∨ page = page' ∧ (page = 0 ∨ skipTokens = skipTokens'))) ∧
    (∀ top page : UInt32,
      page.toNat + 1 < UInt64.size ∧ (page.toNat + 1) * top.toNat < UInt64.size ∧
      (top ≠ 0 → page ≠ 0 →
        (∃ number, ofPage top page true = .skipToken top number ∧
          number.toNat = page.toNat + 1) ∧
        ∃ skip, ofPage top page false = .offset top skip ∧
          skip.toNat = (page.toNat + 1) * top.toNat)) ∧
    ∀ paging : Paging,
      (paging.preferHeader.isSome = true ↔
        ∃ part ∈ paging.queryParts, "$skiptoken=".toList <+: part.toList) ∧
      ∀ header ∈ paging.preferHeader, ∃ top : UInt32,
        header = ("Prefer", "odata.maxpagesize=" ++ Nat.repr top.toNat) ∧
        ∀ part, part ∈ paging.queryParts ∧ "$top=".toList <+: part.toList ↔
          part = "$top=" ++ Nat.repr top.toNat := by
  refine ⟨fun top page top' page' skipTokens skipTokens' => ?_, fun top page => ?_,
    fun paging => ⟨paging.isSome_preferHeader_iff, fun header hheader => ?_⟩⟩
  · rw [queryParts_injective.eq_iff, ofPage_eq_iff]
  · -- What was computed with 64 bits is what the numbers say without bounds.
    have hnumber := (page.toUInt64 + 1).toNat_lt
    have hskip := ((page.toUInt64 + 1) * top.toUInt64).toNat_lt
    rw [toNat_pageNumber] at hnumber
    rw [toNat_skip] at hskip
    refine ⟨hnumber, hskip, fun htop hpage => ⟨?_, ?_⟩⟩
    · exact ⟨_, ofPage_later htop hpage true, toNat_pageNumber page⟩
    · exact ⟨_, ofPage_later htop hpage false, toNat_skip top page⟩
  · cases paging with
    | skipToken top number =>
      obtain rfl := Option.mem_some_iff.mp hheader
      exact ⟨top, rfl, mem_queryParts_topPart_iff rfl⟩
    | _ => simp [preferHeader] at hheader

/-- The largest page of the largest size is requested with a number of rows just below `2 ^ 64`, and
a request for page tokens has its header. -/
theorem queryParts_ofPage_eq_iff_largest :
    (4294967295 : UInt32) ≠ 0 ∧
      (∃ skip, ofPage 4294967295 4294967295 false = .offset 4294967295 skip ∧
        skip.toNat = 18446744069414584320) ∧
      ("Prefer", "odata.maxpagesize=10") ∈ (ofPage 10 1 true).preferHeader ∧
      ∀ part, part ∈ (ofPage 10 1 true).queryParts ∧ "$top=".toList <+: part.toList ↔
        part = "$top=10" := by
  have hlargest : (4294967295 : UInt32) ≠ 0 := by decide
  obtain ⟨-, hexact, hheader⟩ := queryParts_ofPage_eq_iff
  obtain ⟨-, -, hlater⟩ := hexact 4294967295 4294967295
  obtain ⟨skip, hskip, htoNat⟩ := (hlater hlargest hlargest).2
  have hmem : ("Prefer", "odata.maxpagesize=10") ∈ (ofPage 10 1 true).preferHeader := by
    decide +kernel
  obtain ⟨top, hnames, hpart⟩ := (hheader (ofPage 10 1 true)).2 _ hmem
  have htop : "10" = Nat.repr top.toNat := by
    have hvalue := (Prod.mk.inj hnames).2
    exact (String.append_right_inj "odata.maxpagesize=").mp hvalue
  refine ⟨hlargest, ⟨skip, hskip, htoNat⟩, hmem, ?_⟩
  rw [← htop] at hpart
  exact hpart

end ODataQuery.Paging
