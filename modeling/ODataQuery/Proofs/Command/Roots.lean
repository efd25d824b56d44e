import Mathlib.Data.List.DropRight
import ODataQuery.Context

/-!
# Service roots

The service root of a context, and one that is given as an argument, is a URL without the slashes at
its end. `IsTrimmed` says so without a way to compute it, and `isTrimmed_iff` that there is just one
such root for each URL, which is the one that is computed.
-/

namespace ODataQuery

/-- The URL is the root and slashes, and the root does not end in a slash. -/
structure IsTrimmed (url root : String) : Prop where
  slashes : ∃ n, url.toList = root.toList ++ List.replicate n '/'
  getLast? : root.toList.getLast? ≠ some '/'

theorem toList_trimSlashes (url : String) :
    (trimSlashes url).toList = url.toList.rdropWhile (fun c => decide (c = '/')) := by
  rw [trimSlashes, String.toList_ofList]
  rfl

/-- What is computed is the URL without some slashes, and does not end in another one. -/
theorem isTrimmed_trimSlashes (url : String) : IsTrimmed url (trimSlashes url) where
  slashes := by
    let slashes := url.toList.rtakeWhile (fun c => decide (c = '/'))
    have hslashes : slashes = List.replicate slashes.length '/' :=
      List.eq_replicate_of_mem fun c hc => by simpa using List.mem_rtakeWhile_imp hc
    refine ⟨slashes.length, ?_⟩
    rw [toList_trimSlashes, ← hslashes]
    exact List.rdropWhile_append_rtakeWhile.symm
  getLast? := by
    rw [toList_trimSlashes]
    intro h
    have hne : url.toList.rdropWhile (fun c => decide (c = '/')) ≠ [] := by
      intro hnil
      simp [hnil] at h
    rw [List.getLast?_eq_some_getLast hne] at h
    exact List.rdropWhile_last_not _ _ hne (by simpa using h)

/-- Each URL has one root. -/
theorem isTrimmed_iff {url root : String} : IsTrimmed url root ↔ root = trimSlashes url := by
  constructor
  · rintro ⟨⟨n, hslashes⟩, hlast⟩
    refine String.toList_injective ?_
    -- From the end, the slashes go first, and then the root ends the dropping.
    have hkept : root.toList.rdropWhile (fun c => decide (c = '/')) = root.toList := by
      rw [List.rdropWhile_eq_self_iff]
      intro hne hslash
      exact hlast (by rw [List.getLast?_eq_some_getLast hne, of_decide_eq_true hslash])
    rw [toList_trimSlashes, hslashes, List.rdropWhile, List.reverse_append,
      List.dropWhile_append_of_pos (by simp)]
    exact hkept.symm
  · rintro rfl
    exact isTrimmed_trimSlashes url

end ODataQuery
