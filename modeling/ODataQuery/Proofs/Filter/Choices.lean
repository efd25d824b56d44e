import ODataQuery.Proofs.Filter.Conditions

/-!
# Tests of chosen values

The values of a test of a multi-select field are quoted but their quotes are not doubled. So the
text tells the test and its field, whatever the values are, and it tells the text that the values
make when they are joined by `','` (`renderMultiSelect_eq_iff`). It does not tell where that text is
cut into values, unless no value has a single quote.
-/

namespace ODataQuery

/-- The values in quotes, with commas between them. -/
def quotedList (values : List String) : String :=
  String.intercalate "," (values.map fun v => "'" ++ v ++ "'")

/-- The characters of a call up to its field. -/
def choiceHead (negated : Bool) : List Char :=
  (vendorNamespace ++ "." ++ (if negated then "DoesNotContainValues" else "ContainValues")
    ++ "(PropertyName='").toList

/-- The call begins with a fixed head that tells both functions apart, and the field ends at the
first quote. -/
theorem toList_renderMultiSelect (negated : Bool) (field : String) (values : List String) :
    (renderMultiSelect negated field values).toList
      = choiceHead negated ++ (field.toList ++ '\'' ::
        (",PropertyValues=[".toList ++ (quotedList values).toList ++ "])".toList)) := by
  have hquote : "',PropertyValues=[".toList = '\'' :: ",PropertyValues=[".toList := by decide
  unfold renderMultiSelect choiceHead quotedList
  simp only [String.toList_append, List.append_assoc, hquote, List.cons_append]

/-- The two functions differ in their first letter. -/
theorem choiceHead_append_inj {a b : Bool} {r s : List Char}
    (h : choiceHead a ++ r = choiceHead b ++ s) : a = b ∧ r = s := by
  have hcontains : choiceHead false
      = "Microsoft.Dynamics.CRM.".toList ++ 'C' :: "ontainValues(PropertyName='".toList := by
    decide
  have hdoesNot : choiceHead true
      = "Microsoft.Dynamics.CRM.".toList ++ 'D' :: "oesNotContainValues(PropertyName='".toList := by
    decide
  cases a <;> cases b
  · exact ⟨rfl, List.append_cancel_left h⟩
  · rw [hcontains, hdoesNot, List.append_assoc, List.append_assoc] at h
    have hletter := (List.cons.inj (List.append_cancel_left h)).1
    exact absurd hletter (by decide)
  · rw [hcontains, hdoesNot, List.append_assoc, List.append_assoc] at h
    have hletter := (List.cons.inj (List.append_cancel_left h)).1
    exact absurd hletter (by decide)
  · exact ⟨rfl, List.append_cancel_left h⟩

/-- The texts of two tests are equal if the tests, their fields and their quoted values are. -/
theorem renderMultiSelect_eq_iff_quotedList {f g : String} (hf : Avoids f ['\''])
    (hg : Avoids g ['\'']) (a b : Bool) (vs ws : List String) :
    renderMultiSelect a f vs = renderMultiSelect b g ws
      ↔ a = b ∧ f = g ∧ quotedList vs = quotedList ws := by
  constructor
  · intro h
    have hchars := congrArg String.toList h
    rw [toList_renderMultiSelect, toList_renderMultiSelect] at hchars
    obtain ⟨hab, hfields⟩ := choiceHead_append_inj hchars
    have hquote : '\'' ∈ ['\''] := by decide
    -- The quote behind the field cannot be part of it.
    obtain ⟨hfg, -, hvalues⟩ := hf.append_inj hg hquote hquote hfields
    rw [List.append_assoc, List.append_assoc] at hvalues
    have hlists := List.append_cancel_right (List.append_cancel_left hvalues)
    exact ⟨hab, hfg, String.toList_injective hlists⟩
  · rintro ⟨rfl, rfl, h⟩
    unfold renderMultiSelect
    unfold quotedList at h
    rw [h]

/-- A list that is not empty has one quote in front and one behind, and two around each comma. -/
theorem quotedList_cons (v : String) (vs : List String) :
    quotedList (v :: vs) = "'" ++ "','".intercalate (v :: vs) ++ "'" := by
  induction vs generalizing v with
  | nil =>
    unfold quotedList
    rw [List.map_singleton, String.intercalate_singleton, String.intercalate_singleton]
  | cons w ws ih =>
    have hsplit : "','" = "'" ++ "," ++ "'" := by decide
    have htail : quotedList (v :: w :: ws) = "'" ++ v ++ "'" ++ "," ++ quotedList (w :: ws) := by
      unfold quotedList
      rw [List.map_cons, List.map_cons, String.intercalate_cons_cons]
    rw [htail, ih, String.intercalate_cons_cons, hsplit]
    simp only [String.append_assoc]

/-- Lists are written alike if both are empty or neither is, and their values are joined alike. -/
theorem quotedList_eq_iff {vs ws : List String} :
    quotedList vs = quotedList ws
      ↔ (vs = [] ↔ ws = []) ∧ "','".intercalate vs = "','".intercalate ws := by
  have hempty : ∀ v vs, quotedList (v :: vs) ≠ quotedList [] := by
    intro v vs h
    rw [quotedList_cons, show quotedList [] = "" from rfl] at h
    simp [String.append_eq_empty_iff] at h
  -- The empty list is the only one without quotes.
  cases vs with
  | nil =>
    cases ws with
    | nil => simp
    | cons w ws => simp [(hempty w ws).symm]
  | cons v vs =>
    cases ws with
    | nil => simp [hempty v vs]
    | cons w ws =>
      rw [quotedList_cons, quotedList_cons]
      constructor
      · intro h
        have hchars := congrArg String.toList h
        simp only [String.toList_append, List.append_assoc] at hchars
        have hjoined := List.append_cancel_right (List.append_cancel_left hchars)
        exact ⟨by simp, String.toList_injective hjoined⟩
      · rintro ⟨-, h⟩
        rw [h]

/-- Values without single quotes are told apart by their quoted list. -/
theorem quotedList_inj {vs ws : List String} (hvs : ∀ v ∈ vs, Avoids v ['\''])
    (hws : ∀ w ∈ ws, Avoids w ['\'']) (h : quotedList vs = quotedList ws) : vs = ws := by
  have hquote : '\'' ∈ ['\''] := by decide
  have hreads := readsLiterals_intercalate fun v hv => (hvs v hv).not_mem hquote
  have hreads' := readsLiterals_intercalate fun w hw => (hws w hw).not_mem hquote
  have hchars : (quotedList vs).toList ++ [']'] = (quotedList ws).toList ++ [']'] := by rw [h]
  exact (hreads.append_inj hreads' hchars).1

/-- For fields without single quotes, the texts of two tests of chosen values are equal if and only
if both ask the same of the same field and their values make the same text when they are joined by
`','`, where no values differ from one empty value. In particular the values are the same if none
of them has a single quote. -/
theorem renderMultiSelect_eq_iff {f g : String} (hf : Avoids f ['\'']) (hg : Avoids g ['\''])
    (a b : Bool) (vs ws : List String) :
    (renderMultiSelect a f vs = renderMultiSelect b g ws
      ↔ a = b ∧ f = g ∧ (vs = [] ↔ ws = []) ∧ "','".intercalate vs = "','".intercalate ws) ∧
    ((∀ v ∈ vs, Avoids v ['\'']) → (∀ w ∈ ws, Avoids w ['\'']) →
      renderMultiSelect a f vs = renderMultiSelect b g ws → a = b ∧ f = g ∧ vs = ws) := by
  have hequal := renderMultiSelect_eq_iff_quotedList hf hg a b vs ws
  constructor
  · rw [hequal, quotedList_eq_iff]
  · intro hvs hws h
    obtain ⟨hab, hfg, hlists⟩ := hequal.mp h
    exact ⟨hab, hfg, quotedList_inj hvs hws hlists⟩

/-- One value with a whole separator in it reads like two values; with a comma alone it does not. -/
theorem renderMultiSelect_eq_iff_separator :
    renderMultiSelect false "tags" ["1','2"] = renderMultiSelect false "tags" ["1", "2"] ∧
    renderMultiSelect false "tags" ["1,2"] ≠ renderMultiSelect false "tags" ["1", "2"] := by
  have hfield : Avoids "tags" ['\''] := by decide
  constructor
  · exact (renderMultiSelect_eq_iff hfield hfield false false _ _).1.mpr (by decide)
  · intro h
    have hvalues := (renderMultiSelect_eq_iff hfield hfield false false ["1,2"] ["1", "2"]).2
      (by decide) (by decide) h
    exact absurd hvalues.2.2 (by decide)

/-- Values are not kept apart: a value can close its quotes and pass for two. -/
theorem not_values_kept_apart :
    ¬ ∀ (a b : Bool) (f g : String) (vs ws : List String), Avoids f ['\''] → Avoids g ['\''] →
      renderMultiSelect a f vs = renderMultiSelect b g ws → a = b ∧ f = g ∧ vs = ws := by
  intro h
  have hsame := h false false "tags" "tags" ["1','2"] ["1", "2"] (by decide) (by decide) (by decide)
  exact absurd hsame.2.2 (by decide)

end ODataQuery
