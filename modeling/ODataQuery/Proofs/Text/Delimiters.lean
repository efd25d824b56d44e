/-!
# Texts without delimiters

A text that holds no delimiter ends at the first delimiter after it, so it can be told apart from
what follows (`Avoids.append_inj`).
-/

namespace ODataQuery

/-- The text holds none of the given characters. -/
def Avoids (text : String) (delimiters : List Char) : Prop :=
  ∀ c ∈ text.toList, c ∉ delimiters

instance (text : String) (delimiters : List Char) : Decidable (Avoids text delimiters) :=
  List.decidableBAll (fun c => c ∉ delimiters) text.toList

namespace Avoids

variable {s t : String} {delimiters : List Char}

/-- A text avoids what both of its parts avoid. -/
theorem append_iff : Avoids (s ++ t) delimiters ↔ Avoids s delimiters ∧ Avoids t delimiters := by
  constructor
  · intro h
    exact ⟨fun c hc => h c (by simp [hc]), fun c hc => h c (by simp [hc])⟩
  · rintro ⟨hs, ht⟩ c hc
    rw [String.toList_append] at hc
    exact (List.mem_append.mp hc).elim (hs c) (ht c)

/-- Texts that avoid the delimiters can be put together. -/
theorem append (hs : Avoids s delimiters) (ht : Avoids t delimiters) :
    Avoids (s ++ t) delimiters :=
  append_iff.mpr ⟨hs, ht⟩

/-- Joining with a text that avoids the delimiters adds none of them. -/
theorem intercalate {texts : List String} (hs : Avoids s delimiters)
    (htexts : ∀ t ∈ texts, Avoids t delimiters) : Avoids (s.intercalate texts) delimiters := by
  induction texts with
  | nil =>
    rw [String.intercalate_nil]
    exact fun c hc => absurd hc (by simp)
  | cons t texts ih =>
    have ht := htexts t List.mem_cons_self
    have ih := ih fun u hu => htexts u (List.mem_cons_of_mem _ hu)
    -- The text between them stands only where another one follows.
    cases texts with
    | nil => rwa [String.intercalate_singleton]
    | cons u texts =>
      rw [String.intercalate_cons_cons]
      exact (ht.append hs).append ih

/-- What avoids some characters avoids any of them. -/
theorem mono {fewer : List Char} (hs : Avoids s delimiters)
    (hfewer : fewer ⊆ delimiters) : Avoids s fewer :=
  fun c hc hmem => hs c hc (hfewer hmem)

theorem not_mem {d : Char} (hs : Avoids s delimiters) (hd : d ∈ delimiters) : d ∉ s.toList :=
  fun hmem => hs d hmem hd

/-- A text without delimiters and the delimiter after it are determined by the two together,
whatever follows. Induction on the one text, by cases on the other. -/
theorem append_inj {d e : Char} {r u : List Char} (hs : Avoids s delimiters)
    (ht : Avoids t delimiters) (hd : d ∈ delimiters) (he : e ∈ delimiters)
    (h : s.toList ++ d :: r = t.toList ++ e :: u) : s = t ∧ d = e ∧ r = u := by
  -- The texts are compared character by character: the first delimiter ends both of them.
  have hlists : ∀ cs ds : List Char, (∀ c ∈ cs, c ∉ delimiters) → (∀ c ∈ ds, c ∉ delimiters) →
      cs ++ d :: r = ds ++ e :: u → cs = ds ∧ d = e ∧ r = u := by
    intro cs
    induction cs with
    | nil =>
      intro ds _ hds heq
      cases ds with
      | nil =>
        obtain ⟨hde, hru⟩ := List.cons.inj heq
        exact ⟨rfl, hde, hru⟩
      | cons c ds =>
        obtain ⟨hdc, _⟩ := List.cons.inj heq
        exact absurd hd (hdc ▸ hds c List.mem_cons_self)
    | cons c cs ih =>
      intro ds hcs hds heq
      cases ds with
      | nil =>
        obtain ⟨hce, _⟩ := List.cons.inj heq
        exact absurd he (hce ▸ hcs c List.mem_cons_self)
      | cons c' ds =>
        obtain ⟨rfl, htail⟩ := List.cons.inj heq
        obtain ⟨rfl, hrest⟩ := ih ds (fun x hx => hcs x (List.mem_cons_of_mem _ hx))
          (fun x hx => hds x (List.mem_cons_of_mem _ hx)) htail
        exact ⟨rfl, hrest⟩
  obtain ⟨hst, hrest⟩ := hlists s.toList t.toList hs ht h
  exact ⟨String.toList_injective hst, hrest⟩

/-- Two texts without delimiters cannot be followed by different ones. -/
theorem append_ne {d e : Char} {r u : List Char} (hs : Avoids s delimiters)
    (ht : Avoids t delimiters) (hd : d ∈ delimiters) (he : e ∈ delimiters) (hne : d ≠ e) :
    s.toList ++ d :: r ≠ t.toList ++ e :: u :=
  fun h => hne (hs.append_inj ht hd he h).2.1

/-- A text without delimiters does not begin with one, if it is not empty. -/
theorem append_ne_cons {d : Char} {r u : List Char} (hs : Avoids s delimiters) (hne : s ≠ "")
    (hd : d ∈ delimiters) : s.toList ++ r ≠ d :: u := by
  intro h
  cases hcs : s.toList with
  | nil => exact hne (String.toList_eq_nil_iff.mp hcs)
  | cons c cs =>
    rw [hcs] at h
    have hc : c = d := (List.cons.inj h).1
    exact hs c (by rw [hcs]; exact List.mem_cons_self) (hc ▸ hd)

end Avoids

/-- The characters that end a word of a filter expression. -/
def wordDelimiters : List Char := [' ', '(', ')', '\'', ',']

end ODataQuery
