import ODataQuery.Store.Volume

/-!
# Entries of a volume

What stands at a location is the last entry that was put there (`entry?_insert_of_ne`). Where every
location is listed once, the files of a directory are those that stand in it
(`ListsOnce.mem_filesIn_iff`).
-/

namespace ODataQuery.Volume

/-! ## Entries

Entries are kept in a list, where a new one takes the place of the old one at its location. The root
is not in the list. -/

section Entries

variable {location other : Location} {entry : Entry}

theorem lookup_place_self (entries : List (Location × Entry)) :
    (place location entry entries).lookup location = some entry := by
  induction entries with
  | nil => simp [place]
  | cons first entries ih =>
    obtain ⟨key, value⟩ := first
    unfold place
    split
    · rw [List.lookup_cons, beq_self_eq_true]
    · next hne =>
      rw [List.lookup_cons, beq_false_of_ne (Ne.symm hne)]
      exact ih

theorem lookup_place_of_ne (hne : other ≠ location) (entries : List (Location × Entry)) :
    (place location entry entries).lookup other = entries.lookup other := by
  induction entries with
  | nil => simp [place, List.lookup_cons, beq_false_of_ne hne]
  | cons first entries ih =>
    obtain ⟨key, value⟩ := first
    unfold place
    split
    · next heq =>
      subst heq
      simp [List.lookup_cons, beq_false_of_ne hne]
    · rw [List.lookup_cons, List.lookup_cons, ih]

/-- Putting an entry at a location lists no other location, and this one not again. -/
theorem count_keys_place (entries : List (Location × Entry)) :
    ((place location entry entries).map Prod.fst).count other
      = if other = location then max 1 ((entries.map Prod.fst).count other)
        else (entries.map Prod.fst).count other := by
  induction entries with
  | nil => by_cases h : other = location <;> simp [place, h, Ne.symm]
  | cons first entries ih =>
    obtain ⟨key, value⟩ := first
    unfold place
    -- The location is listed already, or the list goes on.
    split
    · next heq =>
      subst heq
      by_cases h : other = key
      · simp [h]
      · simp [h]
    · next hne =>
      simp only [List.map_cons, List.count_cons, ih]
      by_cases h : other = location
      · subst h
        simp [hne]
      · simp [h]

variable {volume : Volume}

theorem entry?_of_ne_nil (hne : location ≠ []) :
    volume.entry? location = volume.entries.lookup location := if_neg hne

theorem ne_nil_of_below {directory : Location} (hbelow : directory <+: location)
    (hne : location ≠ directory) : location ≠ [] := by
  rintro rfl
  exact hne (List.prefix_nil.mp hbelow).symm

/-- What was inserted stands there. -/
theorem entry?_insert_self (hne : location ≠ []) :
    entry? (volume.insert location entry) location = some entry := by
  rw [entry?_of_ne_nil hne, insert, lookup_place_self]

/-- What stood elsewhere still stands there. -/
theorem entry?_insert_of_ne (hne : other ≠ location) :
    entry? (volume.insert location entry) other = volume.entry? other := by
  unfold entry?
  rw [insert, lookup_place_of_ne hne]

/-- Every location below the directory is listed once at most. -/
def ListsOnce (volume : Volume) (directory : Location) : Prop :=
  ∀ location, directory <+: location → location ≠ directory →
    (volume.entries.map Prod.fst).count location ≤ 1

/-- If there is nothing below a directory, nothing is listed twice. -/
theorem ListsOnce.of_forall_eq_none {directory : Location}
    (h : ∀ location, directory <+: location → location ≠ directory →
      volume.entry? location = none) : volume.ListsOnce directory := by
  intro location hbelow hne
  have hlookup := h location hbelow hne
  rw [entry?_of_ne_nil (ne_nil_of_below hbelow hne), List.lookup_eq_none_iff] at hlookup
  have hlisted : location ∉ volume.entries.map Prod.fst := by
    intro hmem
    obtain ⟨listed, hlisted, rfl⟩ := List.mem_map.mp hmem
    exact absurd (hlookup listed hlisted) (by simp)
  rw [List.count_eq_zero_of_not_mem hlisted]
  exact Nat.zero_le 1

/-- An insertion lists nothing twice. -/
theorem ListsOnce.insert {directory : Location} (h : volume.ListsOnce directory)
    (location : Location) (entry : Entry) : (volume.insert location entry).ListsOnce directory := by
  intro other hbelow hne
  have hother := h other hbelow hne
  show ((place location entry volume.entries).map Prod.fst).count other ≤ 1
  rw [count_keys_place]
  split <;> omega

/-- If a location is listed once, what is listed stands there. -/
theorem ListsOnce.mem_entries_iff {directory : Location} (h : volume.ListsOnce directory)
    (hbelow : directory <+: location) (hne : location ≠ directory) :
    (location, entry) ∈ volume.entries ↔ volume.entry? location = some entry := by
  have honce := h location hbelow hne
  rw [entry?_of_ne_nil (ne_nil_of_below hbelow hne)]
  constructor
  · intro hmem
    cases hlookup : volume.entries.lookup location with
    | none => exact absurd (List.lookup_eq_none_iff.mp hlookup _ hmem) (by simp)
    | some first =>
      -- Looking up gives the first entry of the location, and there is no other one.
      obtain ⟨l₁, l₂, hentries, hfirst⟩ := List.lookup_eq_some_iff.mp hlookup
      rw [hentries, List.mem_append, List.mem_cons] at hmem
      rcases hmem with hmem | heq | hmem
      · exact absurd (hfirst _ hmem) (by simp)
      · rw [(Prod.mk.inj heq).2]
      · -- The location would be listed twice.
        have hagain : location ∈ l₂.map Prod.fst := List.mem_map.mpr ⟨_, hmem, rfl⟩
        have := List.one_le_count_iff.mpr hagain
        rw [hentries] at honce
        simp only [List.map_append, List.map_cons, List.count_append, List.count_cons_self] at honce
        omega
  · intro hlookup
    obtain ⟨l₁, l₂, hentries, _⟩ := List.lookup_eq_some_iff.mp hlookup
    rw [hentries]
    simp

/-! ## Files of a directory

The files of a directory are listed in the order of their names. Which files these are, and that
none comes twice, does not depend on the order. -/

/-- What the entry shows in a list of the files of a directory. -/
def listed? (directory : Location) : Location × Entry → Option (String × String)
  | (location, .file text) =>
    if location.dropLast = directory then location.getLast?.map (·, text) else none
  | (_, .directory) => none

/-- Listing only sorts the files. -/
theorem filesIn_perm (volume : Volume) (directory : Location) :
    (volume.filesIn directory).Perm (volume.entries.filterMap (listed? directory)) :=
  List.mergeSort_perm _ _

/-- What is listed is a file that stands directly in the directory. -/
theorem listed?_eq_some_iff {directory : Location} {listing : Location × Entry}
    {name text : String} :
    listed? directory listing = some (name, text)
      ↔ listing = (directory ++ [name], .file text) := by
  obtain ⟨location, entry⟩ := listing
  -- A location is its directory and its last name.
  have hlast : location.dropLast = directory ∧ location.getLast? = some name
      ↔ location = directory ++ [name] := by
    constructor
    · rintro ⟨rfl, hlast⟩
      obtain ⟨before, rfl⟩ := List.getLast?_eq_some_iff.mp hlast
      rw [List.dropLast_concat]
    · rintro rfl
      simp
  cases entry with
  | directory => simp [listed?]
  | file other =>
    rw [listed?, Prod.mk.injEq, ← hlast, Entry.file.injEq]
    split
    · next hdirectory =>
      simp only [hdirectory, true_and, Option.map_eq_some_iff, Prod.mk.injEq]
      constructor
      · rintro ⟨last, hname, rfl, htext⟩
        exact ⟨hname, htext⟩
      · rintro ⟨hname, htext⟩
        exact ⟨name, hname, rfl, htext⟩
    · next hdirectory => simp [hdirectory]

theorem concat_ne_of_below {root directory : Location} (hbelow : root <+: directory)
    (name : String) : directory ++ [name] ≠ root := by
  intro heq
  have hlength := hbelow.length_le
  rw [← heq, List.length_append, List.length_singleton] at hlength
  omega

/-- The files of a directory are those that stand in it. -/
theorem ListsOnce.mem_filesIn_iff {root directory : Location} (h : volume.ListsOnce root)
    (hbelow : root <+: directory) {name text : String} :
    (name, text) ∈ volume.filesIn directory
      ↔ volume.entry? (directory ++ [name]) = some (.file text) := by
  rw [← h.mem_entries_iff (hbelow.trans (List.prefix_append _ _)) (concat_ne_of_below hbelow name),
    (volume.filesIn_perm directory).mem_iff, List.mem_filterMap]
  constructor
  · rintro ⟨listing, hmem, hlisted⟩
    exact listed?_eq_some_iff.mp hlisted ▸ hmem
  · exact fun hmem => ⟨_, hmem, listed?_eq_some_iff.mpr rfl⟩

/-- No file of a directory is listed twice. -/
theorem ListsOnce.nodup_filesIn {root directory : Location} (h : volume.ListsOnce root)
    (hbelow : root <+: directory) : ((volume.filesIn directory).map Prod.fst).Nodup := by
  -- Each listing of a file is one of its location.
  have hcount : ∀ (name : String) (entries : List (Location × Entry)),
      ((entries.filterMap (listed? directory)).map Prod.fst).count name
        ≤ (entries.map Prod.fst).count (directory ++ [name]) := by
    intro name entries
    induction entries with
    | nil => simp
    | cons listing entries ih =>
      cases hlisted : listed? directory listing with
      | none =>
        rw [List.filterMap_cons_none hlisted, List.map_cons, List.count_cons]
        omega
      | some file =>
        obtain ⟨other, text⟩ := file
        have hlisting := listed?_eq_some_iff.mp hlisted
        rw [List.filterMap_cons_some hlisted, hlisting]
        simp only [List.map_cons, List.count_cons]
        by_cases heq : other = name <;> simp [heq] <;> omega
  rw [((volume.filesIn_perm directory).map Prod.fst).nodup_iff, List.nodup_iff_count]
  intro name
  have hlocation := h (directory ++ [name]) (hbelow.trans (List.prefix_append _ _))
    (concat_ne_of_below hbelow name)
  exact Nat.le_trans (hcount name volume.entries) hlocation

end Entries

end ODataQuery.Volume
