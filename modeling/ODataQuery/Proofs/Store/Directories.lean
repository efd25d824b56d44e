import ODataQuery.Proofs.Store.Paths

/-!
# Making directories

Making the directories of a path takes nothing away, whatever the path is: what stood somewhere
still stands there, and the path leads into a directory afterwards (`leadsTo_of_makeDirectories`).
The directories of a longer path are made after those of its beginning (`makeAll_append_of_made`).
-/

namespace ODataQuery.Volume

variable {volume after : Volume} {directory location : Location} {name : String}
  {names : List String}

/-! ## What is added

Making directories puts directories where nothing was, so whatever was found before is still found.
-/

theorem ne_nil_of_entry?_ne (h : volume.entry? location ≠ some .directory) : location ≠ [] := by
  rintro rfl
  exact h rfl

theorem ne_nil_of_entry?_none (h : volume.entry? location = none) : location ≠ [] := by
  have hne : volume.entry? location ≠ some .directory := by simp [h]
  exact ne_nil_of_entry?_ne hne

namespace Adds

variable {places : Location → Prop}

theorem trans {last : Volume} (h : Adds places volume after) (h' : Adds places after last) :
    Adds places volume last := by
  induction h with
  | refl volume => exact h'
  | insert hplace hnone _ ih => exact .insert hplace hnone (ih h')

/-- What stood somewhere still stands there. -/
theorem entry?_of_some {entry : Entry} (h : Adds places volume after)
    (hentry : volume.entry? location = some entry) : after.entry? location = some entry := by
  induction h with
  | refl volume => exact hentry
  | @insert volume after place hplace hnone _ ih =>
    refine ih ?_
    -- A directory was added where nothing stood, so somewhere else.
    have hne : location ≠ place := by
      rintro rfl
      exact absurd (hnone.symm.trans hentry) (by simp)
    rw [entry?_insert_of_ne hne, hentry]

/-- Elsewhere nothing changes. -/
theorem entry?_of_not (h : Adds places volume after) (hplaces : ¬ places location) :
    after.entry? location = volume.entry? location := by
  induction h with
  | refl volume => rfl
  | @insert volume after place hplace hnone _ ih =>
    have hne : location ≠ place := by
      rintro rfl
      exact hplaces hplace
    rw [ih, entry?_insert_of_ne hne]

/-- All files are old. -/
theorem entry?_of_file {text : String} (h : Adds places volume after)
    (hfile : after.entry? location = some (.file text)) :
    volume.entry? location = some (.file text) := by
  induction h with
  | refl volume => exact hfile
  | @insert volume after place hplace hnone _ ih =>
    have hinserted := ih hfile
    by_cases heq : location = place
    · subst heq
      rw [entry?_insert_self (ne_nil_of_entry?_none hnone)] at hinserted
      exact absurd hinserted (by simp)
    · rwa [entry?_insert_of_ne heq] at hinserted

end Adds

/-- What was found before is still found. -/
theorem Adds.look {places : Location → Prop} {path : String} {entry : Entry}
    (h : Adds places volume after) (hlook : volume.look path = .ok entry) :
    after.look path = .ok entry := by
  obtain ⟨location, hlocate, hentry⟩ := look_eq_ok_iff.mp hlook
  exact look_eq_ok_iff.mpr ⟨location, h.grows.locate hlocate, h.entry?_of_some hentry⟩

/-! ## Files of a directory

New directories do not show among the files of a directory. -/

theorem filesIn_eq (volume : Volume) (directory : Location) :
    volume.filesIn directory
      = (volume.entries.filterMap (listed? directory)).mergeSort fun a b => a.1 ≤ b.1 := rfl

/-- An entry that a directory does not list is put where it listed nothing before. -/
theorem filesIn_insert {entry : Entry} (hnew : listed? directory (location, entry) = none)
    (hold : ∀ old, (location, old) ∈ volume.entries → listed? directory (location, old) = none) :
    (volume.insert location entry).filesIn directory = volume.filesIn directory := by
  have hlisted : ∀ entries : List (Location × Entry),
      (∀ old, (location, old) ∈ entries → listed? directory (location, old) = none) →
      (place location entry entries).filterMap (listed? directory)
        = entries.filterMap (listed? directory) := by
    intro entries hold
    -- The entry is replaced where it stands, or it comes last.
    induction entries with
    | nil => rw [place, List.filterMap_cons_none hnew]
    | cons first entries ih =>
      obtain ⟨other, old⟩ := first
      have hrest := ih fun old hmem => hold old (List.mem_cons_of_mem _ hmem)
      unfold place
      split
      · next heq =>
        subst heq
        rw [List.filterMap_cons_none hnew,
          List.filterMap_cons_none (hold old List.mem_cons_self)]
      · rw [List.filterMap_cons, List.filterMap_cons, hrest]
  rw [filesIn_eq, filesIn_eq, insert, hlisted volume.entries hold]

/-- What stands elsewhere is not listed. -/
theorem listed?_of_dropLast_ne {entry : Entry} (h : location.dropLast ≠ directory) :
    listed? directory (location, entry) = none := by
  cases entry with
  | directory => rfl
  | file text => rw [listed?, if_neg h]

/-- New directories are not listed. -/
theorem Adds.filesIn {places : Location → Prop} (h : Adds places volume after)
    (directory : Location) : after.filesIn directory = volume.filesIn directory := by
  induction h with
  | refl volume => rfl
  | @insert volume after place hplace hnone _ ih =>
    rw [ih, filesIn_insert rfl]
    intro old hmem
    -- Nothing is found at the place, so it is not listed either.
    rw [entry?_of_ne_nil (ne_nil_of_entry?_none hnone), List.lookup_eq_none_iff] at hnone
    exact absurd (hnone _ hmem) (by simp)

/-! ## One directory after the other

The directories of a path are made from the first name to the last one. The walk ends where entering
all names one after the other leads to. -/

/-- Enters a directory, which is made if it is missing. -/
def enterMade (volume : Volume) (directory : Location) (name : String) :
    Except SystemError (Volume × Location) :=
  match volume.enter directory name with
  | .ok location => .ok (volume, location)
  | .error .notFound =>
    .ok (volume.insert (directory ++ [name]) .directory, directory ++ [name])
  | .error e => .error e

theorem makeAll_cons {made : Volume} (h : volume.enterMade directory name = .ok (made, location))
    (names : List String) :
    volume.makeAll directory (name :: names) = made.makeAll location names := by
  rw [enterMade] at h
  rw [makeAll]
  split at h
  · next hentered =>
    obtain ⟨rfl, rfl⟩ := Prod.mk.inj (Except.ok.inj h)
    rw [hentered]
  · next hmissing =>
    obtain ⟨rfl, rfl⟩ := Prod.mk.inj (Except.ok.inj h)
    rw [hmissing]
  · exact absurd h (by simp)

/-- If the first name cannot be entered, nothing can be made below it. -/
theorem makeAll_cons_error {e : SystemError} (h : volume.enterMade directory name = .error e)
    (names : List String) : ∃ e', volume.makeAll directory (name :: names) = .error e' := by
  rw [enterMade] at h
  rw [makeAll]
  split at h
  · exact absurd h (by simp)
  · exact absurd h (by simp)
  · next e' hne hfailed =>
    rw [hfailed]
    cases e' with
    | notFound => exact (hne rfl).elim
    | notDirectory => exact ⟨_, rfl⟩
    | _ => exact ⟨_, rfl⟩

/-- What is not found can be made. -/
theorem entry?_of_enter_notFound (h : volume.enter directory name = .error .notFound) :
    IsPlainName name ∧ volume.entry? (directory ++ [name]) = none := by
  rw [enter] at h
  split at h
  · exact absurd h (by simp)
  · next hstep =>
    split at h
    · exact absurd h (by simp)
    · next hshort =>
      refine ⟨⟨by simpa using hstep, Nat.not_lt.mp hshort⟩, ?_⟩
      split at h
      · exact absurd h (by simp)
      · exact absurd h (by simp)
      · assumption

/-- What was made can be entered. -/
theorem enter_of_enterMade {made : Volume}
    (h : volume.enterMade directory name = .ok (made, location)) :
    Adds (fun _ => True) volume made ∧ made.enter directory name = .ok location := by
  rw [enterMade] at h
  split at h
  · next hentered =>
    obtain ⟨rfl, rfl⟩ := Prod.mk.inj (Except.ok.inj h)
    exact ⟨.refl volume, hentered⟩
  · next hmissing =>
    obtain ⟨rfl, rfl⟩ := Prod.mk.inj (Except.ok.inj h)
    obtain ⟨hname, hnone⟩ := entry?_of_enter_notFound hmissing
    exact ⟨.insert trivial hnone (.refl _), enter_of_directory hname (entry?_insert_self (by simp))⟩
  · exact absurd h (by simp)

/-- Directories that were made can be entered. Induction on the names: what the first name leads to
is still there after the others were made. -/
theorem exists_walk_of_makeAll (h : volume.makeAll directory names = .ok after) :
    Adds (fun _ => True) volume after ∧
      ∃ location, names.foldlM after.enter directory = .ok location := by
  induction names generalizing volume directory with
  | nil =>
    obtain rfl := Except.ok.inj h
    exact ⟨.refl volume, directory, rfl⟩
  | cons name names ih =>
    cases hfirst : volume.enterMade directory name with
    | error e =>
      obtain ⟨e', he'⟩ := makeAll_cons_error hfirst names
      exact absurd (he'.symm.trans h) (by simp)
    | ok first =>
      obtain ⟨made, next⟩ := first
      rw [makeAll_cons hfirst] at h
      obtain ⟨hfirst, henter⟩ := enter_of_enterMade hfirst
      -- The later directories do not get in the way of the first one.
      obtain ⟨hrest, location, hwalk⟩ := ih h
      refine ⟨hfirst.trans hrest, location, ?_⟩
      rw [List.foldlM_cons, hrest.grows.enter henter]
      exact hwalk

/-- The directories of further names are made in the directory that the first names lead to. -/
theorem makeAll_append_of_made (h : volume.makeAll directory names = .ok after)
    (hwalk : names.foldlM after.enter directory = .ok location) (rest : List String) :
    volume.makeAll directory (names ++ rest) = after.makeAll location rest := by
  induction names generalizing volume directory with
  | nil =>
    obtain rfl := Except.ok.inj h
    obtain rfl := Except.ok.inj hwalk
    rfl
  | cons name names ih =>
    cases hfirst : volume.enterMade directory name with
    | error e =>
      obtain ⟨e', he'⟩ := makeAll_cons_error hfirst names
      exact absurd (he'.symm.trans h) (by simp)
    | ok first =>
      obtain ⟨made, next⟩ := first
      rw [makeAll_cons hfirst] at h
      -- The walk goes through the volume after all names, which the first step has grown into.
      have henter : after.enter directory name = .ok next :=
        (exists_walk_of_makeAll h).1.grows.enter (enter_of_enterMade hfirst).2
      rw [List.foldlM_cons, henter] at hwalk
      rw [List.cons_append, makeAll_cons hfirst]
      exact ih h hwalk

/-- What fails for some names fails for more. -/
theorem makeAll_append_error {e : SystemError} (h : volume.makeAll directory names = .error e)
    (rest : List String) : ∃ e', volume.makeAll directory (names ++ rest) = .error e' := by
  induction names generalizing volume directory with
  | nil => exact absurd h (by simp [makeAll])
  | cons name names ih =>
    rw [List.cons_append]
    cases hfirst : volume.enterMade directory name with
    | error e' => exact makeAll_cons_error hfirst (names ++ rest)
    | ok first =>
      obtain ⟨made, next⟩ := first
      rw [makeAll_cons hfirst] at h ⊢
      exact ih h

/-! ## Paths

The same for whole paths. If one path continues another one, the directories of the shorter path are
made on the way. -/

section Paths

variable {path rest : String}

/-- A path that was made leads into a directory. -/
theorem leadsTo_of_makeDirectories (h : volume.makeDirectories path = .ok after) :
    Adds (fun _ => True) volume after ∧ ∃ directory, after.LeadsTo path directory := by
  rw [makeDirectories, bind_eq_ok_iff] at h
  obtain ⟨⟨start, names⟩, hnames, hmade⟩ := h
  obtain ⟨hadds, directory, hwalk⟩ := exists_walk_of_makeAll hmade
  exact ⟨hadds, directory, start, names, (hadds.grows.names path).trans hnames, hwalk⟩

/-- Nothing is made for a path that leads into a directory. -/
theorem LeadsTo.makeDirectories (h : volume.LeadsTo path directory) :
    volume.makeDirectories path = .ok volume := by
  obtain ⟨start, names, hnames, hwalk⟩ := h
  have hmade := makeAll_append hwalk []
  rw [List.append_nil] at hmade
  rw [Volume.makeDirectories, hnames]
  exact hmade

/-- Where the directories of a path were made, those of a longer one are made from there. -/
theorem makeDirectories_joinPath_of_made (hstem : stemOf path = namesOf path)
    (h : volume.makeDirectories path = .ok after)
    (hleads : after.LeadsTo path directory) (hnul : '\x00' ∉ rest.toList) :
    volume.makeDirectories (joinPath path rest)
      = if maxPathSize ≤ (joinPath path rest).utf8ByteSize then .error .nameTooLong
        else after.makeAll directory (namesOf rest) := by
  have hgrows := (leadsTo_of_makeDirectories h).1.grows
  rw [makeDirectories, bind_eq_ok_iff] at h
  obtain ⟨⟨start, names⟩, hnames, hmade⟩ := h
  obtain ⟨start', names', hnames', hwalk⟩ := hleads
  obtain ⟨rfl, rfl⟩ := Prod.mk.inj (Except.ok.inj (hnames'.symm.trans
    ((hgrows.names path).trans hnames)))
  obtain ⟨-, -, -, -, rfl⟩ := names_eq_ok hnames
  rw [makeDirectories, names_joinPath hnames, hstem, if_neg hnul]
  split
  · rfl
  · exact makeAll_append_of_made hmade hwalk (namesOf rest)

/-- If a longer path is accepted, so is its beginning. -/
theorem exists_names_of_joinPath (hne : path ≠ "") {found : Location × List String}
    (h : volume.names (joinPath path rest) = .ok found) :
    ∃ found', volume.names path = .ok found' := by
  obtain ⟨hnul, -, hsize, -, -⟩ := names_eq_ok h
  have hpath := (utf8ByteSize_joinPath path rest).1
  have hmem : '\x00' ∉ path.toList := fun hmem =>
    hnul ((toList_joinPath_mem_iff (by decide)).mpr (.inl hmem))
  rw [names, if_neg hmem, if_neg hne, if_neg (by omega)]
  exact ⟨_, rfl⟩

/-- Where the directories of a longer path are made, those of its beginning are made first. -/
theorem exists_made_of_joinPath (hne : path ≠ "") (hstem : stemOf path = namesOf path)
    (h : volume.makeDirectories (joinPath path rest) = .ok after) :
    ∃ made directory, volume.makeDirectories path = .ok made ∧ made.LeadsTo path directory := by
  have hlonger := h
  rw [makeDirectories, bind_eq_ok_iff] at h
  obtain ⟨found, hfound, hmakes⟩ := h
  obtain ⟨⟨start, names⟩, hnames⟩ := exists_names_of_joinPath hne hfound
  rw [names_joinPath hnames] at hfound
  split at hfound
  · exact absurd hfound (by simp)
  split at hfound
  · exact absurd hfound (by simp)
  obtain rfl := Except.ok.inj hfound
  obtain ⟨-, -, -, -, rfl⟩ := names_eq_ok hnames
  rw [hstem] at hmakes
  -- The names of the beginning come first.
  cases hmade : volume.makeAll start (namesOf path) with
  | error e =>
    obtain ⟨e', he'⟩ := makeAll_append_error hmade (namesOf rest)
    exact absurd (he'.symm.trans hmakes) (by simp)
  | ok made =>
    have hbegin : volume.makeDirectories path = .ok made := by
      rw [makeDirectories, hnames]
      exact hmade
    obtain ⟨-, directory, hleads⟩ := leadsTo_of_makeDirectories hbegin
    exact ⟨made, directory, hbegin, hleads⟩

end Paths

/-! ## Files below a directory

A file is located from the directory that its path leads into, by its name alone if the name is one.
-/

namespace LeadsTo

variable {path file : String}

/-- A file whose name is one is located in the directory. -/
theorem locate_eq_ok (h : volume.LeadsTo path directory) (hslash : '/' ∉ file.toList)
    (hstep : isStep file = false) (hlocate : volume.locate (joinPath path file) = .ok location) :
    location = directory ++ [file] := by
  rw [h.locate_joinPath, namesOf_of_no_slash hslash] at hlocate
  split at hlocate
  · exact absurd hlocate (by simp)
  split at hlocate
  · exact absurd hlocate (by simp)
  change arrive directory file = _ at hlocate
  rw [arrive, hstep, if_neg (by decide)] at hlocate
  split at hlocate
  · exact absurd hlocate (by simp)
  · exact (Except.ok.inj hlocate).symm

/-- What is found under the name of a file depends on the place of the file alone. -/
theorem look_congr {volume' : Volume} (h : volume.LeadsTo path directory)
    (h' : volume'.LeadsTo path directory) (hslash : '/' ∉ file.toList)
    (hstep : isStep file = false)
    (hentry : volume.entry? (directory ++ [file]) = volume'.entry? (directory ++ [file])) :
    volume.look (joinPath path file) = volume'.look (joinPath path file) := by
  have hsame : volume.locate (joinPath path file) = volume'.locate (joinPath path file) := by
    rw [h.locate_joinPath, h'.locate_joinPath, namesOf_of_no_slash hslash]
    rfl
  rw [look, look, hsame]
  cases hlocate : volume'.locate (joinPath path file) with
  | error e => rfl
  | ok location =>
    obtain rfl := h'.locate_eq_ok hslash hstep hlocate
    simp only [bind, Except.bind, hentry]

/-- The directory that a path leads into is the one that is listed. -/
theorem list_eq (h : volume.LeadsTo path directory)
    (hdirectory : volume.entry? directory = some .directory) :
    volume.list path = .ok (volume.filesIn directory) := by
  rw [list, h.locate]
  simp only [bind, Except.bind, hdirectory]
  rfl

end LeadsTo

end ODataQuery.Volume
