import ODataQuery.Proofs.Log
import ODataQuery.Proofs.Store.Entries

/-!
# Paths of a volume

A path that leads into a directory goes on leading there as long as directories stay
(`LeadsTo.of_grows`), and a path below it is found from that directory (`LeadsTo.locate_joinPath`).
Making the directories of a path adds just the missing ones (`exists_makeAll`).

A path is walked name by name. One that ends in a slash has an empty name behind it, which something
that follows takes the place of; `stemOf` is what is left of the names then, and leads to the same
place (`foldlM_stemOf`).
-/

namespace ODataQuery.Volume

/-! ## Growth

Whatever the store does, directories stay directories. So what a path leads to never changes once
the directories on the way are there. -/

/-- Directories stay, and paths start where they started. -/
structure Grows (before after : Volume) : Prop where
  workDir : after.workDir = before.workDir
  directory : ∀ {location}, before.entry? location = some .directory →
    after.entry? location = some .directory

namespace Grows

variable {before after volume : Volume}

theorem refl (volume : Volume) : volume.Grows volume := ⟨rfl, id⟩

theorem trans {last : Volume} (h : before.Grows after) (h' : after.Grows last) :
    before.Grows last :=
  ⟨h'.workDir.trans h.workDir, fun hdirectory => h'.directory (h.directory hdirectory)⟩

theorem insert {location : Location} {entry : Entry}
    (h : volume.entry? location = some .directory → entry = .directory) :
    volume.Grows (volume.insert location entry) where
  workDir := rfl
  directory {other} hother := by
    by_cases heq : other = location
    · subst heq
      by_cases hroot : other = []
      · rw [hroot]
        rfl
      · rw [entry?_insert_self hroot, h hother]
    · rw [entry?_insert_of_ne heq, hother]

theorem enter (h : before.Grows after) {directory location : Location} {name : String}
    (henter : before.enter directory name = .ok location) :
    after.enter directory name = .ok location := by
  unfold Volume.enter at henter ⊢
  split
  · next hstep => rwa [if_pos hstep] at henter
  · next hstep =>
    rw [if_neg hstep] at henter
    split
    · next hlong => rwa [if_pos hlong] at henter
    · next hlong =>
      rw [if_neg hlong] at henter
      split at henter
      · next hdirectory => rwa [h.directory hdirectory]
      · exact absurd henter (by simp)
      · exact absurd henter (by simp)

theorem walk (h : before.Grows after) {names : List String} {start location : Location}
    (hwalk : names.foldlM before.enter start = .ok location) :
    names.foldlM after.enter start = .ok location := by
  induction names generalizing start with
  | nil => exact hwalk
  | cons name names ih =>
    rw [List.foldlM_cons, bind_eq_ok_iff] at hwalk ⊢
    obtain ⟨next, henter, hrest⟩ := hwalk
    exact ⟨next, h.enter henter, ih hrest⟩

theorem names (h : before.Grows after) (path : String) : after.names path = before.names path := by
  rw [Volume.names, Volume.names, h.workDir]

end Grows

/-! ## Paths

A path is taken apart into names, and walked from the root or the working directory. If it goes on
behind a directory, only what follows has to be walked. -/

/-- The names of a path between its slashes. -/
def namesOf (path : String) : List String := (path.toList.splitOn '/').map String.ofList

theorem namesOf_ne_nil (path : String) : namesOf path ≠ [] := by
  simp [namesOf, List.splitOn_ne_nil]

/-- What follows a path with these names takes the place of the empty name behind a last slash. -/
def stemOf (path : String) : List String :=
  if path = "" ∨ path.toList.getLast? = some '/' then (namesOf path).dropLast else namesOf path

/-- A path without a name at its end has the empty name there. -/
theorem namesOf_eq_concat {path : String} (h : path = "" ∨ path.toList.getLast? = some '/') :
    ∃ before, namesOf path = before ++ [""] ∧ (path ≠ "" → before ≠ []) ∧
      ∀ rest, namesOf (path ++ rest) = before ++ namesOf rest := by
  rcases h with rfl | hlast
  · refine ⟨[], by decide, fun hne => absurd rfl hne, fun rest => ?_⟩
    rw [String.empty_append, List.nil_append]
  · obtain ⟨before, hpath⟩ := List.getLast?_eq_some_iff.mp hlast
    refine ⟨namesOf (String.ofList before), ?_, fun _ => namesOf_ne_nil _, fun rest => ?_⟩
    · rw [namesOf, hpath, List.splitOn_append_cons_self, List.map_append, namesOf,
        String.toList_ofList]
      rfl
    · have hjoined : (path ++ rest).toList = before ++ '/' :: rest.toList := by
        rw [String.toList_append, hpath, List.append_assoc]
        rfl
      rw [namesOf, hjoined, List.splitOn_append_cons_self, List.map_append, namesOf, namesOf,
        String.toList_ofList]

/-- The names of two joined paths follow each other. -/
theorem namesOf_joinPath (path rest : String) :
    namesOf (joinPath path rest) = stemOf path ++ namesOf rest := by
  unfold joinPath stemOf
  split
  · next hend =>
    obtain ⟨before, hnames, -, hjoined⟩ := namesOf_eq_concat hend
    rw [hjoined, hnames, List.dropLast_concat]
  · have hslash : (path ++ "/" ++ rest).toList = path.toList ++ '/' :: rest.toList := by
      simp [String.toList_append]
    rw [namesOf, hslash, List.splitOn_append_cons_self, List.map_append, namesOf, namesOf]

/-- Without a slash at the end, a path has all its names in its stem. -/
theorem stemOf_of_getLast? {path : String} {c : Char} (h : path.toList.getLast? = some c)
    (hc : c ≠ '/') : stemOf path = namesOf path := by
  refine if_neg ?_
  rintro (rfl | hlast)
  · exact absurd h (by simp)
  · exact hc (Option.some.inj (h.symm.trans hlast))

/-- A path that is not empty begins with the same name whatever follows it. -/
theorem head?_namesOf_joinPath {path : String} (hne : path ≠ "") (rest : String) :
    (namesOf (joinPath path rest)).head? = (namesOf path).head? := by
  have hstem : ∃ first others, stemOf path = first :: others ∧
      (namesOf path).head? = some first := by
    unfold stemOf
    split
    · next hend =>
      obtain ⟨before, hnames, hbefore, -⟩ := namesOf_eq_concat hend
      obtain ⟨first, others, rfl⟩ := List.exists_cons_of_ne_nil (hbefore hne)
      rw [hnames, List.dropLast_concat]
      exact ⟨first, others, rfl, rfl⟩
    · obtain ⟨first, others, hnames⟩ := List.exists_cons_of_ne_nil (namesOf_ne_nil path)
      rw [hnames]
      exact ⟨first, others, rfl, rfl⟩
  obtain ⟨first, others, hstem, hfirst⟩ := hstem
  rw [namesOf_joinPath, hstem, hfirst]
  rfl

/-- Joining adds no characters but slashes. -/
theorem toList_joinPath_mem_iff {path rest : String} {c : Char} (hc : c ≠ '/') :
    c ∈ (joinPath path rest).toList ↔ c ∈ path.toList ∨ c ∈ rest.toList := by
  unfold joinPath
  split
  · simp [String.toList_append]
  · simp [String.toList_append, hc]

/-- A path gets longer by what follows it, and by a slash at most. -/
theorem utf8ByteSize_joinPath (path rest : String) :
    path.utf8ByteSize + rest.utf8ByteSize ≤ (joinPath path rest).utf8ByteSize ∧
      (joinPath path rest).utf8ByteSize ≤ path.utf8ByteSize + 1 + rest.utf8ByteSize := by
  have hslash : "/".utf8ByteSize = 1 := by decide
  unfold joinPath
  split
  · simp only [String.utf8ByteSize_append]
    omega
  · simp only [String.utf8ByteSize_append]
    omega

theorem utf8ByteSize_le_joinPath (path rest : String) :
    path.utf8ByteSize ≤ (joinPath path rest).utf8ByteSize :=
  Nat.le_trans (Nat.le_add_right _ _) (utf8ByteSize_joinPath path rest).1

/-- Without slashes there is one name. -/
theorem namesOf_of_no_slash {name : String} (h : '/' ∉ name.toList) : namesOf name = [name] := by
  rw [namesOf, List.splitOn_eq_singleton h, List.map_singleton, String.ofList_toList]

/-- The first of several names begins with the first character. -/
theorem exists_namesOf_of_slash {file : String} {c : Char} {rest : List Char}
    (hfile : file.toList = c :: rest) (hc : c ≠ '/') (hslash : '/' ∈ file.toList) :
    ∃ tail others, namesOf file = String.ofList (c :: tail) :: namesOf (String.ofList others) := by
  obtain ⟨first, others, hsplit, hfirst⟩ := List.eq_append_cons_of_mem hslash
  cases first with
  | nil => exact absurd (List.cons.inj (hfile.symm.trans hsplit)).1 hc
  | cons d tail =>
    obtain rfl : c = d := (List.cons.inj (hfile.symm.trans hsplit)).1
    refine ⟨tail, others, ?_⟩
    rw [namesOf, hsplit, List.splitOn_append_cons_self, List.splitOn_eq_singleton hfirst,
      List.map_append, namesOf, String.toList_ofList]
    rfl

/-- The location that a last name stands for. -/
def arrive (directory : Location) (name : String) : Except SystemError Location :=
  if isStep name then .ok (step directory name)
  else if maxNameSize < name.utf8ByteSize then .error .nameTooLong
  else .ok (directory ++ [name])

/-- Entering a directory is arriving at it. -/
theorem arrive_of_enter {volume : Volume} {directory location : Location} {name : String}
    (h : volume.enter directory name = .ok location) : arrive directory name = .ok location := by
  unfold enter at h
  unfold arrive
  split
  · next hstep => rwa [if_pos hstep] at h
  · next hstep =>
    rw [if_neg hstep] at h
    split
    · next hlong => exact absurd h (by simp [hlong])
    · next hlong =>
      rw [if_neg hlong] at h
      split at h
      · exact h
      · exact absurd h (by simp)
      · exact absurd h (by simp)

/-- What was entered by its name is a directory. -/
theorem directory_of_enter {volume : Volume} {directory location : Location} {name : String}
    (hname : isStep name = false) (h : volume.enter directory name = .ok location) :
    volume.entry? location = some .directory := by
  rw [enter, hname, if_neg (by decide)] at h
  split at h
  · exact absurd h (by simp)
  · split at h
    · next hdirectory => exact Except.ok.inj h ▸ hdirectory
    · exact absurd h (by simp)
    · exact absurd h (by simp)

/-- A directory where one arrives can be entered. -/
theorem enter_of_arrive {volume : Volume} {directory location : Location} {name : String}
    (h : arrive directory name = .ok location)
    (hlocation : volume.entry? location = some .directory) :
    volume.enter directory name = .ok location := by
  unfold arrive at h
  unfold enter
  split
  · next hstep => rwa [if_pos hstep] at h
  · next hstep =>
    rw [if_neg hstep] at h
    split
    · next hlong => exact absurd h (by simp [hlong])
    · next hlong =>
      rw [if_neg hlong] at h
      obtain rfl := Except.ok.inj h
      rw [hlocation]

/-- The location that names lead to from a directory. -/
def locateFrom (volume : Volume) (start : Location) (names : List String) :
    Except SystemError Location := do
  let directory ← names.dropLast.foldlM volume.enter start
  match names.getLast? with
  | none => return directory
  | some name => arrive directory name

theorem locate_eq (volume : Volume) (path : String) :
    volume.locate path
      = volume.names path >>= fun found => volume.locateFrom found.1 found.2 := rfl

theorem Grows.locate {before after : Volume} (h : before.Grows after) {path : String}
    {location : Location} (hlocate : before.locate path = .ok location) :
    after.locate path = .ok location := by
  rw [locate_eq, bind_eq_ok_iff] at hlocate ⊢
  obtain ⟨⟨start, names⟩, hnames, hfrom⟩ := hlocate
  refine ⟨(start, names), (h.names path).trans hnames, ?_⟩
  obtain ⟨directory, hwalk, hlast⟩ := bind_eq_ok_iff.mp hfrom
  exact bind_eq_ok_iff.mpr ⟨directory, h.walk hwalk, hlast⟩

theorem locateFrom_concat (volume : Volume) (start : Location) (names : List String)
    (name : String) :
    volume.locateFrom start (names ++ [name])
      = names.foldlM volume.enter start >>= fun directory => arrive directory name := by
  rw [locateFrom, List.dropLast_concat, List.getLast?_concat]

theorem foldlM_enter_concat (volume : Volume) (start : Location) (names : List String)
    (name : String) :
    (names ++ [name]).foldlM volume.enter start
      = names.foldlM volume.enter start >>= fun directory => volume.enter directory name := by
  rw [List.foldlM_append]
  cases names.foldlM volume.enter start with
  | error e => rfl
  | ok directory =>
    show [name].foldlM volume.enter directory = volume.enter directory name
    rw [List.foldlM_cons]
    cases volume.enter directory name <;> rfl

/-- Paths that are accepted are not empty and not too long, and have no zero bytes. -/
theorem names_eq_ok {volume : Volume} {path : String} {start : Location} {names : List String}
    (h : volume.names path = .ok (start, names)) :
    '\x00' ∉ path.toList ∧ path ≠ "" ∧ path.utf8ByteSize < maxPathSize ∧
      start = (if (namesOf path).head? = some "" then [] else volume.workDir) ∧
      names = namesOf path := by
  unfold Volume.names at h
  split at h
  · exact absurd h (by simp)
  · next hnul =>
    split at h
    · exact absurd h (by simp)
    · next hempty =>
      split at h
      · exact absurd h (by simp)
      · next hsize =>
        obtain ⟨hstart, hnames⟩ := Prod.mk.inj (Except.ok.inj h)
        exact ⟨hnul, hempty, by omega, hstart.symm, hnames.symm⟩

/-- A step behind a path leads nowhere else. -/
theorem foldlM_stemOf (volume : Volume) (path : String) (start : Location) :
    (stemOf path).foldlM volume.enter start = (namesOf path).foldlM volume.enter start := by
  unfold stemOf
  split
  · next hend =>
    obtain ⟨before, hnames, -, -⟩ := namesOf_eq_concat hend
    have hstep : ∀ directory, volume.enter directory "" = .ok directory := fun _ => rfl
    rw [hnames, List.dropLast_concat, foldlM_enter_concat]
    cases before.foldlM volume.enter start with
    | error e => rfl
    | ok directory => exact (hstep directory).symm
  · rfl

/-- A longer path starts where the shorter one does. -/
theorem names_joinPath {volume : Volume} {path : String} {start : Location} {names : List String}
    (h : volume.names path = .ok (start, names)) (rest : String) :
    volume.names (joinPath path rest) =
      if '\x00' ∈ rest.toList then .error .nulInName
      else if maxPathSize ≤ (joinPath path rest).utf8ByteSize then .error .nameTooLong
      else .ok (start, stemOf path ++ namesOf rest) := by
  obtain ⟨hnul, hempty, _, hstart, -⟩ := names_eq_ok h
  -- The beginning has no zero byte, so only the rest can have one.
  have hmem : '\x00' ∈ (joinPath path rest).toList ↔ '\x00' ∈ rest.toList := by
    simp [toList_joinPath_mem_iff, hnul]
  have hhead := head?_namesOf_joinPath hempty rest
  have hne : joinPath path rest ≠ "" := by
    unfold joinPath
    split <;> simp [String.append_eq_empty_iff, hempty]
  have hjoined : ((joinPath path rest).toList.splitOn '/').map String.ofList
      = namesOf (joinPath path rest) := rfl
  rw [Volume.names, if_neg hne]
  simp only [hmem, hjoined]
  rw [hhead, ← hstart, namesOf_joinPath]

/-- Names that can be walked are directories already, so none of them is made. -/
theorem makeAll_append {volume : Volume} {names : List String} {start directory : Location}
    (hwalk : names.foldlM volume.enter start = .ok directory) (rest : List String) :
    volume.makeAll start (names ++ rest) = volume.makeAll directory rest := by
  induction names generalizing start with
  | nil => rw [Except.ok.inj hwalk, List.nil_append]
  | cons name names ih =>
    rw [List.foldlM_cons, bind_eq_ok_iff] at hwalk
    obtain ⟨next, henter, hrest⟩ := hwalk
    rw [List.cons_append, makeAll, henter]
    exact ih hrest

/-- The path leads into the directory. -/
def LeadsTo (volume : Volume) (path : String) (directory : Location) : Prop :=
  ∃ start names, volume.names path = .ok (start, names) ∧
    names.foldlM volume.enter start = .ok directory

namespace LeadsTo

variable {volume : Volume} {path : String} {start directory : Location} {names : List String}

/-- A path leads to the same directory as long as directories stay. -/
theorem of_grows {after : Volume} (h : volume.LeadsTo path directory)
    (hgrows : volume.Grows after) :
    after.LeadsTo path directory := by
  obtain ⟨start, names, hnames, hwalk⟩ := h
  exact ⟨start, names, (hgrows.names path).trans hnames, hgrows.walk hwalk⟩

/-- What follows the path goes on from the directory that the stem of the path leads to. -/
theorem exists_stem (h : volume.LeadsTo path directory) :
    ∃ start, volume.names path = .ok (start, namesOf path) ∧
      (stemOf path).foldlM volume.enter start = .ok directory := by
  obtain ⟨start, names, hnames, hwalk⟩ := h
  obtain ⟨-, -, -, -, rfl⟩ := names_eq_ok hnames
  exact ⟨start, hnames, (foldlM_stemOf volume path start).trans hwalk⟩

/-- A path is found below the directory that its beginning leads into. -/
theorem locate_joinPath (h : volume.LeadsTo path directory) (rest : String) :
    volume.locate (joinPath path rest) =
      if '\x00' ∈ rest.toList then .error .nulInName
      else if maxPathSize ≤ (joinPath path rest).utf8ByteSize then .error .nameTooLong
      else volume.locateFrom directory (namesOf rest) := by
  obtain ⟨start, hnames, hwalk⟩ := h.exists_stem
  -- The walk passes through the directory, since the last name is not in the beginning.
  have hfrom : volume.locateFrom start (stemOf path ++ namesOf rest)
      = volume.locateFrom directory (namesOf rest) := by
    have hlast : (stemOf path ++ namesOf rest).getLast? = (namesOf rest).getLast? := by
      rw [List.getLast?_append, List.getLast?_eq_some_getLast (namesOf_ne_nil rest), Option.some_or]
    rw [locateFrom, List.dropLast_append_of_ne_nil (namesOf_ne_nil rest), List.foldlM_append,
      hwalk, hlast]
    rfl
  rw [locate_eq, names_joinPath hnames]
  split
  · rfl
  · split
    · rfl
    · exact hfrom

/-- A path that goes on leads to where the walk from the directory leads. -/
theorem extend (h : volume.LeadsTo path directory) {rest : String} {location : Location}
    (hnul : '\x00' ∉ rest.toList)
    (hsize : (joinPath path rest).utf8ByteSize < maxPathSize)
    (hwalk : (namesOf rest).foldlM volume.enter directory = .ok location) :
    volume.LeadsTo (joinPath path rest) location := by
  obtain ⟨start, hnames, hbefore⟩ := h.exists_stem
  refine ⟨start, stemOf path ++ namesOf rest, ?_, ?_⟩
  · rw [names_joinPath hnames, if_neg hnul, if_neg (Nat.not_le.mpr hsize)]
  · rw [List.foldlM_append, hbefore]
    exact hwalk

/-- The directories of a path that goes on are made from the directory. -/
theorem makeDirectories_joinPath (h : volume.LeadsTo path directory) {rest : String}
    (hnul : '\x00' ∉ rest.toList)
    (hsize : (joinPath path rest).utf8ByteSize < maxPathSize) :
    volume.makeDirectories (joinPath path rest) = volume.makeAll directory (namesOf rest) := by
  obtain ⟨start, hnames, hwalk⟩ := h.exists_stem
  rw [makeDirectories, names_joinPath hnames, if_neg hnul, if_neg (by omega)]
  exact makeAll_append hwalk (namesOf rest)

theorem exists_names (hnames : volume.names path = .ok (start, names)) :
    ∃ before last, names = before ++ [last] := by
  obtain ⟨_, _, _, _, hnamesOf⟩ := names_eq_ok hnames
  have hne : names ≠ [] := hnamesOf ▸ namesOf_ne_nil path
  exact ⟨_, _, (List.dropLast_concat_getLast hne).symm⟩

/-- A directory that a path leads into is what is found at its end. -/
theorem locate (h : volume.LeadsTo path directory) : volume.locate path = .ok directory := by
  obtain ⟨start, names, hnames, hwalk⟩ := h
  obtain ⟨before, last, rfl⟩ := exists_names hnames
  rw [foldlM_enter_concat, bind_eq_ok_iff] at hwalk
  obtain ⟨parent, hparent, henter⟩ := hwalk
  rw [locate_eq, hnames]
  show volume.locateFrom start (before ++ [last]) = _
  rw [locateFrom_concat, hparent]
  exact arrive_of_enter henter

/-- A path that is located at a directory leads into it. -/
theorem of_locate (hlocate : volume.locate path = .ok directory)
    (hdirectory : volume.entry? directory = some .directory) : volume.LeadsTo path directory := by
  rw [locate_eq, bind_eq_ok_iff] at hlocate
  obtain ⟨⟨start, names⟩, hnames, hfrom⟩ := hlocate
  obtain ⟨before, last, rfl⟩ := exists_names hnames
  change volume.locateFrom start (before ++ [last]) = _ at hfrom
  rw [locateFrom_concat, bind_eq_ok_iff] at hfrom
  obtain ⟨parent, hparent, harrive⟩ := hfrom
  refine ⟨start, before ++ [last], hnames, ?_⟩
  rw [foldlM_enter_concat, hparent]
  exact enter_of_arrive harrive hdirectory

end LeadsTo

/-- A name leads one directory down. -/
theorem eq_append_of_enter {volume : Volume} {directory location : Location} {name : String}
    (hname : isStep name = false) (henter : volume.enter directory name = .ok location) :
    location = directory ++ [name] := by
  have harrive := arrive_of_enter henter
  rw [arrive, hname, if_neg (by decide)] at harrive
  split at harrive
  · exact absurd harrive (by simp)
  · exact (Except.ok.inj harrive).symm

/-- Names that are no steps are gone through one below the other. -/
theorem eq_append_of_walk {volume : Volume} {names : List String} {directory location : Location}
    (hnames : ∀ name ∈ names, isStep name = false)
    (hwalk : names.foldlM volume.enter directory = .ok location) :
    location = directory ++ names := by
  induction names generalizing directory with
  | nil => rw [List.append_nil, Except.ok.inj hwalk]
  | cons name names ih =>
    obtain ⟨hname, hnames⟩ := List.forall_mem_cons.mp hnames
    rw [List.foldlM_cons, bind_eq_ok_iff] at hwalk
    obtain ⟨next, henter, hrest⟩ := hwalk
    rw [ih hnames hrest, eq_append_of_enter hname henter, List.append_assoc]
    rfl

/-- Where something is found below a path, that leads into a directory. -/
theorem exists_leadsTo_of_locate {volume : Volume} {path rest : String} {start location : Location}
    {names : List String} (hnames : volume.names path = .ok (start, names))
    (hlocate : volume.locate (joinPath path rest) = .ok location) :
    ∃ directory, volume.LeadsTo path directory := by
  rw [locate_eq, names_joinPath hnames] at hlocate
  split at hlocate
  · exact absurd hlocate (by simp [bind, Except.bind])
  split at hlocate
  · exact absurd hlocate (by simp [bind, Except.bind])
  change volume.locateFrom start (stemOf path ++ namesOf rest) = _ at hlocate
  rw [locateFrom, List.dropLast_append_of_ne_nil (namesOf_ne_nil rest), List.foldlM_append,
    bind_eq_ok_iff] at hlocate
  obtain ⟨_, hwalk, _⟩ := hlocate
  obtain ⟨directory, hbefore, _⟩ := bind_eq_ok_iff.mp hwalk
  obtain ⟨-, -, -, -, rfl⟩ := names_eq_ok hnames
  exact ⟨directory, start, _, hnames, (foldlM_stemOf volume path start).symm.trans hbefore⟩

/-! ## Files of a flat directory

If a directory holds no other directories, a file name with slashes leads nowhere below it. So a
file is either directly in the directory or not found. -/

/-- A name of a directory or a file: no step and not too long. -/
def IsPlainName (name : String) : Prop := isStep name = false ∧ name.utf8ByteSize ≤ maxNameSize

instance (name : String) : Decidable (IsPlainName name) :=
  inferInstanceAs (Decidable (isStep name = false ∧ name.utf8ByteSize ≤ maxNameSize))

theorem isStep_of_mem {name : String} {c : Char} (h : c ∈ name.toList) (hc : c ≠ '.') :
    isStep name = false := by
  have hne : ∀ other : String, c ∉ other.toList → name ≠ other := by
    rintro other hmem rfl
    exact hmem h
  have hempty : name ≠ "" := hne "" (by simp)
  have hdot : name ≠ "." := hne "." (by simpa using hc)
  have hdots : name ≠ ".." := hne ".." (by simpa using hc)
  simp [isStep, hempty, hdot, hdots]

theorem isStep_of_head {name : String} {c : Char} {rest : List Char} (h : name.toList = c :: rest)
    (hc : c ≠ '.') : isStep name = false := by
  have hmem : c ∈ name.toList := by
    rw [h]
    exact List.mem_cons_self
  exact isStep_of_mem hmem hc

namespace LeadsTo

variable {volume : Volume} {path file : String} {directory location : Location}

/-- A file is located in the directory that its path leads into. -/
theorem locate_file (h : volume.LeadsTo path directory) (hnul : '\x00' ∉ file.toList)
    (hslash : '/' ∉ file.toList) (hname : IsPlainName file)
    (hsize : (joinPath path file).utf8ByteSize < maxPathSize) :
    volume.locate (joinPath path file) = .ok (directory ++ [file]) := by
  rw [h.locate_joinPath, if_neg hnul, if_neg (Nat.not_le.mpr hsize), namesOf_of_no_slash hslash]
  show arrive directory file = _
  rw [arrive, hname.1, if_neg (by decide), if_neg (Nat.not_lt.mpr hname.2)]

/-- In a directory without directories only its own files are found. -/
theorem eq_of_locate_file (h : volume.LeadsTo path directory)
    (hflat : ∀ name, volume.entry? (directory ++ [name]) ≠ some .directory)
    {c : Char} {rest : List Char} (hfile : file.toList = c :: rest) (hdot : c ≠ '.')
    (hslash : c ≠ '/') (hlocate : volume.locate (joinPath path file) = .ok location) :
    location = directory ++ [file] := by
  rw [h.locate_joinPath] at hlocate
  split at hlocate
  · exact absurd hlocate (by simp)
  split at hlocate
  · exact absurd hlocate (by simp)
  by_cases hmem : '/' ∈ file.toList
  · -- The name before the first slash is no directory.
    obtain ⟨tail, others, hnames⟩ := exists_namesOf_of_slash hfile hslash hmem
    have hstep : isStep (String.ofList (c :: tail)) = false :=
      isStep_of_head String.toList_ofList hdot
    rw [hnames, locateFrom, List.dropLast_cons_of_ne_nil (namesOf_ne_nil _), List.foldlM_cons,
      bind_eq_ok_iff] at hlocate
    obtain ⟨_, hwalk, _⟩ := hlocate
    obtain ⟨next, henter, _⟩ := bind_eq_ok_iff.mp hwalk
    have hdirectory := directory_of_enter hstep henter
    rw [eq_append_of_enter hstep henter] at hdirectory
    exact absurd hdirectory (hflat _)
  · -- Without slashes the file is directly in the directory.
    rw [namesOf_of_no_slash hmem] at hlocate
    change arrive directory file = _ at hlocate
    -- The file name is no step, so it is put behind the directory.
    rw [arrive, isStep_of_head hfile hdot, if_neg (by decide)] at hlocate
    split at hlocate
    · exact absurd hlocate (by simp)
    · exact (Except.ok.inj hlocate).symm

end LeadsTo

/-! ## Reading and writing

A path is located first; then the entry at that location is read or replaced. -/

section Files

variable {volume after : Volume} {path text : String} {entry : Entry} {location : Location}

/-- What is found stands where the path is located. -/
theorem look_eq_ok_iff :
    volume.look path = .ok entry
      ↔ ∃ location, volume.locate path = .ok location ∧ volume.entry? location = some entry := by
  rw [look, bind_eq_ok_iff]
  refine exists_congr fun location => and_congr_right fun _ => ?_
  cases volume.entry? location with
  | none => simp
  | some other => simp [pure, Except.pure]

/-- What is found has a path that is not too long. -/
theorem utf8ByteSize_of_locate (hlocate : volume.locate path = .ok location) :
    path.utf8ByteSize < maxPathSize := by
  rw [locate_eq, bind_eq_ok_iff] at hlocate
  obtain ⟨⟨start, names⟩, hnames, -⟩ := hlocate
  exact (names_eq_ok hnames).2.2.1

/-- Writing replaces what stands where the path is located, unless it is a directory. -/
theorem write_eq_ok_iff :
    volume.write path text = .ok after
      ↔ ∃ location, volume.locate path = .ok location ∧
        volume.entry? location ≠ some .directory ∧
        after = volume.insert location (.file text) := by
  rw [write, bind_eq_ok_iff]
  refine exists_congr fun location => and_congr_right fun _ => ?_
  cases volume.entry? location with
  | none => simp [pure, Except.pure, eq_comm]
  | some other => cases other <;> simp [pure, Except.pure, eq_comm]

end Files

/-! ## Making directories

If nothing is in the way, all directories of a path can be made, and only those on the way that were
missing are new. -/

/-- Directories were added one after the other, each at one of the places and where nothing
stood. -/
inductive Adds (places : Location → Prop) : Volume → Volume → Prop where
  | refl (volume : Volume) : Adds places volume volume
  | insert {volume after : Volume} {location : Location} (hplace : places location)
      (hnone : volume.entry? location = none)
      (h : Adds places (volume.insert location .directory) after) : Adds places volume after

namespace Adds

variable {places : Location → Prop} {volume after : Volume}

theorem mono {more : Location → Prop} (hmore : ∀ location, places location → more location)
    (h : Adds places volume after) : Adds more volume after := by
  induction h with
  | refl volume => exact .refl volume
  | insert hplace hnone _ ih => exact .insert (hmore _ hplace) hnone ih

/-- Adding directories takes none away. -/
theorem grows (h : Adds places volume after) : volume.Grows after := by
  induction h with
  | refl volume => exact .refl volume
  | insert _ _ _ ih => exact (Grows.insert fun _ => rfl).trans ih

end Adds

section Enter

variable {volume : Volume} {directory : Location} {name : String} (hname : IsPlainName name)

include hname

theorem enter_of_directory (h : volume.entry? (directory ++ [name]) = some .directory) :
    volume.enter directory name = .ok (directory ++ [name]) := by
  rw [enter, hname.1, if_neg (by decide), if_neg (Nat.not_lt.mpr hname.2), h]

theorem enter_of_none (h : volume.entry? (directory ++ [name]) = none) :
    volume.enter directory name = .error .notFound := by
  rw [enter, hname.1, if_neg (by decide), if_neg (Nat.not_lt.mpr hname.2), h]

end Enter

theorem append_ne_self_of_ne_nil {directory rest : Location} (hne : rest ≠ []) :
    directory ++ rest ≠ directory := by
  simpa using hne

/-- The places of the directories that the names lead to, one below the other. -/
def OnTheWay (directory : Location) (names : List String) (location : Location) : Prop :=
  ∃ part, part <+: names ∧ location = directory ++ part

theorem OnTheWay.cons {directory location : Location} {name : String} {names : List String}
    (h : OnTheWay (directory ++ [name]) names location) :
    OnTheWay directory (name :: names) location := by
  obtain ⟨part, hpart, rfl⟩ := h
  exact ⟨name :: part, List.cons_prefix_cons.mpr ⟨rfl, hpart⟩, by simp⟩

theorem onTheWay_head (directory : Location) (name : String) (names : List String) :
    OnTheWay directory (name :: names) (directory ++ [name]) :=
  ⟨[name], List.cons_prefix_cons.mpr ⟨rfl, List.nil_prefix⟩, rfl⟩

/-- No file is in the way of the names: directories are there or missing. -/
def IsFree (volume : Volume) (directory : Location) (names : List String) : Prop :=
  ∀ location, OnTheWay directory names location → location ≠ directory →
    volume.entry? location = none ∨ volume.entry? location = some .directory

namespace IsFree

variable {volume : Volume} {directory : Location} {name : String} {names : List String}

theorem head (h : volume.IsFree directory (name :: names)) :
    volume.entry? (directory ++ [name]) = none ∨
      volume.entry? (directory ++ [name]) = some .directory :=
  h _ (onTheWay_head directory name names) (append_ne_self_of_ne_nil (by simp))

theorem tail (h : volume.IsFree directory (name :: names)) :
    volume.IsFree (directory ++ [name]) names := by
  intro location hway _
  refine h location hway.cons ?_
  obtain ⟨part, -, rfl⟩ := hway
  rw [List.append_assoc]
  exact append_ne_self_of_ne_nil (by simp)

theorem insert (h : volume.IsFree directory names) :
    (volume.insert directory .directory).IsFree directory names := by
  intro location hway hne
  rw [entry?_insert_of_ne hne]
  exact h location hway hne

end IsFree

/-- Where no file is in the way, the directories of names are made as far as they are missing.
Induction on the names. -/
theorem exists_makeAll {volume : Volume} {directory : Location} {names : List String}
    (hnames : ∀ name ∈ names, IsPlainName name) (hfree : volume.IsFree directory names) :
    ∃ after, volume.makeAll directory names = .ok after ∧
      Adds (OnTheWay directory names) volume after ∧
      names.foldlM after.enter directory = .ok (directory ++ names) := by
  induction names generalizing volume directory with
  | nil => exact ⟨volume, rfl, .refl volume, by simp [pure, Except.pure]⟩
  | cons name names ih =>
    obtain ⟨hname, hnames⟩ := List.forall_mem_cons.mp hnames
    -- Once the first directory is there, the others are made below it.
    have hrest : ∀ volume : Volume, volume.entry? (directory ++ [name]) = some .directory →
        volume.IsFree (directory ++ [name]) names →
        ∃ after, volume.makeAll (directory ++ [name]) names = .ok after ∧
          Adds (OnTheWay directory (name :: names)) volume after ∧
          (name :: names).foldlM after.enter directory = .ok (directory ++ name :: names) := by
      intro volume hfirst hfree
      obtain ⟨after, hmade, hadds, hwalk⟩ := ih hnames hfree
      refine ⟨after, hmade, hadds.mono fun _ => OnTheWay.cons, ?_⟩
      have henter : after.enter directory name = .ok (directory ++ [name]) :=
        enter_of_directory hname (hadds.grows.directory hfirst)
      rw [List.foldlM_cons, henter, List.append_cons directory name names]
      exact hwalk
    rcases hfree.head with hnone | hdirectory
    · have hroot : directory ++ [name] ≠ [] := by simp
      obtain ⟨after, hmade, hadds, hwalk⟩ :=
        hrest _ (entry?_insert_self hroot) hfree.tail.insert
      refine ⟨after, ?_, .insert (onTheWay_head directory name names) hnone hadds, hwalk⟩
      rw [makeAll, enter_of_none hname hnone]
      exact hmade
    · obtain ⟨after, hmade, hadds, hwalk⟩ := hrest volume hdirectory hfree.tail
      refine ⟨after, ?_, hadds, hwalk⟩
      rw [makeAll, enter_of_directory hname hdirectory]
      exact hmade

end ODataQuery.Volume
