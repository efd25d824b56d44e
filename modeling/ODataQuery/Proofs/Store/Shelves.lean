import ODataQuery.Proofs.Store.Action
import ODataQuery.Proofs.Store.Directories
import ODataQuery.Store.Contexts

/-!
# Files of the shelves

What a file of a shelf gives depends on little of a volume: on the folder of the shelf, which is
made if it is missing, and on the file itself (`Rooted.lookIn_congr`). A file that was written is
found again (`Writes.lookIn_self`), and the others are found or missing as before
(`Writes.lookIn_of_ne`, `Writes.lookIn_of_ok`, `Writes.listIn_of_ne`).
-/

namespace ODataQuery.Store

open Volume

variable {home : String} {shelf other : Shelf} {volume rooted opened after : Volume}
  {root place : Location}

/-! ## Folders

Each shelf has a folder of its own in a common one. If this can be made at all, its location is the
`root` of all that follows. -/

/-- The folder in which the folders of all shelves are made. -/
def rootFolder (home : String) : String := joinPath home ".cache/rusty-odata/cache/v1"

/-- The path of the common folder ends in a digit, whatever the home directory is. -/
theorem getLast?_rootFolder (home : String) :
    (rootFolder home).toList.getLast? = some '1' := by
  have hrest : ∀ path, (path ++ ".cache/rusty-odata/cache/v1").toList.getLast? = some '1' := by
    intro path
    rw [String.toList_append, List.getLast?_append]
    rfl
  unfold rootFolder joinPath
  split
  · exact hrest _
  · exact hrest _

theorem rootFolder_ne_empty (home : String) : rootFolder home ≠ "" := by
  intro hempty
  have hlast := getLast?_rootFolder home
  rw [hempty] at hlast
  exact absurd hlast (by decide)

/-- The path of the common folder has no slash at its end. -/
theorem stemOf_rootFolder (home : String) : stemOf (rootFolder home) = namesOf (rootFolder home) :=
  stemOf_of_getLast? (getLast?_rootFolder home) (by decide)

theorem folder_eq (home : String) (shelf : Shelf) :
    folder home shelf = joinPath (rootFolder home) shelf.name := by
  have hjoin : ∀ path : String, path.toList.getLast? = some '1' →
      joinPath path shelf.name = path ++ "/" ++ shelf.name := by
    intro path hlast
    refine if_neg ?_
    rintro (rfl | hslash)
    · exact absurd hlast (by decide)
    · exact absurd (hlast.symm.trans hslash) (by decide)
  rw [hjoin _ (getLast?_rootFolder home), folder, hjoin _ (by decide), rootFolder]
  unfold joinPath
  split
  · simp only [String.append_assoc]
  · simp only [String.append_assoc]

example : folder "" .contexts = ".cache/rusty-odata/cache/v1/context" ∧
    folder "/home/" .contexts = "/home/.cache/rusty-odata/cache/v1/context" := by decide

theorem isPlainName_shelf (shelf : Shelf) : IsPlainName shelf.name := by
  cases shelf <;> decide

theorem nul_not_mem_shelf (shelf : Shelf) : '\x00' ∉ shelf.name.toList := by
  cases shelf <;> decide

theorem namesOf_shelf (shelf : Shelf) : namesOf shelf.name = [shelf.name] := by
  cases shelf <;> decide

/-- Different shelves have different names. -/
theorem Shelf.name_injective (h : shelf.name = other.name) : shelf = other := by
  cases shelf <;> cases other <;> first | rfl | exact absurd h (by decide)

/-- Where the folder of a shelf stands. -/
def shelfAt (root : Location) (shelf : Shelf) : Location := root ++ [shelf.name]

theorem shelfAt_injective (h : shelfAt root shelf = shelfAt root other) : shelf = other :=
  Shelf.name_injective (List.singleton_inj.mp (List.append_cancel_left h))

/-- A file in a folder is not a folder of a shelf. -/
theorem file_ne_shelfAt (file : String) : shelfAt root shelf ++ [file] ≠ shelfAt root other := by
  intro h
  have hlength := congrArg List.length h
  simp [shelfAt] at hlength

/-- Whether a file stands at a location. -/
def HasFile (volume : Volume) (location : Location) : Prop :=
  ∃ text, volume.entry? location = some (.file text)

/-- The folder of the shelves was made in the volume, which left the volume `rooted`, and it stands
at the root. -/
structure Rooted (home : String) (volume rooted : Volume) (root : Location) : Prop where
  made : volume.makeDirectories (rootFolder home) = .ok rooted
  leads : rooted.LeadsTo (rootFolder home) root

namespace Rooted

/-- The folder of a shelf is made in the common folder, unless its path is too long. -/
theorem makeDirectories_folder (h : Rooted home volume rooted root) (shelf : Shelf) :
    volume.makeDirectories (folder home shelf)
      = if maxPathSize ≤ (folder home shelf).utf8ByteSize then .error .nameTooLong
        else rooted.makeAll root [shelf.name] := by
  rw [folder_eq, makeDirectories_joinPath_of_made (stemOf_rootFolder home) h.made h.leads
    (nul_not_mem_shelf shelf), namesOf_shelf]

/-- A file in the place of the folder is in the way. -/
theorem makeAll_of_hasFile (hfile : HasFile rooted (shelfAt root shelf)) :
    rooted.makeAll root [shelf.name] = .error .alreadyExists := by
  obtain ⟨text, hentry⟩ := hfile
  obtain ⟨hname, hsize⟩ := isPlainName_shelf shelf
  have henter : rooted.enter root shelf.name = .error .notDirectory := by
    rw [enter, hname, if_neg (by decide), if_neg (Nat.not_lt.mpr hsize), ← shelfAt, hentry]
  rw [makeAll, henter, if_pos rfl]

/-- Where no file is in the way, the folder of a shelf is made as far as it is missing. -/
theorem exists_makeAll_shelf (hfile : ¬ HasFile rooted (shelfAt root shelf)) :
    ∃ opened, rooted.makeAll root [shelf.name] = .ok opened ∧
      Adds (· = shelfAt root shelf) rooted opened ∧
      opened.entry? (shelfAt root shelf) = some .directory := by
  have hplain := isPlainName_shelf shelf
  -- Only the last directory may be missing, since the common folder has been made.
  cases hentry : rooted.entry? (shelfAt root shelf) with
  | none =>
    refine ⟨rooted.insert (shelfAt root shelf) .directory, ?_, .insert rfl hentry (.refl _),
      entry?_insert_self (ne_nil_of_entry?_none hentry)⟩
    rw [makeAll, enter_of_none hplain hentry]
    rfl
  | some entry =>
    cases entry with
    | file text => exact absurd ⟨text, hentry⟩ hfile
    | directory =>
      refine ⟨rooted, ?_, .refl rooted, hentry⟩
      rw [makeAll, enter_of_directory hplain hentry]
      rfl

end Rooted

/-- The folder of a shelf is there and, apart from that, nothing has changed. -/
structure Opens (home : String) (shelf : Shelf) (root : Location) (rooted opened : Volume) :
    Prop where
  leads : opened.LeadsTo (folder home shelf) (shelfAt root shelf)
  adds : Adds (· = shelfAt root shelf) rooted opened
  directory : opened.entry? (shelfAt root shelf) = some .directory

namespace Rooted

theorem opens (h : Rooted home volume rooted root)
    (hmade : volume.makeDirectories (folder home shelf) = .ok opened) :
    Opens home shelf root rooted opened := by
  rw [h.makeDirectories_folder] at hmade
  split at hmade
  · exact absurd hmade (by simp)
  · next hsize =>
    by_cases hfile : HasFile rooted (shelfAt root shelf)
    · rw [makeAll_of_hasFile hfile] at hmade
      exact absurd hmade (by simp)
    · -- There is one way to make the folder, so this is the volume in which it was made.
      obtain ⟨opened', hmade', hadds, hdirectory⟩ := exists_makeAll_shelf hfile
      obtain rfl := Except.ok.inj (hmade'.symm.trans hmade)
      refine ⟨?_, hadds, hdirectory⟩
      have henter : opened'.enter root shelf.name = .ok (shelfAt root shelf) :=
        enter_of_directory (isPlainName_shelf shelf) hdirectory
      rw [folder_eq] at hsize ⊢
      refine (h.leads.of_grows hadds.grows).extend (nul_not_mem_shelf shelf) (by omega) ?_
      rw [namesOf_shelf, List.foldlM_cons, henter]
      rfl

/-- Where the folder of a shelf is made, the folder of the shelves is made first. -/
theorem exists_of_makeDirectories
    (hmade : volume.makeDirectories (folder home shelf) = .ok opened) :
    ∃ rooted root, Rooted home volume rooted root := by
  rw [folder_eq] at hmade
  obtain ⟨rooted, root, hrooted, hleads⟩ :=
    exists_made_of_joinPath (rootFolder_ne_empty home) (stemOf_rootFolder home) hmade
  exact ⟨rooted, root, hrooted, hleads⟩

theorem of_grows (h : Rooted home volume rooted root) (hgrows : rooted.Grows after) :
    Rooted home after after root := by
  have hleads := h.leads.of_grows hgrows
  exact ⟨hleads.makeDirectories, hleads⟩

end Rooted

/-! ## Two volumes

To compare what is read before and after a write, two volumes are compared that agree on the folder
of a shelf. Then the folder can be opened in both or in neither, and what is found there is the
same. -/

section Pairs

variable {volume' rooted' : Volume} (h : Rooted home volume rooted root)
  (h' : Rooted home volume' rooted' root)
  (hfolder : HasFile rooted (shelfAt root shelf) ↔ HasFile rooted' (shelfAt root shelf))

include h h' hfolder

/-- If a file is in the way of the folder in both volumes or in none, then the folder is made in
both or in none. -/
theorem Rooted.makes_both :
    (∃ e, volume.makeDirectories (folder home shelf) = .error e ∧
      volume'.makeDirectories (folder home shelf) = .error e) ∨
    ∃ opened opened', volume.makeDirectories (folder home shelf) = .ok opened ∧
      volume'.makeDirectories (folder home shelf) = .ok opened' ∧
      Opens home shelf root rooted opened ∧ Opens home shelf root rooted' opened' := by
  by_cases hsize : maxPathSize ≤ (folder home shelf).utf8ByteSize
  · refine .inl ⟨.nameTooLong, ?_, ?_⟩
    · rw [h.makeDirectories_folder, if_pos hsize]
    · rw [h'.makeDirectories_folder, if_pos hsize]
  have hmade := h.makeDirectories_folder shelf
  have hmade' := h'.makeDirectories_folder shelf
  rw [if_neg hsize] at hmade hmade'
  -- Nothing but a file can be in the way.
  by_cases hfile : HasFile rooted (shelfAt root shelf)
  · refine .inl ⟨.alreadyExists, ?_, ?_⟩
    · rw [hmade, makeAll_of_hasFile hfile]
    · rw [hmade', makeAll_of_hasFile (hfolder.mp hfile)]
  · obtain ⟨opened, hopened, -⟩ := exists_makeAll_shelf hfile
    obtain ⟨opened', hopened', -⟩ := exists_makeAll_shelf fun hfile' => hfile (hfolder.mpr hfile')
    rw [hopened] at hmade
    rw [hopened'] at hmade'
    exact .inr ⟨opened, opened', hmade, hmade', h.opens hmade, h'.opens hmade'⟩

/-- What is found under a name in a folder that is made before. -/
def lookIn (volume : Volume) (path file : String) : Except SystemError Entry :=
  volume.makeDirectories path >>= fun opened => opened.look (joinPath path file)

/-- The files of a folder that is made before. -/
def listIn (volume : Volume) (path : String) : Except SystemError (List (String × String)) :=
  volume.makeDirectories path >>= fun opened => opened.list path

/-- A file is found in both volumes or in neither if it is the same in both. -/
theorem Rooted.lookIn_congr {file : String} (hslash : '/' ∉ file.toList)
    (hstep : isStep file = false)
    (hfile : rooted.entry? (shelfAt root shelf ++ [file])
      = rooted'.entry? (shelfAt root shelf ++ [file])) :
    lookIn volume (folder home shelf) file = lookIn volume' (folder home shelf) file := by
  rcases h.makes_both h' hfolder with ⟨e, he, he'⟩ | ⟨opened, opened', ho, ho', hopens, hopens'⟩
  · rw [lookIn, lookIn, he, he']
  · rw [lookIn, lookIn, ho, ho']
    refine hopens.leads.look_congr hopens'.leads hslash hstep ?_
    rw [hopens.adds.entry?_of_not (file_ne_shelfAt file),
      hopens'.adds.entry?_of_not (file_ne_shelfAt file), hfile]

/-- The same files are listed in both volumes if the folder has the same files in both. -/
theorem Rooted.listIn_congr
    (hfiles : rooted.filesIn (shelfAt root shelf) = rooted'.filesIn (shelfAt root shelf)) :
    listIn volume (folder home shelf) = listIn volume' (folder home shelf) := by
  rcases h.makes_both h' hfolder with ⟨e, he, he'⟩ | ⟨opened, opened', ho, ho', hopens, hopens'⟩
  · rw [listIn, listIn, he, he']
  · rw [listIn, listIn, ho, ho']
    show opened.list (folder home shelf) = opened'.list (folder home shelf)
    rw [hopens.leads.list_eq hopens.directory, hopens'.leads.list_eq hopens'.directory,
      hopens.adds.filesIn, hopens'.adds.filesIn, hfiles]

end Pairs

/-! ## Writing a file

The hypotheses of a write in one structure, and what is found after it: at the place the new file,
and elsewhere what was there. -/

/-- A file of a shelf is written: the folder of the shelf is opened, the path of the file leads to
the place, where no directory stands, and the file is put there. -/
structure Writes (home : String) (shelf : Shelf) (file text : String)
    (volume rooted opened after : Volume) (root place : Location) : Prop where
  base : Rooted home volume rooted root
  opens : Opens home shelf root rooted opened
  locate : opened.locate (joinPath (folder home shelf) file) = .ok place
  free : opened.entry? place ≠ some .directory
  after_eq : after = opened.insert place (.file text)

namespace Writes

variable {file text : String}

theorem grows (h : Writes home shelf file text volume rooted opened after root place) :
    opened.Grows after := by
  rw [h.after_eq]
  exact Grows.insert fun hdirectory => absurd hdirectory h.free

theorem rootedAfter (h : Writes home shelf file text volume rooted opened after root place) :
    Rooted home after after root :=
  h.base.of_grows (h.opens.adds.grows.trans h.grows)

/-- The new file stands at its place. -/
theorem entry?_place (h : Writes home shelf file text volume rooted opened after root place) :
    after.entry? place = some (.file text) := by
  rw [h.after_eq]
  exact entry?_insert_self (ne_nil_of_entry?_ne h.free)

/-- Away from the place and the folder, nothing has changed. -/
theorem entry?_of_ne (h : Writes home shelf file text volume rooted opened after root place)
    {location : Location} (hplace : location ≠ place) (hfolder : location ≠ shelfAt root shelf) :
    after.entry? location = rooted.entry? location := by
  rw [h.after_eq, entry?_insert_of_ne hplace, h.opens.adds.entry?_of_not hfolder]

/-- A file is in the way of a folder after the write if it was before. -/
theorem hasFile_shelfAt_iff
    (h : Writes home shelf file text volume rooted opened after root place)
    (hplace : shelfAt root other ≠ place) :
    HasFile rooted (shelfAt root other) ↔ HasFile after (shelfAt root other) := by
  by_cases hshelf : other = shelf
  · -- The folder of the shelf itself was opened, so no file is in its way.
    subst hshelf
    have hafter := h.grows.directory h.opens.directory
    constructor
    · rintro ⟨text', hfile⟩
      have hopened := h.opens.adds.entry?_of_some hfile
      exact absurd (hopened.symm.trans h.opens.directory) (by simp)
    · rintro ⟨text', hfile⟩
      exact absurd (hfile.symm.trans hafter) (by simp)
  · have hne : shelfAt root other ≠ shelfAt root shelf := fun heq =>
      hshelf (shelfAt_injective heq)
    rw [HasFile, HasFile, h.entry?_of_ne hplace hne]

/-- The new file is found. -/
theorem lookIn_self (h : Writes home shelf file text volume rooted opened after root place) :
    lookIn after (folder home shelf) file = .ok (.file text) := by
  have hmade := (h.opens.leads.of_grows h.grows).makeDirectories
  rw [lookIn, hmade]
  exact look_eq_ok_iff.mpr ⟨place, h.grows.locate h.locate, h.entry?_place⟩

/-- A file in another place is found or missing as before. -/
theorem lookIn_of_ne (h : Writes home shelf file text volume rooted opened after root place)
    {file' : String} (hslash : '/' ∉ file'.toList) (hstep : isStep file' = false)
    (hfolder : shelfAt root other ≠ place) (hplace : shelfAt root other ++ [file'] ≠ place) :
    lookIn after (folder home other) file' = lookIn volume (folder home other) file' := by
  refine (h.base.lookIn_congr h.rootedAfter (h.hasFile_shelfAt_iff hfolder) hslash hstep ?_).symm
  exact (h.entry?_of_ne hplace (file_ne_shelfAt file')).symm

/-- A file that was found somewhere else is still found, whatever path its name makes. -/
theorem lookIn_of_ok (h : Writes home shelf file text volume rooted opened after root place)
    {file' text' : String} (hfolder : shelfAt root other ≠ place)
    (hplace : ∀ {volume' : Volume},
      volume'.locate (joinPath (folder home other) file') ≠ .ok place)
    (hfound : lookIn volume (folder home other) file' = .ok (.file text')) :
    lookIn after (folder home other) file' = .ok (.file text') := by
  rcases h.base.makes_both h.rootedAfter (h.hasFile_shelfAt_iff hfolder) with
    ⟨e, he, -⟩ | ⟨before, later, hbefore, hlater, hopens, hopens'⟩
  · rw [lookIn, he] at hfound
    exact absurd hfound (by simp [bind, Except.bind])
  rw [lookIn, hbefore] at hfound
  obtain ⟨location, hlocate, hfile⟩ := look_eq_ok_iff.mp hfound
  -- Every directory of the older volume is one of the newer.
  have hgrows : before.Grows later := by
    refine ⟨?_, fun {location} hdirectory => ?_⟩
    · rw [hopens'.adds.grows.workDir, h.grows.workDir, h.opens.adds.grows.workDir,
        hopens.adds.grows.workDir]
    · by_cases heq : location = shelfAt root other
      · exact heq ▸ hopens'.directory
      · rw [hopens.adds.entry?_of_not heq] at hdirectory
        have hopened := h.opens.adds.grows.directory hdirectory
        exact hopens'.adds.grows.directory (h.grows.directory hopened)
  have hne : location ≠ place := fun heq => hplace (heq ▸ hlocate)
  -- The file was no new one before, and it is none of the directories that were made since.
  have hkept : after.entry? location = some (.file text') := by
    rw [h.after_eq, entry?_insert_of_ne hne]
    exact h.opens.adds.entry?_of_some (hopens.adds.entry?_of_file hfile)
  rw [lookIn, hlater]
  exact look_eq_ok_iff.mpr
    ⟨location, hgrows.locate hlocate, hopens'.adds.entry?_of_some hkept⟩

/-- In a folder in which the file does not stand, the same files are listed as before. -/
theorem listIn_of_ne (h : Writes home shelf file text volume rooted opened after root place)
    (hfolder : shelfAt root other ≠ place) (hplace : place.dropLast ≠ shelfAt root other) :
    listIn after (folder home other) = listIn volume (folder home other) := by
  refine (h.base.listIn_congr h.rootedAfter (h.hasFile_shelfAt_iff hfolder) ?_).symm
  rw [h.after_eq, filesIn_insert (listed?_of_dropLast_ne hplace) fun _ _ =>
    listed?_of_dropLast_ne hplace, h.opens.adds.filesIn]

end Writes

end ODataQuery.Store

