import ODataQuery.Proofs.Store.Paths
import ODataQuery.Proofs.Store.Records

/-!
# What a volume holds of a history

A `History` lists the contexts that were created and the names that were taken into use. A volume
holds a history (`Stored`) if below the home directory nothing stands but the folders of the store,
the last context of each name and the last name in use. Making folders changes nothing about that,
and writing a context or a name continues the history (`Stored.insert_context`,
`Stored.insert_current`).
-/

namespace ODataQuery.Store

open Volume

/-! ## Histories

A history is two lists, and only the last entry of each name counts in the first one and the last
entry in the second one. -/

/-- The contexts that were created and the names that were taken into use, in their order. -/
structure History where
  created : List Context := []
  selected : List String := []

namespace History

variable {history : History} {context : Context} {name : String}

/-- The context that was last created under a name. -/
def find? (history : History) (name : String) : Option Context :=
  history.created.reverse.find? (·.name = name)

/-- The name that was last taken into use. -/
def current? (history : History) : Option String := history.selected.getLast?

/-- A context is created. -/
def create (history : History) (context : Context) : History :=
  { history with created := history.created ++ [context] }

/-- A name is taken into use. -/
def select (history : History) (name : String) : History :=
  { history with selected := history.selected ++ [name] }

theorem name_of_find? (h : history.find? name = some context) : context.name = name := by
  simpa using List.find?_some h

theorem mem_of_find? (h : history.find? name = some context) : context ∈ history.created := by
  simpa using List.mem_of_find?_eq_some h

/-- A name is found if a context with this name was created. -/
theorem isSome_find?_iff :
    (history.find? name).isSome ↔ name ∈ history.created.map (·.name) := by
  simp [find?, List.find?_isSome]

/-- The last context of a name is the one that counts. -/
theorem find?_create_self : (history.create context).find? context.name = some context := by
  simp [find?, create]

/-- Creating a context changes nothing about other names. -/
theorem find?_create_of_ne (hne : context.name ≠ name) :
    (history.create context).find? name = history.find? name := by
  simp [find?, create, hne]

theorem current?_select : (history.select name).current? = some name := by
  simp [current?, select]

end History

/-! ## Locations

Where the folders and the files of the store stand, as locations below that of the home directory.
-/

/-- The names on the way from a home directory to the folder of a shelf. -/
def folderNames (shelf : Shelf) : List String :=
  [".cache", "rusty-odata", "cache", "v1", shelf.name]

/-- Where the folder of a shelf stands. -/
def folderAt (home : Location) (shelf : Shelf) : Location := home ++ folderNames shelf

/-- Where a context stands. -/
def contextAt (home : Location) (name : String) : Location :=
  folderAt home .contexts ++ [contextFile name]

/-- Where the name in use stands. -/
def currentAt (home : Location) : Location := folderAt home .current ++ [currentFile]

/-- Different names have different files. -/
theorem contextFile_injective {name name' : String} (h : contextFile name = contextFile name') :
    name = name' := by
  have hlists := congrArg String.toList h
  simp only [contextFile, String.toList_append, List.append_assoc] at hlists
  exact String.toList_inj.mp (List.append_cancel_right (List.append_cancel_left hlists))

/-- No context is stored in the file of the name in use. -/
theorem contextAt_ne_currentAt (home : Location) (name : String) :
    contextAt home name ≠ currentAt home := by
  intro h
  have hfolder := (List.append_inj_left' h rfl)
  exact absurd (List.append_cancel_left hfolder) (by decide)

/-- Files in a folder are not on the way to a folder. -/
theorem concat_not_folder {home : Location} {shelf shelf' : Shelf} {name : String}
    {part : List String} (hpart : part <+: folderNames shelf') :
    folderAt home shelf ++ [name] ≠ home ++ part := by
  intro h
  have hlength := hpart.length_le
  have hnames := List.append_cancel_left ((List.append_assoc ..).symm.trans h)
  rw [← hnames] at hlength
  simp [folderNames] at hlength

/-! ## What stands below a home directory

The invariant of the store: the directories that lead to the shelves may be there, and the files
have to be there and are up to date. Nothing else stands below the home directory. -/

/-- The entries of a history, each with the location where it stands. -/
inductive History.Stands (history : History) (home : Location) : Location → Entry → Prop where
  | directory {shelf : Shelf} {part : List String} (hpart : part <+: folderNames shelf) :
      Stands history home (home ++ part) .directory
  | context {context : Context} (hcontext : history.find? context.name = some context) :
      Stands history home (contextAt home context.name) (.file context.toText)
  | current {name : String} (hcurrent : history.current? = some name) :
      Stands history home (currentAt home) (.file (Json.text name).toText)

/-- Below the home directory, which stands at the location, the volume holds the history and
nothing else. -/
structure Stored (history : History) (home : String) (location : Location) (volume : Volume) :
    Prop where
  leads : volume.LeadsTo home location
  listsOnce : volume.ListsOnce location
  /-- Nothing stands there but the entries of the history. -/
  stands : ∀ {other entry}, location <+: other → other ≠ location →
    volume.entry? other = some entry → history.Stands location other entry
  /-- The last context of each name stands in its file, and the path of the file leads there. -/
  context : ∀ {context}, history.find? context.name = some context →
    volume.locate (joinPath (folder home .contexts) (contextFile context.name))
        = .ok (contextAt location context.name) ∧
      volume.entry? (contextAt location context.name) = some (.file context.toText)
  /-- The last name in use stands in its file, to which its path leads, and has a context. -/
  current : ∀ {name}, history.current? = some name →
    volume.locate (joinPath (folder home .current) currentFile) = .ok (currentAt location) ∧
      volume.entry? (currentAt location) = some (.file (Json.text name).toText) ∧
      ∃ context, history.find? name = some context

namespace Stored

variable {history : History} {home : String} {location : Location} {volume : Volume}

/-- What stands in a folder belongs to the history. -/
theorem stands_in_folder (h : Stored history home location volume) {shelf : Shelf} {name : String}
    {entry : Entry} (hentry : volume.entry? (folderAt location shelf ++ [name]) = some entry) :
    history.Stands location (folderAt location shelf ++ [name]) entry := by
  have hfolder : location <+: folderAt location shelf := List.prefix_append _ _
  exact h.stands (hfolder.trans (List.prefix_append _ _)) (concat_ne_of_below hfolder name) hentry

/-- There are no directories in a folder. -/
theorem flat (h : Stored history home location volume) (shelf : Shelf) (name : String) :
    volume.entry? (folderAt location shelf ++ [name]) ≠ some .directory := by
  intro hentry
  have hstands := h.stands_in_folder hentry
  generalize hother : folderAt location shelf ++ [name] = other at hstands
  cases hstands with
  | directory hpart => exact concat_not_folder hpart hother

/-- In the folder of contexts stand contexts, each in the file of its name. -/
theorem eq_context_of_entry (h : Stored history home location volume) {file : String}
    {entry : Entry} (hentry : volume.entry? (folderAt location .contexts ++ [file]) = some entry) :
    ∃ context, history.find? context.name = some context ∧ file = contextFile context.name ∧
      entry = .file context.toText := by
  have hstands := h.stands_in_folder hentry
  generalize hother : folderAt location .contexts ++ [file] = other at hstands
  cases hstands with
  | directory hpart => exact absurd hother (concat_not_folder hpart)
  | @context context hcontext =>
    exact ⟨context, hcontext, List.singleton_inj.mp (List.append_cancel_left hother), rfl⟩
  | current hcurrent =>
    have hfolder := List.append_inj_left' hother rfl
    exact absurd (List.append_cancel_left hfolder) (by decide)

/-- The file of the name in use has the last name. -/
theorem eq_current_of_entry (h : Stored history home location volume) {entry : Entry}
    (hentry : volume.entry? (currentAt location) = some entry) :
    ∃ name, history.current? = some name ∧ entry = .file (Json.text name).toText := by
  have hstands := h.stands_in_folder hentry
  generalize hother : folderAt location .current ++ [currentFile] = other at hstands
  cases hstands with
  | directory hpart => exact absurd hother (concat_not_folder hpart)
  | context hcontext => exact absurd hother.symm (contextAt_ne_currentAt location _)
  | @current name hcurrent => exact ⟨name, hcurrent, rfl⟩

/-! ## Steps

Each of the three insertions of the store keeps the invariant. In each of them the entry that is new
has to be found in the new history, and the files that are old have to stay where they are. -/

/-- After an insertion there stands the new entry, and what stood elsewhere. -/
theorem stands_insert {history' : History} {place other : Location} {new entry : Entry}
    (h : Stored history home location volume) (hplace : history'.Stands location place new)
    (hothers : ∀ {other entry}, other ≠ place → history.Stands location other entry →
      history'.Stands location other entry)
    (hbelow : location <+: other) (hne : other ≠ location)
    (hentry : entry? (volume.insert place new) other = some entry) :
    history'.Stands location other entry := by
  by_cases heq : other = place
  · subst heq
    rw [entry?_insert_self (ne_nil_of_below hbelow hne)] at hentry
    exact Option.some.inj hentry ▸ hplace
  · rw [entry?_insert_of_ne heq] at hentry
    exact hothers heq (h.stands hbelow hne hentry)

/-- A missing folder can be made. -/
theorem insert_directory (h : Stored history home location volume) {shelf : Shelf}
    {part : List String} (hpart : part <+: folderNames shelf)
    (hnone : volume.entry? (location ++ part) = none) :
    Stored history home location (volume.insert (location ++ part) .directory) := by
  have hgrows : volume.Grows (volume.insert (location ++ part) .directory) :=
    Grows.insert fun _ => rfl
  -- Where something stood before, it still stands.
  have hkept : ∀ {other entry}, volume.entry? other = some entry →
      entry? (volume.insert (location ++ part) .directory) other = some entry := by
    intro other entry hentry
    rw [entry?_insert_of_ne, hentry]
    rintro rfl
    rw [hnone] at hentry
    exact absurd hentry (by simp)
  refine ⟨h.leads.of_grows hgrows, h.listsOnce.insert _ _,
    h.stands_insert (.directory hpart) fun _ hstands => hstands, ?_, ?_⟩
  · intro context hcontext
    obtain ⟨hlocate, hentry⟩ := h.context hcontext
    exact ⟨hgrows.locate hlocate, hkept hentry⟩
  · intro name hname
    obtain ⟨hlocate, hentry, hcontext⟩ := h.current hname
    exact ⟨hgrows.locate hlocate, hkept hentry, hcontext⟩

/-- Writing a context continues the history. -/
theorem insert_context (h : Stored history home location volume) {context : Context}
    (hlocate : volume.locate (joinPath (folder home .contexts) (contextFile context.name))
      = .ok (contextAt location context.name)) :
    Stored (history.create context) home location
      (volume.insert (contextAt location context.name) (.file context.toText)) := by
  -- An older context of the same name is replaced, and one of another name stands elsewhere.
  have hroot : contextAt location context.name ≠ [] := by simp [contextAt]
  have hgrows : volume.Grows
      (volume.insert (contextAt location context.name) (.file context.toText)) :=
    Grows.insert fun hdirectory => absurd hdirectory (h.flat .contexts _)
  have hother : ∀ {name}, name ≠ context.name →
      contextAt location name ≠ contextAt location context.name := by
    intro name hne heq
    exact hne (contextFile_injective (List.singleton_inj.mp (List.append_cancel_left heq)))
  refine ⟨h.leads.of_grows hgrows, h.listsOnce.insert _ _,
    h.stands_insert (.context History.find?_create_self) ?_, ?_, ?_⟩
  · intro other entry hne hstands
    cases hstands with
    | directory hpart => exact .directory hpart
    | @context older holder =>
      have hname : context.name ≠ older.name := by
        intro hname
        exact hne (by rw [hname])
      exact .context ((History.find?_create_of_ne hname).trans holder)
    | current hcurrent => exact .current hcurrent
  · intro other hfind
    by_cases hname : other.name = context.name
    · rw [hname, History.find?_create_self] at hfind
      obtain rfl := Option.some.inj hfind
      exact ⟨hgrows.locate hlocate, entry?_insert_self hroot⟩
    · rw [History.find?_create_of_ne (Ne.symm hname)] at hfind
      obtain ⟨hlocate', hentry⟩ := h.context hfind
      exact ⟨hgrows.locate hlocate', (entry?_insert_of_ne (hother hname)).trans hentry⟩
  · intro name hcurrent
    obtain ⟨hlocate', hentry, older, holder⟩ := h.current hcurrent
    refine ⟨hgrows.locate hlocate',
      (entry?_insert_of_ne (contextAt_ne_currentAt location _).symm).trans hentry, ?_⟩
    by_cases hname : context.name = name
    · exact ⟨context, hname ▸ History.find?_create_self⟩
    · exact ⟨older, (History.find?_create_of_ne hname).trans holder⟩

/-- Taking a name into use continues the history. -/
theorem insert_current (h : Stored history home location volume) {context : Context} {name : String}
    (hlocate : volume.locate (joinPath (folder home .current) currentFile)
      = .ok (currentAt location))
    (hfind : history.find? name = some context) :
    Stored (history.select name) home location
      (volume.insert (currentAt location) (.file (Json.text name).toText)) := by
  have hroot : currentAt location ≠ [] := by simp [currentAt]
  -- There was no directory in the place of the file.
  have hgrows : volume.Grows
      (volume.insert (currentAt location) (.file (Json.text name).toText)) :=
    Grows.insert fun hdirectory => absurd hdirectory (h.flat .current _)
  refine ⟨h.leads.of_grows hgrows, h.listsOnce.insert _ _,
    h.stands_insert (.current History.current?_select) ?_, ?_, ?_⟩
  · intro other entry hne hstands
    cases hstands with
    | directory hpart => exact .directory hpart
    | context hcontext => exact .context hcontext
    | current _ => exact absurd rfl hne
  · intro other hother
    obtain ⟨hlocate, hentry⟩ := h.context hother
    have hapart : contextAt location other.name ≠ currentAt location :=
      contextAt_ne_currentAt location _
    exact ⟨hgrows.locate hlocate, (entry?_insert_of_ne hapart).trans hentry⟩
  · intro other hother
    rw [History.current?_select] at hother
    obtain rfl := Option.some.inj hother
    exact ⟨hgrows.locate hlocate, entry?_insert_self hroot, context, hfind⟩

end Stored

end ODataQuery.Store
