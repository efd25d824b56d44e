import ODataQuery.Proofs.Store.Action
import ODataQuery.Proofs.Store.Directories
import ODataQuery.Proofs.Store.History

/-!
# Stored contexts and their history

What the operations of the store do to a volume that holds a history: reading gives what the history
says and fails where it says nothing (`triple_readContext`, `triple_readCurrent`,
`triple_readContexts`), and writing continues the history (`triple_writeContext`,
`triple_writeCurrentName`).

The home directory may be anywhere, so a path of the store may be longer than the system allows. An
operation that fails says so where this is the reason.
-/

namespace ODataQuery.Store

open Volume ODataQuery.Action

variable {history : History} {home : String} {location : Location} {volume : Volume}

/-! ## Folders

The folder of a shelf can be opened in every volume that holds a history, unless its path is too
long, and opening it changes nothing about the history (`triple_openFolder`). -/

/-- The folder of a shelf is four names below the home directory. -/
theorem namesOf_folder (shelf : Shelf) :
    namesOf (joinPath ".cache/rusty-odata/cache/v1" shelf.name) = folderNames shelf := by
  cases shelf <;> decide

/-- The names of the folders are names of directories. -/
theorem isPlainName_of_mem_folderNames (shelf : Shelf) :
    ∀ name ∈ folderNames shelf, IsPlainName name := by
  cases shelf <;> decide

/-- The paths of the folders can be given to the system. -/
theorem nul_not_mem_folder (shelf : Shelf) :
    '\x00' ∉ (joinPath ".cache/rusty-odata/cache/v1" shelf.name).toList := by
  cases shelf <;> decide

/-- New folders of the store change nothing about the history. -/
theorem Stored.of_adds {shelf : Shelf} {after : Volume}
    (hadds : Adds (OnTheWay location (folderNames shelf)) volume after)
    (h : Stored history home location volume) : Stored history home location after := by
  induction hadds with
  | refl volume => exact h
  | insert hplace hnone _ ih =>
    obtain ⟨part, hpart, rfl⟩ := hplace
    exact ih (h.insert_directory hpart hnone)

/-- The folder of a shelf can be made, if its path is not too long. -/
theorem Stored.exists_makeDirectories (h : Stored history home location volume) {shelf : Shelf}
    (hsize : (folder home shelf).utf8ByteSize < maxPathSize) :
    ∃ after, volume.makeDirectories (folder home shelf) = .ok after ∧
      Stored history home location after ∧
      after.LeadsTo (folder home shelf) (folderAt location shelf) := by
  -- On the way to the folder there are directories of the store or nothing.
  have hfree : volume.IsFree location (folderNames shelf) := by
    rintro other ⟨part, hpart, hother⟩ hne
    cases hentry : volume.entry? other with
    | none => exact .inl rfl
    | some entry =>
      have hstands := h.stands (hother ▸ List.prefix_append _ _) hne hentry
      cases hstands with
      | directory _ => exact .inr rfl
      | context _ => exact absurd hother (concat_not_folder hpart)
      | current _ => exact absurd hother (concat_not_folder hpart)
  obtain ⟨after, hmade, hadds, hwalk⟩ := exists_makeAll (isPlainName_of_mem_folderNames shelf) hfree
  refine ⟨after, ?_, h.of_adds hadds, ?_⟩
  · rw [folder, h.leads.makeDirectories_joinPath (nul_not_mem_folder shelf) hsize, namesOf_folder]
    exact hmade
  · exact (h.leads.of_grows hadds.grows).extend (nul_not_mem_folder shelf) hsize
      (namesOf_folder shelf ▸ hwalk)

/-- A path that is too long is refused before anything is looked at. -/
theorem Stored.makeDirectories_of_long (h : Stored history home location volume) {shelf : Shelf}
    (hsize : maxPathSize ≤ (folder home shelf).utf8ByteSize) :
    volume.makeDirectories (folder home shelf) = .error .nameTooLong := by
  obtain ⟨start, names, hnames, -⟩ := h.leads
  rw [folder] at hsize ⊢
  rw [makeDirectories, names_joinPath hnames, if_neg (nul_not_mem_folder shelf), if_pos hsize]
  rfl

/-- A volume that holds the history and has the folder of the shelf. -/
def Opened (history : History) (home : String) (location : Location) (shelf : Shelf)
    (volume : Volume) : Prop :=
  Stored history home location volume ∧
    volume.LeadsTo (folder home shelf) (folderAt location shelf)

/-- The path of a folder starts where the path of the home directory starts, and goes through it. -/
theorem Stored.names_folder (h : Stored history home location volume) {shelf : Shelf}
    (hsize : (folder home shelf).utf8ByteSize < maxPathSize) :
    ∃ start, volume.names (folder home shelf)
        = .ok (start, stemOf home ++ folderNames shelf) ∧
      (stemOf home).foldlM volume.enter start = .ok location := by
  obtain ⟨start, hnames, hwalk⟩ := h.leads.exists_stem
  refine ⟨start, ?_, hwalk⟩
  rw [folder] at hsize ⊢
  rw [names_joinPath hnames, if_neg (nul_not_mem_folder shelf), if_neg (Nat.not_le.mpr hsize),
    namesOf_folder]

/-- A folder of the store that is there stands in its place. -/
theorem Stored.opened_of_leadsTo (h : Stored history home location volume) {shelf : Shelf}
    {directory : Location} (hleads : volume.LeadsTo (folder home shelf) directory) :
    Opened history home location shelf volume := by
  refine ⟨h, ?_⟩
  obtain ⟨start', names, hnames', hwalk⟩ := hleads
  obtain ⟨start, hnames, hhome⟩ := h.names_folder (names_eq_ok hnames').2.2.1
  obtain ⟨rfl, rfl⟩ := Prod.mk.inj (Except.ok.inj (hnames'.symm.trans hnames))
  have hfolder : (folderNames shelf).foldlM volume.enter location = .ok directory := by
    rwa [List.foldlM_append, hhome] at hwalk
  have hplain : ∀ name ∈ folderNames shelf, isStep name = false := fun name hname =>
    (isPlainName_of_mem_folderNames shelf name hname).1
  have hdirectory : directory = folderAt location shelf := eq_append_of_walk hplain hfolder
  exact ⟨start', _, hnames', hdirectory ▸ hwalk⟩

/-- If something is found in a folder, the folder is open. -/
theorem Stored.opened_of_look (h : Stored history home location volume) {shelf : Shelf}
    {file : String} {entry : Entry}
    (hlook : volume.look (joinPath (folder home shelf) file) = .ok entry) :
    Opened history home location shelf volume := by
  obtain ⟨other, hlocate, -⟩ := look_eq_ok_iff.mp hlook
  -- The path of the folder is shorter than that of the file.
  have hsize : (folder home shelf).utf8ByteSize < maxPathSize :=
    Nat.lt_of_le_of_lt (utf8ByteSize_le_joinPath _ file) (utf8ByteSize_of_locate hlocate)
  obtain ⟨start, hnames, -⟩ := h.names_folder hsize
  obtain ⟨directory, hleads⟩ := exists_leadsTo_of_locate hnames hlocate
  exact h.opened_of_leadsTo hleads

/-- If a folder can be listed, it is open. -/
theorem Stored.opened_of_list (h : Stored history home location volume) {shelf : Shelf}
    {files : List (String × String)} (hlist : volume.list (folder home shelf) = .ok files) :
    Opened history home location shelf volume := by
  rw [list, bind_eq_ok_iff] at hlist
  obtain ⟨directory, hlocate, hfiles⟩ := hlist
  cases hentry : volume.entry? directory with
  | none => simp [hentry] at hfiles
  | some entry =>
    cases entry with
    | file text => simp [hentry] at hfiles
    | directory => exact h.opened_of_leadsTo (LeadsTo.of_locate hlocate hentry)

/-- Opening a folder fails where its path is too long, and nowhere else. -/
theorem triple_openFolder (shelf : Shelf) :
    Triple (Stored history home location) (openFolder (some home) shelf)
      (fun path volume => path = folder home shelf ∧ Opened history home location shelf volume)
      (fun _ volume => Stored history home location volume ∧
        maxPathSize ≤ (folder home shelf).utf8ByteSize) := by
  have hchange : Triple (Stored history home location)
      (Action.change (·.makeDirectories (folder home shelf)))
      (fun _ => Opened history home location shelf)
      (fun _ volume => Stored history home location volume ∧
        maxPathSize ≤ (folder home shelf).utf8ByteSize) := by
    refine (Triple.change _).consequence (fun _ h => h) ?_ ?_
    · rintro - after ⟨volume, hvolume, hmade⟩
      -- What was made is the one thing that could have been made.
      obtain ⟨-, directory, hleads⟩ := leadsTo_of_makeDirectories hmade
      obtain ⟨start, names, hnames, -⟩ := hleads
      obtain ⟨after', hmade', hopened⟩ := hvolume.exists_makeDirectories (names_eq_ok hnames).2.2.1
      obtain rfl := Except.ok.inj (hmade'.symm.trans hmade)
      exact hopened
    · rintro - volume ⟨hvolume, e, he⟩
      refine ⟨hvolume, Nat.not_lt.mp fun hsize => ?_⟩
      obtain ⟨after', hmade', -⟩ := hvolume.exists_makeDirectories hsize
      exact absurd (hmade'.symm.trans he) (by simp)
  exact hchange.bind fun _ _ h => ⟨rfl, h⟩

/-! ## Reading files

Once the folder is open, a file gives what the history says. A file that the history says nothing
about is not there. -/

/-- A value is read from the file at the end of the path. -/
def Gives {α : Type} (volume : Volume) (path : String) (read : Json.Reader α) (a : α) : Prop :=
  ∃ text, volume.look path = .ok (.file text) ∧ read.ofText text = .ok a

/-- Reading a file of a shelf fails where the path of the file gives nothing, whether the folder
could be opened or not. -/
theorem triple_readEntry {α : Type} (shelf : Shelf) (file : String) (read : Json.Reader α) :
    Triple (Stored history home location) (readEntry (some home) shelf file read)
      (fun a volume => Opened history home location shelf volume ∧
        Gives volume (joinPath (folder home shelf) file) read a)
      (fun _ volume => Stored history home location volume ∧
        ∀ a, ¬ Gives volume (joinPath (folder home shelf) file) read a) := by
  -- The three steps of reading: opening the folder, reading the file, reading the document.
  refine Triple.bind ((triple_openFolder shelf).consequence (fun _ h => h) (fun _ _ h => h) ?_)
    fun path => ?_
  · rintro - volume ⟨hstored, hlong⟩
    refine ⟨hstored, ?_⟩
    rintro a ⟨text, hlook, -⟩
    obtain ⟨other, hlocate, -⟩ := look_eq_ok_iff.mp hlook
    exact Nat.not_lt.mpr (Nat.le_trans hlong (utf8ByteSize_le_joinPath _ file))
      (utf8ByteSize_of_locate hlocate)
  refine Triple.bind (Triple.modify fun _ => rfl) fun _ => ?_
  refine Triple.bind ((Triple.readFile _).consequence (fun _ h => h) (fun _ _ h => h) ?_)
    fun text => ?_
  · rintro - volume ⟨⟨rfl, hopened⟩, hlook⟩
    refine ⟨hopened.1, ?_⟩
    rintro a ⟨text, htext, -⟩
    exact hlook text htext
  · refine (Triple.ofDocument _).consequence (fun _ h => h) ?_ ?_
    · rintro a volume ⟨⟨⟨rfl, hopened⟩, hlook⟩, hread⟩
      exact ⟨hopened, text, hlook, hread⟩
    · rintro - volume ⟨⟨⟨rfl, hopened⟩, hlook⟩, fault, hfault⟩
      refine ⟨hopened.1, ?_⟩
      rintro a ⟨other, hother, hread⟩
      obtain rfl := Entry.file.inj (Except.ok.inj (hother.symm.trans hlook))
      exact absurd (hread.symm.trans hfault) (by simp)

/-- The file of a context gives the last one with its name. -/
theorem Stored.gives_context (h : Stored history home location volume) {name : String}
    {context : Context} (hfind : history.find? name = some context) :
    Gives volume (joinPath (folder home .contexts) (contextFile name)) Context.read context := by
  obtain rfl := History.name_of_find? hfind
  obtain ⟨hlocate, hentry⟩ := h.context hfind
  exact ⟨context.toText, look_eq_ok_iff.mpr ⟨_, hlocate, hentry⟩, context.read_toText⟩

/-- The file of the name in use gives the last name. -/
theorem Stored.gives_current (h : Stored history home location volume) {name : String}
    (hcurrent : history.current? = some name) :
    Gives volume (joinPath (folder home .current) currentFile) readName name := by
  obtain ⟨hlocate, hentry, -⟩ := h.current hcurrent
  exact ⟨_, look_eq_ok_iff.mpr ⟨_, hlocate, hentry⟩, readName_toText name⟩

/-- A path with the file name of a context leads to that context or nowhere. -/
theorem Opened.eq_contextAt (h : Opened history home location .contexts volume) {name : String}
    {other : Location}
    (hlocate : volume.locate (joinPath (folder home .contexts) (contextFile name)) = .ok other) :
    other = contextAt location name := by
  have hfile : (contextFile name).toList
      = 'c' :: ("ontext_".toList ++ name.toList ++ ".json".toList) := by
    simp [contextFile, String.toList_append]
  exact h.2.eq_of_locate_file (h.1.flat .contexts) hfile (by decide) (by decide) hlocate

/-- In an open folder, the file of a context gives what the history says and nothing else. -/
theorem Opened.gives_context_iff (h : Opened history home location .contexts volume) {name : String}
    {context : Context} :
    Gives volume (joinPath (folder home .contexts) (contextFile name)) Context.read context
      ↔ history.find? name = some context := by
  constructor
  · rintro ⟨text, hlook, hread⟩
    obtain ⟨other, hlocate, hentry⟩ := look_eq_ok_iff.mp hlook
    obtain rfl := h.eq_contextAt hlocate
    obtain ⟨stored, hfind, hfile, htext⟩ := h.1.eq_context_of_entry hentry
    obtain rfl := contextFile_injective hfile
    obtain rfl := Entry.file.inj htext
    rw [Context.read_toText] at hread
    exact Except.ok.inj hread ▸ hfind
  · exact h.1.gives_context

/-- The path of the name in use leads to its place or, if it is too long, nowhere. -/
theorem Opened.locate_current (h : Opened history home location .current volume)
    (hsize : (joinPath (folder home .current) currentFile).utf8ByteSize < maxPathSize) :
    volume.locate (joinPath (folder home .current) currentFile) = .ok (currentAt location) :=
  h.2.locate_file (by decide) (by decide) (by decide) hsize

/-- The path of the name in use leads to its place. -/
theorem Opened.eq_currentAt (h : Opened history home location .current volume) {other : Location}
    (hlocate : volume.locate (joinPath (folder home .current) currentFile) = .ok other) :
    other = currentAt location :=
  Except.ok.inj (hlocate.symm.trans (h.locate_current (utf8ByteSize_of_locate hlocate)))

/-- In an open folder, the file of the name in use gives what the history says and nothing else. -/
theorem Opened.gives_current_iff (h : Opened history home location .current volume)
    {name : String} :
    Gives volume (joinPath (folder home .current) currentFile) readName name
      ↔ history.current? = some name := by
  constructor
  · rintro ⟨text, hlook, hread⟩
    obtain ⟨other, hlocate, hentry⟩ := look_eq_ok_iff.mp hlook
    obtain rfl := h.eq_currentAt hlocate
    obtain ⟨stored, hcurrent, htext⟩ := h.1.eq_current_of_entry hentry
    obtain rfl := Entry.file.inj htext
    rw [readName_toText] at hread
    exact Except.ok.inj hread ▸ hcurrent
  · exact h.1.gives_current

/-- The context of a name is read if and only if one was created under it. -/
theorem triple_readContext (name : String) :
    Triple (Stored history home location) (readContext (some home) name)
      (fun context volume => Stored history home location volume ∧
        history.find? name = some context)
      (fun _ volume => Stored history home location volume ∧ history.find? name = none) := by
  refine (triple_readEntry .contexts (contextFile name) Context.read).consequence (fun _ h => h)
    ?_ ?_
  · rintro context volume ⟨hopened, hgives⟩
    exact ⟨hopened.1, hopened.gives_context_iff.mp hgives⟩
  · rintro - volume ⟨hstored, hgives⟩
    refine ⟨hstored, Option.eq_none_iff_forall_ne_some.mpr fun context hfind => ?_⟩
    exact hgives context (hstored.gives_context hfind)

/-- The name in use is read if and only if one was taken into use. -/
theorem triple_readCurrentName :
    Triple (Stored history home location) (readCurrentName (some home))
      (fun name volume => Stored history home location volume ∧ history.current? = some name)
      (fun _ volume => Stored history home location volume ∧ history.current? = none) := by
  refine (triple_readEntry .current currentFile readName).consequence (fun _ h => h) ?_ ?_
  · rintro name volume ⟨hopened, hgives⟩
    exact ⟨hopened.1, hopened.gives_current_iff.mp hgives⟩
  · rintro - volume ⟨hstored, hgives⟩
    refine ⟨hstored, Option.eq_none_iff_forall_ne_some.mpr fun name hcurrent => ?_⟩
    exact hgives name (hstored.gives_current hcurrent)

/-- The context in use is read if and only if a name was taken into use. -/
theorem triple_readCurrent :
    Triple (Stored history home location) (readCurrent (some home))
      (fun context volume => Stored history home location volume ∧
        ∃ name, history.current? = some name ∧ history.find? name = some context)
      (fun _ volume => Stored history home location volume ∧ history.current? = none) := by
  refine Triple.bind triple_readCurrentName fun name world hworld => ?_
  obtain ⟨hstored, hcurrent⟩ := hworld
  -- The name in use has a context, so reading that cannot fail.
  obtain ⟨-, -, context, hfind⟩ := hstored.current hcurrent
  have hread := triple_readContext name world hstored
  cases hrun : (readContext (some home) name).run world with
  | ok other after =>
    rw [hrun] at hread
    exact ⟨hread.1, name, hcurrent, hread.2⟩
  | error failure after =>
    rw [hrun] at hread
    exact absurd (hfind.symm.trans hread.2) (by simp)

/-! ## Writing files

Writing inserts the file at the place where the history expects it, whatever stood there before. -/

/-- The name of a context can stand in the name of its file. -/
structure IsFileName (name : String) : Prop where
  nul : '\x00' ∉ name.toList
  slash : '/' ∉ name.toList
  /-- The name of the file is not too long. -/
  plain : IsPlainName (contextFile name)

/-- What is not in the name of a context is not in the name of its file. -/
theorem not_mem_contextFile {name : String} {c : Char} (hc : c = '\x00' ∨ c = '/')
    (hname : c ∉ name.toList) : c ∉ (contextFile name).toList := by
  have hends : c ∉ "context_".toList ∧ c ∉ ".json".toList := by
    rcases hc with rfl | rfl <;> decide
  simp only [contextFile, String.toList_append, List.mem_append]
  rintro ((hmem | hmem) | hmem)
  · exact hends.1 hmem
  · exact hname hmem
  · exact hends.2 hmem

/-- Writing a context continues the history. It fails, and changes nothing, where the name is no
part of a file name or the path of the file is too long, and nowhere else. -/
theorem triple_writeContext (context : Context) :
    Triple (Stored history home location) (writeContext (some home) context)
      (fun _ => Stored (history.create context) home location)
      (fun _ volume => Stored history home location volume ∧ (IsFileName context.name →
        maxPathSize
          ≤ (joinPath (folder home .contexts) (contextFile context.name)).utf8ByteSize)) := by
  refine Triple.bind ((triple_openFolder .contexts).consequence (fun _ h => h) (fun _ _ h => h)
    ?_) fun path => ?_
  · rintro - volume ⟨hstored, hlong⟩
    exact ⟨hstored, fun _ => Nat.le_trans hlong (utf8ByteSize_le_joinPath _ _)⟩
  refine Triple.bind (Triple.modify fun _ => rfl) fun _ => ?_
  refine (Triple.change _).consequence (fun _ h => h) ?_ ?_
  · rintro - after ⟨volume, ⟨rfl, hopened⟩, hwrite⟩
    obtain ⟨other, hlocate, -, rfl⟩ := write_eq_ok_iff.mp hwrite
    -- Whatever the name holds, it cannot lead out of the folder.
    obtain rfl := hopened.eq_contextAt hlocate
    exact hopened.1.insert_context hlocate
  · rintro - volume ⟨⟨rfl, hopened⟩, e, he⟩
    refine ⟨hopened.1, fun hname => Nat.not_lt.mp fun hsize => ?_⟩
    have hlocate := hopened.2.locate_file (not_mem_contextFile (.inl rfl) hname.nul)
      (not_mem_contextFile (.inr rfl) hname.slash) hname.plain hsize
    have hwrite : volume.write (joinPath (folder home .contexts) (contextFile context.name))
        context.toText = .ok (volume.insert (contextAt location context.name)
          (.file context.toText)) :=
      write_eq_ok_iff.mpr ⟨_, hlocate, hopened.1.flat .contexts _, rfl⟩
    exact absurd (hwrite.symm.trans he) (by simp)

/-- The name of a stored context can be taken into use, unless the path of the file is too long. -/
theorem triple_writeCurrentName {name : String} {context : Context}
    (hfind : history.find? name = some context) :
    Triple (Stored history home location) (writeCurrentName (some home) name)
      (fun _ => Stored (history.select name) home location)
      (fun _ volume => Stored history home location volume ∧
        maxPathSize ≤ (joinPath (folder home .current) currentFile).utf8ByteSize) := by
  refine Triple.bind ((triple_openFolder .current).consequence (fun _ h => h) (fun _ _ h => h) ?_)
    fun path => ?_
  · rintro - volume ⟨hstored, hlong⟩
    exact ⟨hstored, Nat.le_trans hlong (utf8ByteSize_le_joinPath _ _)⟩
  refine Triple.bind (Triple.modify fun _ => rfl) fun _ => ?_
  refine (Triple.change _).consequence (fun _ h => h) ?_ ?_
  · rintro - after ⟨volume, ⟨rfl, hopened⟩, hwrite⟩
    obtain ⟨other, hlocate, -, rfl⟩ := write_eq_ok_iff.mp hwrite
    obtain rfl := hopened.eq_currentAt hlocate
    exact hopened.1.insert_current hlocate hfind
  · rintro - volume ⟨⟨rfl, hopened⟩, e, he⟩
    refine ⟨hopened.1, Nat.not_lt.mp fun hsize => ?_⟩
    -- Where its path leads, the file of the name in use is never a directory.
    have hwrite : volume.write (joinPath (folder home .current) currentFile) (Json.text name).toText
        = .ok (volume.insert (currentAt location) (.file (Json.text name).toText)) :=
      write_eq_ok_iff.mpr
        ⟨_, hopened.locate_current hsize, hopened.1.flat .current _, rfl⟩
    exact absurd (hwrite.symm.trans he) (by simp)

/-! ## All contexts

The files in the folder of the contexts are those of the history, each name once, so all of them can
be read. -/

/-- An open folder is listed as it is. -/
theorem Opened.list_folder {shelf : Shelf} (h : Opened history home location shelf volume) :
    volume.list (folder home shelf) = .ok (volume.filesIn (folderAt location shelf)) := by
  have hdirectory : volume.entry? (folderAt location shelf) = some .directory := by
    obtain ⟨start, names, hnames, hwalk⟩ := h.2
    obtain ⟨-, -, -, -, hnamesOf⟩ := names_eq_ok hnames
    -- The last name of the path is that of the folder.
    have hlast : names
        = (stemOf home ++ [".cache", "rusty-odata", "cache", "v1"]) ++ [shelf.name] := by
      rw [hnamesOf, folder, namesOf_joinPath, namesOf_folder, folderNames, List.append_assoc]
      rfl
    rw [hlast, foldlM_enter_concat, bind_eq_ok_iff] at hwalk
    obtain ⟨parent, -, henter⟩ := hwalk
    have hplain := isPlainName_of_mem_folderNames shelf shelf.name (by simp [folderNames])
    exact directory_of_enter hplain.1 henter
  rw [list, h.2.locate]
  simp only [bind, Except.bind, hdirectory]
  rfl

/-- Texts of contexts are read one by one. -/
theorem exists_mapM_read {files : List (String × String)}
    (hfiles : ∀ file ∈ files, ∃ context : Context,
      file = (contextFile context.name, context.toText)) :
    ∃ contexts, files.mapM (fun file => Context.read.ofText file.2) = .ok contexts ∧
      files = contexts.map fun context => (contextFile context.name, context.toText) := by
  induction files with
  | nil => exact ⟨[], rfl, rfl⟩
  | cons file files ih =>
    obtain ⟨⟨context, hcontext⟩, hothers⟩ := List.forall_mem_cons.mp hfiles
    obtain ⟨contexts, hread, hmap⟩ := ih hothers
    refine ⟨context :: contexts, ?_, by rw [List.map_cons, ← hmap, hcontext]⟩
    rw [List.mapM_cons, hcontext, context.read_toText, hread]
    rfl

/-- Different contexts are stored as different texts. -/
theorem toText_injective {context other : Context} (h : context.toText = other.toText) :
    context = other := by
  have hread := context.read_toText
  rw [h, other.read_toText] at hread
  exact (Except.ok.inj hread).symm

/-- The files of the contexts are those that the history says. -/
theorem Opened.mem_filesIn_iff (h : Opened history home location .contexts volume)
    {context : Context} :
    (contextFile context.name, context.toText) ∈ volume.filesIn (folderAt location .contexts)
      ↔ history.find? context.name = some context := by
  have hbelow : location <+: folderAt location .contexts := List.prefix_append _ _
  rw [h.1.listsOnce.mem_filesIn_iff hbelow]
  constructor
  · intro hentry
    obtain ⟨stored, hfind, -, htext⟩ := h.1.eq_context_of_entry hentry
    obtain rfl := toText_injective (Entry.file.inj htext)
    exact hfind
  · exact fun hfind => (h.1.context hfind).2

/-- The files of the folder are the contexts that the history gives for their names. -/
theorem Opened.exists_mapM_filesIn (h : Opened history home location .contexts volume) :
    ∃ contexts, (volume.filesIn (folderAt location .contexts)).mapM
        (fun file => Context.read.ofText file.2) = .ok contexts ∧
      (contexts.map (·.name)).Nodup ∧
      ∀ context, context ∈ contexts ↔ history.find? context.name = some context := by
  have hbelow : location <+: folderAt location .contexts := List.prefix_append _ _
  obtain ⟨contexts, hread, hfiles⟩ := exists_mapM_read (by
    rintro ⟨file, text⟩ hfile
    have hentry := (h.1.listsOnce.mem_filesIn_iff hbelow).mp hfile
    obtain ⟨context, -, rfl, htext⟩ := h.1.eq_context_of_entry hentry
    -- Each file was written for a context, whose text is read back.
    exact ⟨context, by rw [Entry.file.inj htext]⟩)
  refine ⟨contexts, hread, ?_, fun context => ?_⟩
  · -- A file is named after the context in it, so no two contexts have the same name.
    have hnames : (volume.filesIn (folderAt location .contexts)).map Prod.fst
        = (contexts.map (·.name)).map contextFile := by
      rw [hfiles, List.map_map, List.map_map]
      rfl
    have hnodup := h.1.listsOnce.nodup_filesIn hbelow
    rw [hnames] at hnodup
    exact List.Pairwise.of_map contextFile (fun _ _ hne heq => hne (congrArg contextFile heq))
      hnodup
  · rw [← h.mem_filesIn_iff, hfiles, List.mem_map]
    constructor
    · exact fun hcontext => ⟨context, hcontext, rfl⟩
    · rintro ⟨other, hother, heq⟩
      exact toText_injective (Prod.mk.inj heq).2 ▸ hother

/-- Of each name that was created the last context is read, and nothing else. Reading them fails
where the path of their folder is too long, and nowhere else. -/
theorem triple_readContexts :
    Triple (Stored history home location) (readContexts (some home))
      (fun contexts volume => Stored history home location volume ∧
        (contexts.map (·.name)).Nodup ∧
        ∀ context, context ∈ contexts ↔ history.find? context.name = some context)
      (fun _ volume => Stored history home location volume ∧
        maxPathSize ≤ (folder home .contexts).utf8ByteSize) := by
  refine Triple.bind (triple_openFolder .contexts) fun path => ?_
  refine Triple.bind ((Triple.ofVolume _).consequence (fun _ h => h) (fun _ _ h => h) ?_)
    fun files => ?_
  · rintro - volume ⟨⟨rfl, hopened⟩, e, he⟩
    exact absurd (hopened.list_folder.symm.trans he) (by simp)
  · refine (Triple.ofDocument _).consequence (fun _ h => h) ?_ ?_
    · rintro contexts volume ⟨⟨⟨rfl, hopened⟩, hlist⟩, hread⟩
      obtain rfl := Except.ok.inj (hlist.symm.trans hopened.list_folder)
      -- Every file in the folder can be read, and these are the contexts that are read.
      obtain ⟨others, hothers, hall⟩ := hopened.exists_mapM_filesIn
      obtain rfl := Except.ok.inj (hothers.symm.trans hread)
      exact ⟨hopened.1, hall⟩
    · rintro - volume ⟨⟨⟨rfl, hopened⟩, hlist⟩, fault, hread⟩
      obtain rfl := Except.ok.inj (hlist.symm.trans hopened.list_folder)
      obtain ⟨others, hothers, -⟩ := hopened.exists_mapM_filesIn
      exact absurd (hothers.symm.trans hread) (by simp)

end ODataQuery.Store
