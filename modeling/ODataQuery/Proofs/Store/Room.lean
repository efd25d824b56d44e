import ODataQuery.Proofs.Store.Contexts
import ODataQuery.Proofs.Store.Reading

/-!
# Room for the paths of the store

Paths have to be short enough for the system, so not every home directory leaves room for the store
below it. The folder of the name in use has the longer path, and so there are home directories in
which a context can be stored but no name can be taken into use: `context_written_without_room` is
one of them.
-/

namespace ODataQuery.Store

open Volume ODataQuery.Action

variable {history : History} {home : String} {location : Location} {volume : Volume}

/-! ## Room

`HasRoom` is about the longest of the paths that are the same for every context. Where it holds, the
folders can be opened (`HasRoom.folder`), and where it does not hold, no name is in use
(`Stored.hasRoom`): writing one fails in every volume of the home directory. -/

/-- The path of the name in use is not too long for the system. -/
def HasRoom (home : String) : Prop :=
  (joinPath (folder home .current) currentFile).utf8ByteSize < maxPathSize

instance (home : String) : Decidable (HasRoom home) :=
  inferInstanceAs (Decidable ((joinPath (folder home .current) currentFile).utf8ByteSize < _))

/-- The paths of the folders are shorter than that of the name in use. -/
theorem HasRoom.folder (h : HasRoom home) (shelf : Shelf) :
    (folder home shelf).utf8ByteSize < maxPathSize := by
  have hfile := (utf8ByteSize_joinPath (Store.folder home .current) currentFile).1
  have hlonger := (utf8ByteSize_joinPath home
    (joinPath ".cache/rusty-odata/cache/v1" Shelf.current.name)).1
  have hshorter := (utf8ByteSize_joinPath home
    (joinPath ".cache/rusty-odata/cache/v1" shelf.name)).2
  -- The names of the two folders differ by less than the file below the longer one adds.
  have hnames : (joinPath ".cache/rusty-odata/cache/v1" shelf.name).utf8ByteSize + 1
      ≤ (joinPath ".cache/rusty-odata/cache/v1" Shelf.current.name).utf8ByteSize
        + currentFile.utf8ByteSize := by
    cases shelf <;> decide
  simp only [HasRoom, Store.folder] at *
  omega

/-- A name in use was found at the end of its path. -/
theorem Stored.hasRoom (h : Stored history home location volume) {name : String}
    (hcurrent : history.current? = some name) : HasRoom home :=
  utf8ByteSize_of_locate (h.current hcurrent).1

/-- Without room no name is taken into use, also if there is a context under it. -/
theorem triple_writeCurrentName_of_not_hasRoom (hroom : ¬ HasRoom home) {name : String}
    {context : Context} (hfind : history.find? name = some context) :
    Triple (Stored history home location) (writeCurrentName (some home) name)
      (fun _ _ => False) (fun _ => Stored history home location) :=
  (triple_writeCurrentName hfind).consequence (fun _ h => h)
    (fun _ _ h => hroom (h.hasRoom History.current?_select)) (fun _ _ h => h.1)

/-- A context with a short path is stored, whether there is room for its name or not. -/
theorem triple_writeContext_of_fits {context : Context} (hname : IsFileName context.name)
    (hsize : (joinPath (folder home .contexts) (contextFile context.name)).utf8ByteSize
      < maxPathSize) :
    Triple (Stored history home location) (writeContext (some home) context)
      (fun _ => Stored (history.create context) home location) (fun _ _ => False) :=
  (triple_writeContext context).consequence (fun _ h => h) (fun _ _ h => h)
    fun _ _ h => Nat.not_le.mpr hsize (h.2 hname)

/-- In an open folder the file of the name in use is found where the history has a name. Otherwise it
is missing, or its path is too long to look for it. -/
theorem Opened.look_current (h : Opened history home location .current volume) :
    volume.look (joinPath (folder home .current) currentFile) = match history.current? with
      | some name => .ok (.file (Json.text name).toText)
      | none => .error (if HasRoom home then .notFound else .nameTooLong) := by
  cases hcurrent : history.current? with
  | some name =>
    obtain ⟨hlocate, hentry, -⟩ := h.1.current hcurrent
    exact look_eq_ok_iff.mpr ⟨_, hlocate, hentry⟩
  | none =>
    by_cases hroom : HasRoom home
    · have hentry : volume.entry? (currentAt location) = none := by
        rw [Option.eq_none_iff_forall_ne_some]
        intro entry hentry
        obtain ⟨name, hname, -⟩ := h.1.eq_current_of_entry hentry
        exact absurd (hname.symm.trans hcurrent) (by simp)
      rw [look, h.locate_current hroom, if_pos hroom]
      simp only [bind, Except.bind, hentry]
    · rw [look, h.2.locate_joinPath, if_neg (by decide), if_pos (Nat.not_lt.mp hroom),
        if_neg hroom]
      rfl

/-- The name in use is read where the history has one. Otherwise reading fails because there is
nothing to read, or because there is no room for it. -/
theorem Stored.result_readCurrentName (h : Stored history home location volume) :
    (readCurrentName (some home)).result { volume } = match history.current? with
      | some name => .ok name
      | none => .error (.system (if HasRoom home then .notFound else .nameTooLong)) := by
  rw [readCurrentName, result_readEntry, lookIn]
  by_cases hfolder : (folder home .current).utf8ByteSize < maxPathSize
  · obtain ⟨opened, hmade, hopened⟩ := h.exists_makeDirectories hfolder
    have hlook := Opened.look_current hopened
    rw [hmade]
    show readFound readName (opened.look (joinPath (folder home .current) currentFile)) = _
    rw [hlook]
    cases history.current? with
    | some name =>
      rw [readFound, readName_toText]
      rfl
    | none => rfl
  · -- The folder alone has too long a path, so there was never room for a name.
    have hroom : ¬ HasRoom home := fun hroom => hfolder (hroom.folder .current)
    rw [h.makeDirectories_of_long (Nat.not_lt.mp hfolder)]
    cases hcurrent : history.current? with
    | some name => exact absurd (h.hasRoom hcurrent) hroom
    | none =>
      rw [if_neg hroom]
      rfl

/-! ## Empty home directories

A volume with an empty home directory holds the history in which nothing was done yet. -/

/-- The path leads to a directory with nothing in it. -/
structure EmptyHome (volume : Volume) (home : String) (location : Location) : Prop where
  locate : volume.locate home = .ok location
  directory : volume.entry? location = some .directory
  empty : ∀ other, location <+: other → other ≠ location → volume.entry? other = none

/-- An empty home directory holds the history in which nothing has happened. -/
theorem EmptyHome.stored (h : EmptyHome volume home location) :
    Stored {} home location volume where
  leads := LeadsTo.of_locate h.locate h.directory
  listsOnce := .of_forall_eq_none h.empty
  stands := by
    intro other entry hbelow hne hentry
    exact absurd ((h.empty other hbelow hne).symm.trans hentry) (by simp)
  context := fun hcontext => absurd hcontext (by simp [History.find?])
  current := fun hcurrent => absurd hcurrent (by simp [History.current?])

/-- A volume with one directory, which can be a home directory. -/
def homeVolume : Volume := { entries := [(["home"], .directory)] }

/-- The path of that directory, made longer by steps that lead nowhere else. -/
def longHome : Nat → String
  | 0 => "/home"
  | n + 1 => longHome n ++ "/."

/-- Each step adds two bytes to the path. -/
theorem utf8ByteSize_longHome (n : Nat) : (longHome n).utf8ByteSize = 5 + 2 * n := by
  induction n with
  | zero => decide
  | succ n ih =>
    have hstep : "/.".utf8ByteSize = 2 := by decide
    rw [longHome, String.utf8ByteSize_append, ih, hstep]
    omega

theorem longHome_succ (n : Nat) : longHome (n + 1) = joinPath (longHome n) "." := by
  have hend : ¬ (longHome n = "" ∨ (longHome n).toList.getLast? = some '/') := by
    cases n with
    | zero => decide
    | succ n =>
      have hlast : (longHome n ++ "/.").toList.getLast? = some '.' := by
        rw [String.toList_append, List.getLast?_append]
        rfl
      rintro (hempty | hslash)
      · rw [longHome] at hempty
        rw [hempty] at hlast
        exact absurd hlast (by decide)
      · exact absurd (hlast.symm.trans hslash) (by decide)
  rw [joinPath, if_neg hend, longHome, String.append_assoc]
  rfl

/-- All of these paths lead to the same directory, as long as they are not too long. -/
theorem leadsTo_longHome {n : Nat} (hsize : 5 + 2 * n < maxPathSize) :
    homeVolume.LeadsTo (longHome n) ["home"] := by
  induction n with
  | zero => exact LeadsTo.of_locate (by decide) (by decide)
  | succ n ih =>
    have hbefore := ih (by omega)
    rw [← utf8ByteSize_longHome, longHome_succ] at hsize
    rw [longHome_succ]
    exact hbefore.extend (by decide) hsize (by rfl)

/-- The directory is empty, however its path is written. -/
theorem emptyHome_longHome {n : Nat} (hsize : 5 + 2 * n < maxPathSize) :
    EmptyHome homeVolume (longHome n) ["home"] where
  locate := (leadsTo_longHome hsize).locate
  directory := by decide
  empty := by
    intro other hbelow hne
    rw [entry?_of_ne_nil (ne_nil_of_below hbelow hne), List.lookup_eq_none_iff]
    intro entry hentry
    rw [List.mem_singleton.mp hentry]
    simpa using hne

theorem emptyHome_home : EmptyHome homeVolume "/home" ["home"] :=
  emptyHome_longHome (n := 0) (by decide)

/-- A path that is long enough leaves no room. -/
theorem not_hasRoom_longHome {n : Nat} (hsize : maxPathSize ≤ 5 + 2 * n + 58) :
    ¬ HasRoom (longHome n) := by
  have hfile := (utf8ByteSize_joinPath (folder (longHome n) .current) currentFile).1
  have hfolder := (utf8ByteSize_joinPath (longHome n)
    (joinPath ".cache/rusty-odata/cache/v1" Shelf.current.name)).1
  have hnames : (joinPath ".cache/rusty-odata/cache/v1" Shelf.current.name).utf8ByteSize
      + currentFile.utf8ByteSize = 58 := by decide
  have hhome := utf8ByteSize_longHome n
  simp only [HasRoom, folder] at *
  omega

/-- The path of a context below a long home directory. -/
theorem utf8ByteSize_context_longHome (n : Nat) (name : String) :
    (joinPath (folder (longHome n) .contexts) (contextFile name)).utf8ByteSize
      ≤ 5 + 2 * n + 50 + name.utf8ByteSize := by
  have hfile := (utf8ByteSize_joinPath (folder (longHome n) .contexts) (contextFile name)).2
  have hfolder := (utf8ByteSize_joinPath (longHome n)
    (joinPath ".cache/rusty-odata/cache/v1" Shelf.contexts.name)).2
  have hnames : (joinPath ".cache/rusty-odata/cache/v1" Shelf.contexts.name).utf8ByteSize
      = 35 := by decide
  have hcontext : (contextFile name).utf8ByteSize = 13 + name.utf8ByteSize := by
    have hfront : "context_".utf8ByteSize = 8 := by decide
    have hback : ".json".utf8ByteSize = 5 := by decide
    rw [contextFile, String.utf8ByteSize_append, String.utf8ByteSize_append, hfront, hback]
    omega
  have hhome := utf8ByteSize_longHome n
  simp only [folder] at *
  omega

/-- Where a context fits and there is no room, the context is stored and its name is not. -/
theorem exists_written_without_room (hempty : EmptyHome volume home location)
    (hroom : ¬ HasRoom home) {context : Context} (hname : IsFileName context.name)
    (hsize : (joinPath (folder home .contexts) (contextFile context.name)).utf8ByteSize
      < maxPathSize) :
    (writeContext (some home) context).result { volume } = .ok () ∧
      ∃ failure, (writeCurrentName (some home) context.name).result
        ((writeContext (some home) context).after { volume }) = .error failure := by
  obtain ⟨_, hwritten, hstored⟩ :=
    (triple_writeContext_of_fits hname hsize).exists_ok { volume } hempty.stored
  obtain ⟨failure, hfailed, -⟩ :=
    (triple_writeCurrentName_of_not_hasRoom hroom History.find?_create_self).exists_error _ hstored
  exact ⟨hwritten, failure, hfailed⟩

/-- In a home directory whose path has 4041 bytes a context is stored, but its name is not: the path
of the name in use has more than 4095 bytes and that of the context has less. -/
theorem context_written_without_room :
    let home := longHome 2018
    let context : Context := { name := "a", base := "https://one.example" }
    EmptyHome homeVolume home ["home"] ∧ ¬ HasRoom home ∧
      (writeContext (some home) context).result { volume := homeVolume } = .ok () ∧
      ∃ failure, (writeCurrentName (some home) context.name).result
        ((writeContext (some home) context).after { volume := homeVolume }) = .error failure := by
  intro home context
  have hempty : EmptyHome homeVolume home ["home"] := emptyHome_longHome (by decide)
  have hroom : ¬ HasRoom home := not_hasRoom_longHome (by decide)
  have hname : IsFileName context.name := ⟨by decide, by decide, by decide⟩
  have hfits : 5 + 2 * 2018 + 50 + context.name.utf8ByteSize < maxPathSize := by decide
  have hsize := Nat.lt_of_le_of_lt (utf8ByteSize_context_longHome 2018 context.name) hfits
  exact ⟨hempty, hroom, exists_written_without_room hempty hroom hname hsize⟩

end ODataQuery.Store
