import ODataQuery.Proofs.Command.Sessions

/-!
# Failed calls

A call that fails leaves every file as it was, and so does a call of a command that stores nothing:
only folders may be new. Creating a context and taking it into use stores two files, so for this
command the volume has to be one that calls lead to, and there has to be room for the second file:
then the context can always be taken into use once it is written (`failed_call_keeps_files`).
Without room the file of the context is left behind, and nothing else changes
(`failed_call_leaves_file_without_room`).
-/

namespace ODataQuery

open Store Volume ODataQuery.Action Command

-- Otherwise the unifier computes whether a service root has a scheme.
attribute [local irreducible] hasScheme

/-! ## The same files

Nothing but files counts here, and only where they stand. So making directories changes nothing, and
a write changes one place. -/

namespace Volume

/-- Both volumes hold the same files with the same texts. -/
def SameFiles (volume volume' : Volume) : Prop :=
  ∀ location text, volume'.entry? location = some (.file text)
    ↔ volume.entry? location = some (.file text)

namespace SameFiles

variable {volume volume' volume'' : Volume}

theorem refl (volume : Volume) : SameFiles volume volume := fun _ _ => Iff.rfl

theorem trans (h : SameFiles volume volume') (h' : SameFiles volume' volume'') :
    SameFiles volume volume'' := fun location text => (h' location text).trans (h location text)

/-- Making directories changes no file. -/
theorem of_adds {made : Location → Prop} (h : Adds made volume volume') :
    SameFiles volume volume' := by
  intro location text
  constructor
  · exact h.entry?_of_file
  · exact h.entry?_of_some

end SameFiles

/-- The second volume holds the text at the place, and elsewhere the same files as the first one. -/
structure WrittenAt (place : Location) (text : String) (volume volume' : Volume) : Prop where
  there : volume'.entry? place = some (.file text)
  others : ∀ location text', location ≠ place →
    (volume'.entry? location = some (.file text') ↔ volume.entry? location = some (.file text'))

/-- A volume with the same files has the file, too. -/
theorem WrittenAt.trans_sameFiles {place : Location} {text : String}
    {volume volume' volume'' : Volume} (h : WrittenAt place text volume volume')
    (h' : SameFiles volume' volume'') : WrittenAt place text volume volume'' where
  there := (h' place text).mpr h.there
  others := fun location text' hne => (h' location text').trans (h.others location text' hne)

/-- A file that is put where no directory is changes that place only. -/
theorem SameFiles.writtenAt_insert {place : Location} {text : String} {volume volume' : Volume}
    (h : SameFiles volume volume') (hfree : volume'.entry? place ≠ some .directory) :
    WrittenAt place text volume (volume'.insert place (.file text)) where
  there := entry?_insert_self (ne_nil_of_entry?_ne hfree)
  others := by
    intro location text' hne
    rw [entry?_insert_of_ne hne]
    exact h location text'

end Volume

variable {start : Volume} {home : String} {location : Location}

/-- Whatever only reads keeps all files. -/
theorem Action.Reads.keeps_files {α : Type} {x : Action α} (hx : Reads x) :
    Keeps (SameFiles start) x := by
  intro world hworld
  obtain ⟨-, hadds⟩ := hx world
  have hafter : SameFiles start (x.after world).volume := hworld.trans (.of_adds hadds)
  rw [after] at hafter
  cases hrun : x.run world with
  | ok a last => rwa [hrun] at hafter
  | error failure last => rwa [hrun] at hafter

/-! ## Commands that store one file

Writing a file is the last thing in an action that can fail, so where it fails nothing is written
yet. This needs nothing of the volume. -/

namespace Store

/-- One file is written, or all files are kept. -/
theorem triple_writeEntry (home : String) (shelf : Shelf) (file text : String) :
    Triple (SameFiles start) (writeEntry (some home) shelf file text)
      (fun _ volume => ∃ place, volume.locate (joinPath (folder home shelf) file) = .ok place ∧
        WrittenAt place text start volume)
      (fun _ => SameFiles start) := by
  have hopen : Triple (SameFiles start) (openFolder (some home) shelf)
      (fun path volume => path = folder home shelf ∧ SameFiles start volume)
      (fun _ => SameFiles start) :=
    Triple.bind (Reads.makeDirectories _).keeps_files fun _ _ h => ⟨rfl, h⟩
  refine Triple.bind hopen fun path => ?_
  refine Triple.bind (Triple.modify fun _ => rfl) fun _ => ?_
  refine (Triple.change _).consequence (fun _ h => h) ?_ fun _ _ h => h.1.2
  rintro - after ⟨volume, ⟨rfl, hfiles⟩, hwrite⟩
  obtain ⟨place, hlocate, hfree, rfl⟩ := write_eq_ok_iff.mp hwrite
  refine ⟨place, ?_, hfiles.writtenAt_insert hfree⟩
  exact (Grows.insert fun hdirectory => absurd hdirectory hfree).locate hlocate

/-- If a file cannot be written, no file changes. -/
theorem writeEntry_keeps_files (home : Option String) (shelf : Shelf) (file text : String) :
    Triple (SameFiles start) (writeEntry home shelf file text) (fun _ _ => True)
      (fun _ => SameFiles start) := by
  cases home with
  | none => exact fun _ h => h
  | some home =>
    exact (triple_writeEntry home shelf file text).consequence (fun _ h => h)
      (fun _ _ _ => trivial) (fun _ _ h => h)

end Store

namespace Command

/-- Nothing that follows the writing of a file can fail. -/
theorem triple_printAll (lines : List String) :
    Triple (fun _ => True) (Action.printAll lines) (fun _ _ => True) (fun _ => SameFiles start) :=
  Triple.modify fun _ => rfl

/-- If a context cannot be taken into use, no file changes. -/
theorem useContext_keeps_files (home : Option String) (name : String) :
    Triple (SameFiles start) (runUseContext home name) (fun _ _ => True)
      (fun _ => SameFiles start) := by
  have hread : Keeps (SameFiles start) (readContext home name) :=
    (reads_readEntry home .contexts (contextFile name) Context.read).keeps_files
  refine Triple.bind hread fun context => ?_
  exact Triple.bind (writeEntry_keeps_files _ _ _ _) fun _ => triple_printAll _

/-- If a context that is not to be used cannot be created, no file changes. -/
theorem createContext_keeps_files (home : Option String) {params : ContextParams}
    (huse : params.use = false) :
    Triple (SameFiles start) (runCreateContext home params) (fun _ _ => True)
      (fun _ => SameFiles start) := by
  unfold runCreateContext
  dsimp only
  split
  · exact fun _ h => h
  · refine Triple.bind (writeEntry_keeps_files _ _ _ _) fun _ => ?_
    refine Triple.bind (triple_printAll _) fun _ => ?_
    rw [huse, if_neg Bool.false_ne_true]
    exact triple_printAll _

/-- Whether a command stores two files: a context, and that it is in use. -/
def storesBoth : Command → Bool
  | .createContext params => params.use
  | _ => false

/-- A command that stores nothing changes no file. -/
theorem query_keeps_files {around : Surroundings} {command : Command}
    (hquery : command.isQuery = true) : Keeps (SameFiles start) (command.run around) :=
  keeps_run (fun shelf => (reads_openFolder around.home shelf).keeps_files) hquery

/-- A command that stores one file, or none, keeps all files where it fails. -/
theorem failure_keeps_files (around : Surroundings) {command : Command}
    (hone : command.storesBoth = false) :
    Triple (SameFiles start) (command.run around) (fun _ _ => True) (fun _ => SameFiles start) := by
  cases hquery : command.isQuery with
  | true =>
    exact (query_keeps_files hquery).consequence (fun _ h => h) (fun _ _ _ => trivial)
      (fun _ _ h => h)
  | false =>
    -- Both commands that store something write a single file here.
    cases command with
    | createContext params => exact createContext_keeps_files around.home hone
    | useContext name =>
      cases name with
      | some name => exact useContext_keeps_files around.home name
      | none =>
        have hopen : Keeps (SameFiles start) (openFolder around.home .contexts) :=
          (reads_openFolder around.home .contexts).keeps_files
        exact Triple.bind (triple_chooseContext hopen) fun _ _ h => h.elim
    | _ => exact Bool.noConfusion hquery

end Command

/-! ## Commands that store two files

Where creating a context fails, the volume is that of the start or that with the context. In both
the same name is in use, as what was taken into use is part of the history. -/

section Stored

variable {history : History} {volume : Volume} {around : Surroundings} {args : List String}

/-- What a failed call leaves of a volume: all files, or all but that of a context which could not
be taken into use. -/
def Leaves (home : String) (location : Location) (args : List String) (volume after : Volume) :
    Prop :=
  SameFiles volume after ∨ (¬ HasRoom home ∧ ∃ params,
    ofArguments args = .ok (.createContext params) ∧ params.use = true ∧
      WrittenAt (contextAt location params.context.name) params.context.toText volume after)

/-- Taking a context into use writes no file where it fails, so the file that was written before is
still the only new one. -/
theorem Command.useContext_keeps_written {place : Location} {text : String} (home : Option String)
    (name : String) :
    Triple (WrittenAt place text start) (runUseContext home name) (fun _ _ => True)
      (fun _ => WrittenAt place text start) := by
  intro world hworld
  have hkept : Triple (SameFiles world.volume) (runUseContext home name) (fun _ _ => True)
      (fun _ => SameFiles world.volume) := useContext_keeps_files home name
  have hlast := hkept world (.refl _)
  cases hrun : (runUseContext home name).run world with
  | ok done last => trivial
  | error failure last =>
    rw [hrun] at hlast
    exact hworld.trans_sameFiles hlast

/-- Writing a context continues the history, and its file is the only one that changes. -/
theorem Store.triple_writeContext_written (volume : Volume) (context : Context) :
    Triple (fun after => Stored history home location after ∧ SameFiles volume after)
      (writeContext (some home) context)
      (fun _ after => Stored (history.create context) home location after ∧
        WrittenAt (contextAt location context.name) context.toText volume after)
      (fun _ after => Stored history home location after ∧ SameFiles volume after) := by
  refine ((triple_writeContext context).and (triple_writeEntry home _ _ _)).consequence
    (fun _ h => h) ?_ (fun _ _ h => ⟨h.1.1, h.2⟩)
  rintro - after ⟨hcreated, other, hlocate, hwritten⟩
  -- The path of the file leads to the place of the context.
  obtain ⟨hplace, -⟩ := hcreated.context History.find?_create_self
  obtain rfl := Except.ok.inj (hlocate.symm.trans hplace)
  exact ⟨hcreated, hwritten⟩

/-- A context that was just created can be taken into use, unless there is no room for its name. -/
theorem Command.triple_useContext_created {place : Location} {text : String} (volume : Volume)
    (context : Context) :
    Triple (fun after => Stored (history.create context) home location after ∧
        WrittenAt place text volume after)
      (runUseContext (some home) context.name)
      (fun _ => Stored ((history.create context).select context.name) home location)
      (fun _ after => Stored (history.create context) home location after ∧
        ¬ HasRoom home ∧ WrittenAt place text volume after) := by
  refine ((triple_runUseContext context.name).and
    (useContext_keeps_written (some home) context.name)).consequence
    (fun _ h => h) (fun _ _ h => h.1) ?_
  rintro - after ⟨⟨hcreated, hnone | hroom⟩, hwritten⟩
  · exact absurd (History.find?_create_self.symm.trans hnone) (by simp)
  · exact ⟨hcreated, hroom, hwritten⟩

/-- What creating a context leaves behind, if it succeeds and if it fails. -/
theorem Command.call_createContext_leaves {params : ContextParams}
    (h : Stored history home location volume) (hhome : around.home = some home)
    (hargs : ofArguments args = .ok (.createContext params)) :
    let done := call around volume args
    (done.1.status = 0 → Stored (history.after (.createContext params)) home location done.2) ∧
      (done.1.status ≠ 0 → Leaves home location args volume done.2 ∧
        ∃ history', history'.current? = history.current? ∧
          Stored history' home location done.2) := by
  obtain ⟨hdone, hfailed⟩ := call_createContext (fun _ _ h => h)
    (fun _ => triple_writeContext_written volume params.context)
    (triple_useContext_created volume params.context) hhome hargs ⟨h, .refl volume⟩
  refine ⟨fun hstatus => ?_, fun hstatus => ?_⟩
  · have hafter := (hdone hstatus).2
    rw [History.after_createContext]
    split
    · next huses =>
      rwa [if_pos huses] at hafter
    · next huses =>
      rw [if_neg huses] at hafter
      exact hafter.1
  · rcases hfailed hstatus with ⟨-, hstored, hfiles⟩ | ⟨-, huses, hstored, hroom, hwritten⟩
    · exact ⟨.inl hfiles, history, rfl, hstored⟩
    · exact ⟨.inr ⟨hroom, params, hargs, huses, hwritten⟩, history.create params.context, rfl,
        hstored⟩

/-- On a volume that holds a history, a call that fails leaves all files but for the want of room,
and the name in use. -/
theorem Command.call_leaves {command : Command} (h : Stored history home location volume)
    (hhome : around.home = some home) (hargs : ofArguments args = .ok command)
    (hstatus : (call around volume args).1.status ≠ 0) :
    Leaves home location args volume (call around volume args).2 ∧
      ∃ history', history'.current? = history.current? ∧
        Stored history' home location (call around volume args).2 := by
  -- Only creating a context writes anything before it can fail.
  by_cases hcreates : command.creates = []
  · have hboth : command.storesBoth = false := by
      cases command with
      | createContext params => exact absurd hcreates (List.cons_ne_nil _ _)
      | _ => rfl
    have hrun : Triple (fun after => Stored history home location after ∧ SameFiles volume after)
        (command.run around) (fun _ _ => True)
        (fun _ after => Stored history home location after ∧ SameFiles volume after) :=
      ((triple_run hhome hcreates).and (failure_keeps_files around hboth)).consequence
        (fun _ h => h) (fun _ _ _ => trivial) (fun _ _ h => h)
    obtain ⟨hstored, hfiles⟩ := (call_of_triple hargs hrun ⟨h, .refl volume⟩).2 hstatus
    exact ⟨.inl hfiles, history, rfl, hstored⟩
  · obtain ⟨params, rfl⟩ : ∃ params, command = .createContext params := by
      cases command with
      | createContext params => exact ⟨params, rfl⟩
      | _ => exact absurd rfl hcreates
    exact (call_createContext_leaves h hhome hargs).2 hstatus

/-- The context in use is the last one of the name in use. -/
theorem Store.Stored.result_readCurrent (h : Stored history home location volume) {name : String}
    {context : Context} (hcurrent : history.current? = some name)
    (hfind : history.find? name = some context) :
    (readCurrent (some home)).result { volume } = .ok context := by
  have hread := triple_readCurrent { volume } h
  rw [result]
  cases hrun : (readCurrent (some home)).run { volume } with
  | ok found after =>
    rw [hrun] at hread
    obtain ⟨-, name', hcurrent', hfind'⟩ := hread
    obtain rfl := Option.some.inj (hcurrent.symm.trans hcurrent')
    rw [Option.some.inj (hfind.symm.trans hfind')]
  | error failure after =>
    rw [hrun] at hread
    exact absurd (hcurrent.symm.trans hread.2) (by simp)

end Stored

/-! ## Calls

A call fails before the first write, or between the two writes of creating a context and taking it
into use. -/

/-- A call of a command that stores nothing leaves all files as they were, however it ends. So does
every call that fails, unless it creates a context to take it into use. After calls that start from
an empty home directory, the next call leaves the name in use as it was if it fails, whatever its
arguments are, and all files, unless it created a context that it could not take into use because
there is no room: then the file of this context is the only one that changes. If the call succeeds,
the context that it was to create and take into use is in use. -/
theorem failed_call_keeps_files :
    (∀ around volume args command, ofArguments args = .ok command → command.isQuery = true →
      SameFiles volume (call around volume args).2) ∧
    (∀ around volume args, (call around volume args).1.status ≠ 0 →
      (∀ command, ofArguments args = .ok command → command.storesBoth = false) →
      SameFiles volume (call around volume args).2) ∧
    ∀ home location volume, EmptyHome volume home location → ∀ (calls : List Call) (next : Call),
      let before := (Session.run { volume } home calls).volume
      let around : Surroundings := { home := some home, input := next.input, color := next.color }
      let done := call around before next.args
      (done.1.status ≠ 0 →
        (readCurrentName (some home)).result { volume := done.2 }
          = (readCurrentName (some home)).result { volume := before } ∧
        (SameFiles before done.2 ∨ (¬ HasRoom home ∧ ∃ params,
          ofArguments next.args = .ok (.createContext params) ∧ params.use = true ∧
            WrittenAt (contextAt location params.context.name) params.context.toText before
              done.2))) ∧
      ∀ params, ofArguments next.args = .ok (.createContext params) → params.use = true →
        done.1.status = 0 →
          (readCurrent (some home)).result { volume := done.2 } = .ok params.context := by
  refine ⟨?_, ?_, ?_⟩
  · intro around volume args command hargs hquery
    obtain ⟨hdone, hfailed⟩ := call_of_triple hargs (query_keeps_files hquery) (.refl volume)
    by_cases hstatus : (call around volume args).1.status = 0
    · exact hdone hstatus
    · exact hfailed hstatus
  · intro around volume args hstatus hone
    cases hargs : ofArguments args with
    | error stop =>
      rw [call_of_error hargs]
      exact .refl volume
    | ok command =>
      have hrun : Triple (SameFiles volume) (command.run around) (fun _ _ => True)
          (fun _ => SameFiles volume) := failure_keeps_files around (hone command hargs)
      exact (call_of_triple hargs hrun (.refl volume)).2 hstatus
  · intro home location volume hempty calls next before around done
    have hstored : Stored _ home location before :=
      ((Session.sound_start hempty).run calls).held.stored
    have hhome : around.home = some home := rfl
    refine ⟨fun hstatus => ?_, fun params hargs huse hstatus => ?_⟩
    · cases hargs : ofArguments next.args with
      | error stop =>
        have hsame : done.2 = before := call_of_error hargs
        rw [hsame]
        exact ⟨rfl, .inl (.refl before)⟩
      | ok command =>
        -- Both readings are read off the history, and the name in use is the same in both
        -- histories.
        obtain ⟨hleaves, history, hcurrent, hafter⟩ := call_leaves hstored hhome hargs hstatus
        rw [hafter.result_readCurrentName, hstored.result_readCurrentName, hcurrent, ← hargs]
        exact ⟨rfl, hleaves⟩
    · have hafter := (call_createContext_leaves hstored hhome hargs).1 hstatus
      rw [History.after_createContext, if_pos huse] at hafter
      exact hafter.result_readCurrent History.current?_select History.find?_create_self

/-- There is one context. A name without a context is not taken into use, and a name that leads out
of the folder is refused. -/
theorem failed_call_keeps_files_outside :
    let calls : List Call :=
      [{ args := ["create-context", "a", "--url", "https://one.example"] }]
    let next : Call := { args := ["create-context", "a/../b", "--url", "https://b.example", "--use"] }
    let around : Surroundings :=
      { home := some "/home", input := next.input, color := next.color }
    let before := (Session.run { volume := homeVolume } "/home" calls).volume
    SameFiles before (call around before ["list-contexts"]).2 ∧
      SameFiles before (call around before ["use-context", "b"]).2 ∧
      (call around before next.args).1.status = 1 ∧
      SameFiles before (call around before next.args).2 := by
  intro calls next around before
  have hquery : ofArguments ["list-contexts"] = .ok .listContexts := by decide +kernel
  have huse : ofArguments ["use-context", "b"] = .ok (.useContext (some "b")) := by decide +kernel
  have hunknown : (call around before ["use-context", "b"]).1.status = 1 := by decide +kernel
  have houtside : (call around before next.args).1.status = 1 := by decide +kernel
  obtain ⟨hqueries, hsingle, hsession⟩ := failed_call_keeps_files
  -- The home directory has room, so the exception does not apply.
  have hnext := (hsession "/home" ["home"] _ emptyHome_home calls next).1
  refine ⟨hqueries around before _ _ hquery rfl, hsingle around before _ ?_ ?_, houtside, ?_⟩
  · rw [hunknown]
    decide
  · intro command hcommand
    obtain rfl := Except.ok.inj (huse.symm.trans hcommand)
    rfl
  · have hfails : (call around before next.args).1.status ≠ 0 := by
      rw [houtside]
      decide
    exact (hnext hfails).2.resolve_right fun hwithout => hwithout.1 (by decide)

/-- There is one context, but no room for the name in use. Creating another context and taking it
into use fails, and its file is new. -/
theorem failed_call_leaves_file_without_room :
    let home := longHome 2018
    let calls : List Call :=
      [{ args := ["create-context", "a", "--url", "https://one.example"] }]
    let next : Call := { args := ["create-context", "b", "--url", "https://b.example", "--use"] }
    let around : Surroundings := { home := some home, input := next.input, color := next.color }
    let before := (Session.run { volume := homeVolume } home calls).volume
    EmptyHome homeVolume home ["home"] ∧ (call around before next.args).1.status ≠ 0 ∧
      ¬ SameFiles before (call around before next.args).2 := by
  intro home calls next around before
  let older : ContextParams := { name := "a", url := "https://one.example" }
  let params : ContextParams := { name := "b", url := "https://b.example", use := true }
  have hempty : EmptyHome homeVolume home ["home"] := emptyHome_longHome (by decide)
  have hroom : ¬ HasRoom home := not_hasRoom_longHome (by decide)
  let first : List String := ["create-context", "a", "--url", "https://one.example"]
  have holder : ofArguments first = .ok (.createContext older) := by decide +kernel
  have hargs : ofArguments next.args = .ok (.createContext params) := by decide +kernel
  have hhome : around.home = some home := rfl
  have hfits : 5 + 2 * 2018 + 50 + params.context.name.utf8ByteSize < maxPathSize := by decide
  have hpath := Nat.lt_of_le_of_lt (utf8ByteSize_context_longHome 2018 params.context.name) hfits
  let session := Session.run { volume := homeVolume } home calls
  have hstored : Stored session.stored home ["home"] before :=
    ((Session.sound_start hempty).run calls).held.stored
  -- Whether it succeeded or not, the first call wrote no context but its own.
  have hnames : ∀ context ∈ session.stored.created, context.name = "a" := by
    have hwritten : session.stored.created = [] ++ Command.writtenBy (.createContext older)
        (call { home := some home } homeVolume first).1 := by
      show [] ++ ODataQuery.writtenBy first _ = _
      rw [ODataQuery.writtenBy, holder]
    rw [hwritten, Command.writtenBy]
    split
    · exact fun _ hcontext => absurd hcontext List.not_mem_nil
    · intro context hcontext
      rw [List.mem_singleton.mp hcontext]
      rfl
  obtain ⟨hstatus, -, hcreated⟩ := call_createContext_without_room hstored hroom hhome hargs rfl
    (by decide +kernel) ⟨by decide, by decide, by decide⟩ hpath
  refine ⟨hempty, hstatus, fun hsame => ?_⟩
  obtain ⟨-, hafter⟩ := hcreated.context History.find?_create_self
  have hbefore := (hsame _ _).mp hafter
  obtain ⟨context, hfind, hfile, -⟩ := hstored.eq_context_of_entry hbefore
  have hname := hnames context (History.mem_of_find? hfind)
  rw [← contextFile_injective hfile] at hname
  exact absurd hname (by decide)

end ODataQuery
