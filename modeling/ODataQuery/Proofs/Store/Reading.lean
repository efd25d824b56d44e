import ODataQuery.Proofs.Store.Shelves

/-!
# Reading the store

Reading prints nothing and, of the volume, does nothing but make directories (`reads_readCurrent?`).
What is read depends on what is found in the folder of a shelf (`result_readEntry`,
`result_readContexts`).
-/

namespace ODataQuery

open Volume

/-! ## Actions that only read

To open a folder may make it, so reading may change the volume. It does so by adding directories
only, and whatever was found before is still found after that. -/

namespace Action

variable {α β : Type}

/-- The action prints nothing, and all it does to the volume is to make directories. -/
def Reads (x : Action α) : Prop :=
  ∀ world, (x.after world).output = world.output ∧
    Adds (fun _ => True) world.volume (x.after world).volume

namespace Reads

/-- An action that changes neither output nor volume only reads. -/
theorem of_after {x : Action α} (houtput : ∀ world, (x.after world).output = world.output)
    (hvolume : ∀ world, (x.after world).volume = world.volume) : Reads x := by
  intro world
  refine ⟨houtput world, ?_⟩
  rw [hvolume]
  exact .refl _

theorem pure (a : α) : Reads (Pure.pure a : Action α) := of_after (fun _ => rfl) fun _ => rfl

theorem throw (failure : Failure) : Reads (MonadExcept.throw failure : Action α) :=
  of_after (fun _ => rfl) fun _ => rfl

theorem tell (entry : LogEntry) : Reads (Action.tell entry) :=
  of_after (fun _ => rfl) fun _ => rfl

/-- A sequence of actions that only read only reads. -/
theorem bind {x : Action α} {f : α → Action β} (hx : Reads x) (hf : ∀ a, Reads (f a)) :
    Reads (x >>= f) := by
  intro world
  obtain ⟨houtput, hadds⟩ := hx world
  cases h : x.result world with
  | ok a =>
    obtain ⟨houtput', hadds'⟩ := hf a (x.after world)
    rw [after_bind h]
    exact ⟨houtput'.trans houtput, hadds.trans hadds'⟩
  | error failure =>
    rw [after_bind_error h]
    exact ⟨houtput, hadds⟩

/-- Handling a failure only reads if both actions do. -/
theorem tryCatch {x : Action α} {handle : Failure → Action α} (hx : Reads x)
    (hhandle : ∀ failure, Reads (handle failure)) : Reads (MonadExcept.tryCatch x handle) := by
  intro world
  obtain ⟨houtput, hadds⟩ := hx world
  cases h : x.result world with
  | ok a =>
    rw [after_tryCatch h]
    exact ⟨houtput, hadds⟩
  | error failure =>
    obtain ⟨houtput', hadds'⟩ := hhandle failure (x.after world)
    rw [after_tryCatch_error h]
    exact ⟨houtput'.trans houtput, hadds.trans hadds'⟩

theorem ofVolume (f : Volume → Except SystemError α) : Reads (Action.ofVolume f) :=
  of_after (fun world => by rw [after_ofVolume]) fun world => by rw [after_ofVolume]

/-- To make directories counts as reading. -/
theorem makeDirectories (path : String) : Reads (Action.change (·.makeDirectories path)) := by
  intro world
  cases h : world.volume.makeDirectories path with
  | ok made =>
    rw [after_change h]
    exact ⟨rfl, (leadsTo_of_makeDirectories h).1⟩
  | error e =>
    have hasked : (Action.ofVolume (·.makeDirectories path)).result world = .error (.system e) := by
      rw [result_ofVolume, h]
      rfl
    rw [Action.change, after_bind_error hasked]
    exact ofVolume _ world

theorem readFile (path : String) : Reads (Action.readFile path) := by
  refine bind (ofVolume _) fun entry => ?_
  cases entry with
  | file text => exact pure text
  | directory => exact throw _

theorem ofDocument (r : Except Json.Fault α) : Reads (Action.ofDocument r) := by
  cases r with
  | ok a => exact pure a
  | error fault => exact throw _

end Reads

end Action

namespace Store

open ODataQuery.Action

variable {home : String} {shelf : Shelf} {file : String} {world : World}

/-- Opening a folder only reads. -/
theorem reads_openFolder (home : Option String) (shelf : Shelf) :
    Reads (openFolder home shelf) := by
  cases home with
  | none => exact Reads.throw _
  | some home => exact (Reads.makeDirectories _).bind fun _ => Reads.pure _

/-- Reading a file of a shelf only reads. -/
theorem reads_readEntry {α : Type} (home : Option String) (shelf : Shelf) (file : String)
    (read : Json.Reader α) : Reads (readEntry home shelf file read) := by
  refine (reads_openFolder home shelf).bind fun path => ?_
  refine (Reads.tell _).bind fun _ => ?_
  exact (Reads.readFile _).bind fun text => Reads.ofDocument _

/-- Reading the context in use only reads, also if there is none. -/
theorem reads_readCurrent? (home : Option String) : Reads (readCurrent? home) := by
  have hcurrent : Reads (readCurrent home) :=
    (reads_readEntry home .current currentFile readName).bind fun name =>
      reads_readEntry home .contexts (contextFile name) Context.read
  refine Reads.bind (Reads.tryCatch (hcurrent.bind fun context => Reads.pure _) fun failure => ?_)
    fun outcome => ?_
  · split
    · exact Reads.pure _
    · exact Reads.throw _
  · cases outcome with
    | ok context => exact Reads.pure _
    | error early => exact Reads.pure _

/-! ## Results

What reading results in, as a function of what is found in the folder. Two worlds in which the same
is found therefore give the same. -/

/-- What is read from what is found under the name of a file. -/
def readFound {α : Type} (read : Json.Reader α) : Except SystemError Entry → Except Failure α
  | .ok (.file text) => (read.ofText text).mapError Failure.document
  | .ok .directory => .error (.unreadable .isDirectory)
  | .error e => .error (.system e)

/-- The contexts that are read from the files of a folder. -/
def readListed : Except SystemError (List (String × String)) → Except Failure (List Context)
  | .ok files =>
    (files.mapM fun file => Context.read.ofText file.2).mapError Failure.document
  | .error e => .error (.system e)

/-- A folder that can be made is opened. -/
theorem result_openFolder {opened : Volume}
    (h : world.volume.makeDirectories (folder home shelf) = .ok opened) :
    (openFolder (some home) shelf).result world = .ok (folder home shelf) ∧
      (openFolder (some home) shelf).after world = { world with volume := opened } := by
  have hchange : (Action.change (·.makeDirectories (folder home shelf))).result world = .ok () := by
    rw [result_change, h]
    rfl
  constructor
  · exact result_bind hchange
  · rw [openFolder, after_bind hchange, after_change h]
    rfl

/-- A folder that cannot be made is not opened. -/
theorem result_openFolder_error {e : SystemError}
    (h : world.volume.makeDirectories (folder home shelf) = .error e) :
    (openFolder (some home) shelf).result world = .error (.system e) := by
  have hchange : (Action.change (·.makeDirectories (folder home shelf))).result world
      = .error (.system e) := by
    rw [result_change, h]
    rfl
  exact result_bind_error hchange

/-- A document is read from what is found. -/
theorem result_readDocument {α : Type} (read : Json.Reader α) (path : String) (world : World) :
    (Action.readFile path >>= fun text => Action.ofDocument (read.ofText text)).result world
      = readFound read (world.volume.look path) := by
  have hlook := result_ofVolume (·.look path) world
  cases hfound : world.volume.look path with
  | error e =>
    rw [hfound] at hlook
    exact result_bind_error (result_bind_error hlook)
  | ok entry =>
    rw [hfound] at hlook
    cases entry with
    | directory => exact result_bind_error (result_bind hlook)
    | file text =>
      have hread : (Action.readFile path).result world = .ok text := result_bind hlook
      rw [result_bind hread, readFound]
      cases read.ofText text <;> rfl

/-- Contexts are read from the files that are found. -/
theorem result_readListing (path : String) (world : World) :
    (Action.ofVolume (·.list path) >>= fun files =>
      Action.ofDocument (files.mapM fun file => Context.read.ofText file.2)).result world
      = readListed (world.volume.list path) := by
  have hlist := result_ofVolume (·.list path) world
  cases hfound : world.volume.list path with
  | error e =>
    rw [hfound] at hlist
    exact result_bind_error hlist
  | ok files =>
    rw [hfound] at hlist
    rw [result_bind hlist, readListed]
    cases files.mapM fun file => Context.read.ofText file.2 with
    | ok contexts => rfl
    | error fault => rfl

theorem result_tell (entry : LogEntry) (world : World) :
    (Action.tell entry).result world = .ok () := rfl

/-- Reading a file of a shelf depends on what is found there and on nothing else. -/
theorem result_readEntry {α : Type} (read : Json.Reader α) :
    (readEntry (some home) shelf file read).result world
      = readFound read (lookIn world.volume (folder home shelf) file) := by
  rw [readEntry]
  cases hmade : world.volume.makeDirectories (folder home shelf) with
  | error e =>
    rw [result_bind_error (result_openFolder_error hmade), lookIn, hmade]
    rfl
  | ok opened =>
    obtain ⟨hpath, hopened⟩ := result_openFolder hmade
    rw [result_bind hpath, hopened, result_bind (result_tell _ _), lookIn, hmade]
    exact result_readDocument read (joinPath (folder home shelf) file) _

/-- All contexts are read from the files of their folder. -/
theorem result_readContexts :
    (readContexts (some home)).result world
      = readListed (listIn world.volume (folder home .contexts)) := by
  rw [readContexts]
  cases hmade : world.volume.makeDirectories (folder home .contexts) with
  | error e =>
    rw [result_bind_error (result_openFolder_error hmade), listIn, hmade]
    rfl
  | ok opened =>
    obtain ⟨hpath, hopened⟩ := result_openFolder hmade
    rw [result_bind hpath, hopened, listIn, hmade]
    exact result_readListing (folder home .contexts) _

/-- What is tried for the context in use: a failure that says that something is missing stands for
no context. -/
theorem result_readCurrent? (home : Option String) (world : World) :
    (readCurrent? home).result world = match (readCurrent home).result world with
      | .ok context => .ok (some context)
      | .error failure => if isMissing failure then .ok none else .error failure := by
  -- A context that is read is returned early, and so is that there is none.
  let attempt : Action (Except (Option Context) (Option Context)) := do
    return .error (some (← readCurrent home))
  let handle : Failure → Action (Except (Option Context) (Option Context)) := fun failure =>
    if isMissing failure then return .error none else throw failure
  cases h : (readCurrent home).result world with
  | ok context =>
    have htried : attempt.result world = .ok (.error (some context)) := result_bind h
    exact result_bind (result_tryCatch htried)
  | error failure =>
    have hfailed : attempt.result world = .error failure := result_bind_error h
    have hcaught : (tryCatch attempt handle).result world
        = (handle failure).result (attempt.after world) := result_tryCatch_error hfailed
    by_cases hmissing : isMissing failure
    · have hnone : (handle failure).result (attempt.after world) = .ok (.error none) := by
        simp only [handle, if_pos hmissing]
        rfl
      exact (result_bind (hcaught.trans hnone)).trans (if_pos hmissing).symm
    · have hkept : (handle failure).result (attempt.after world) = .error failure := by
        simp only [handle, if_neg hmissing]
        rfl
      exact (result_bind_error (hcaught.trans hkept)).trans (if_neg hmissing).symm

/-- The context of the name in use is the one in use. -/
theorem result_readCurrent?_eq_some {home : Option String} {name : String} {context : Context}
    (hname : (readCurrentName home).result world = .ok name)
    (hcontext : (readContext home name).result ((readCurrentName home).after world)
      = .ok context) :
    (readCurrent? home).result world = .ok (some context) := by
  have hcurrent : (readCurrent home).result world = .ok context :=
    (result_bind hname).trans hcontext
  rw [result_readCurrent?, hcurrent]

end Store

end ODataQuery
