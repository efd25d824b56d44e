import ODataQuery.Proofs.Command.Runs

/-!
# Sessions

Calls of the command line, one after another, in a home directory that is empty at first. A session
counts what its calls did, and the volume holds what they wrote, however they end (`Sound.run`).
`Session.run_consistent` says what that means for the files of the store and for what is read from
them. Where there is room for the name in use, a context is written if and only if the call that
creates it succeeds; `Session.run_inconsistent_without_room` is a session without room.
-/

namespace ODataQuery

open Store Volume Command

-- Otherwise the unifier computes whether a service root has a scheme.
attribute [local irreducible] hasScheme

/-! ## Sessions

A session records two histories. One counts what the calls report, by their status; the other one is
what the store holds, by what they print. They differ after a call that creates a context and fails
to take it into use. -/

/-- A call of the command line. -/
structure Call where
  args : List String
  /-- The text on standard input. -/
  input : String := ""
  color : Bool := false

/-- What the calls so far did, and the volume that they left. -/
structure Session where
  /-- What the calls that succeeded created and took into use. -/
  history : History := {}
  /-- The contexts that calls wrote, whether the calls succeeded or failed after that. -/
  written : List Context := []
  volume : Volume

/-- The history after a call. One that fails, and one that is no command, changes nothing. -/
def Store.History.record (history : History) (args : List String) (outcome : Outcome) : History :=
  match ofArguments args with
  | .ok command => if outcome.status = 0 then history.after command else history
  | .error _ => history

/-- The contexts that a call wrote, if it is a command. -/
def writtenBy (args : List String) (outcome : Outcome) : List Context :=
  match ofArguments args with
  | .ok command => command.writtenBy outcome
  | .error _ => []

namespace Session

/-- The history that the store holds: the contexts that were written, and the names that were taken
into use. -/
def stored (session : Session) : History where
  created := session.written
  selected := session.history.selected

/-- The session after one more call. -/
def call (session : Session) (home : String) (call : Call) : Session :=
  let around : Surroundings := { home := some home, input := call.input, color := call.color }
  let result := Command.call around session.volume call.args
  { history := session.history.record call.args result.1
    written := session.written ++ writtenBy call.args result.1
    volume := result.2 }

/-- The session after all of the calls. -/
def run (session : Session) (home : String) (calls : List Call) : Session :=
  calls.foldl (fun session call => session.call home call) session

end Session

variable {home : String} {location : Location} {volume : Volume}

/-! ## The volume holds what was written

The invariant of a session. Every call keeps it, so all of them do. -/

namespace Session

/-- The volume holds what was written. Where there is room, that is what was created by the calls
that succeeded. -/
structure Sound (session : Session) (home : String) (location : Location) : Prop where
  held : Held session.stored home location session.volume
  written : HasRoom home → session.written = session.history.created

/-- In an empty home directory, nothing has happened. -/
theorem sound_start (h : EmptyHome volume home location) :
    Sound { volume } home location where
  held := ⟨h.stored, fun _ hcontext => absurd hcontext List.not_mem_nil⟩
  written := fun _ => rfl

/-- A call continues what the store holds. -/
theorem stored_call (session : Session) (home : String) {call : Call} {command : Command}
    (hargs : ofArguments call.args = .ok command) :
    (session.call home call).stored
      = session.stored.keep command (Command.call
          { home := some home, input := call.input, color := call.color } session.volume
          call.args).1 := by
  simp only [Session.call, stored, History.record, writtenBy, hargs, History.keep, selectedBy]
  split
  · rfl
  · rw [List.append_nil]

namespace Sound

/-- A call keeps a session sound. -/
theorem call {session : Session} (h : session.Sound home location) (call : Call) :
    (session.call home call).Sound home location := by
  cases hargs : ofArguments call.args with
  | error stop =>
    have hsame : session.call home call = session := by
      rw [Session.call, History.record, writtenBy, hargs, call_of_error hargs]
      simp only [List.append_nil]
    rwa [hsame]
  | ok command =>
    let around : Surroundings := { home := some home, input := call.input, color := call.color }
    have hhome : around.home = some home := rfl
    obtain ⟨hheld, hwritten⟩ := h.held.call hhome hargs
    refine ⟨stored_call session home hargs ▸ hheld, fun hroom => ?_⟩
    -- With room, what was written and what was created grow by the same.
    rw [Session.call, History.record, writtenBy, hargs]
    dsimp only
    rw [h.written hroom, hwritten hroom]
    split
    · rfl
    · exact List.append_nil _

/-- Induction over the calls. The history and the volume change together, so it is over any
session. -/
theorem run {session : Session} (h : session.Sound home location) (calls : List Call) :
    (session.run home calls).Sound home location := by
  induction calls generalizing session with
  | nil => exact h
  | cons call calls ih => exact ih (h.call call)

end Sound

end Session

/-! ## Consistent stores

What the store holds is sound, so what the structure says of files and of reading follows from the
history that it holds. -/

namespace Session

/-- The store below the home directory agrees with the session: in the folder of contexts every file
is a context that requests can use, in the file of its name; the name in use is that of a stored
context; and reading gives the context in use and the last context of every name. -/
structure Consistent (session : Session) (home : String) : Prop where
  files : ∀ files, session.volume.list (folder home .contexts) = .ok files →
    ∀ file ∈ files, ∃ context, file.1 = contextFile context.name ∧
      Context.read.ofText file.2 = .ok context ∧
      ("http://".toList <+: context.base.toList ∨ "https://".toList <+: context.base.toList) ∧
      context.base.toList.getLast? ≠ some '/'
  inUse : ∀ entry, session.volume.look (joinPath (folder home .current) currentFile) = .ok entry →
    ∃ text name, entry = .file text ∧ readName.ofText text = .ok name ∧ ∃ context,
      Gives session.volume (joinPath (folder home .contexts) (contextFile name)) Context.read context
  current : match session.history.current? with
    | none => ∃ failure after,
      (readCurrent (some home)).run { volume := session.volume } = .error failure after
    | some name => ∃ context after, session.history.find? name = some context ∧
      (readCurrent (some home)).run { volume := session.volume } = .ok context after
  /-- Every context is read if the path of their folder is not too long. -/
  contexts : (folder home .contexts).utf8ByteSize < maxPathSize → ∃ contexts after,
    (readContexts (some home)).run { volume := session.volume } = .ok contexts after ∧
      (contexts.map (·.name)).Nodup ∧
      (∀ name, name ∈ contexts.map (·.name) ↔ name ∈ session.written.map (·.name)) ∧
      ∀ context ∈ contexts, session.stored.find? context.name = some context
  /-- Where there is room, the contexts that were written are those of the calls that succeeded. -/
  written : HasRoom home → session.written = session.history.created

/-- A sound session is consistent. -/
theorem Sound.consistent {session : Session} (h : session.Sound home location) :
    session.Consistent home where
  files := by
    intro files hlist file hfile
    have hopened := h.held.stored.opened_of_list hlist
    obtain rfl := Except.ok.inj (hlist.symm.trans hopened.list_folder)
    have hentry := (h.held.stored.listsOnce.mem_filesIn_iff (List.prefix_append _ _)).mp hfile
    obtain ⟨context, hfind, hname, htext⟩ := h.held.stored.eq_context_of_entry hentry
    obtain ⟨hscheme, hslash⟩ := h.held.wellRooted context (History.mem_of_find? hfind)
    refine ⟨context, hname, ?_, ?_, hslash⟩
    · rw [Entry.file.inj htext, context.read_toText]
    · simpa only [hasScheme, Bool.or_eq_true, List.isPrefixOf_iff_prefix] using hscheme
  inUse := by
    intro entry hlook
    have hopened := h.held.stored.opened_of_look hlook
    obtain ⟨other, hlocate, hentry⟩ := look_eq_ok_iff.mp hlook
    obtain rfl := hopened.eq_currentAt hlocate
    obtain ⟨name, hcurrent, rfl⟩ := h.held.stored.eq_current_of_entry hentry
    -- Only a name with a context was taken into use.
    obtain ⟨-, -, context, hfind⟩ := h.held.stored.current hcurrent
    exact ⟨_, name, rfl, readName_toText name, context, h.held.stored.gives_context hfind⟩
  current := by
    have hread := triple_readCurrent { volume := session.volume } h.held.stored
    cases hrun : (readCurrent (some home)).run { volume := session.volume } with
    | ok context after =>
      rw [hrun] at hread
      obtain ⟨hstored, name, hcurrent, hfind⟩ := hread
      -- A name in use has room, so its context was created by a call that succeeded.
      have hfound : session.history.find? name = some context := by
        rw [History.find?, ← h.written (hstored.hasRoom hcurrent)]
        exact hfind
      change session.history.current? = some name at hcurrent
      rw [hcurrent]
      exact ⟨context, after, hfound, rfl⟩
    | error failure after =>
      rw [hrun] at hread
      have hnone : session.history.current? = none := hread.2
      rw [hnone]
      exact ⟨failure, after, rfl⟩
  contexts := by
    intro hsize
    have hread := triple_readContexts { volume := session.volume } h.held.stored
    cases hrun : (readContexts (some home)).run { volume := session.volume } with
    | error failure after =>
      rw [hrun] at hread
      exact absurd hsize (Nat.not_lt.mpr hread.2)
    | ok contexts after =>
      rw [hrun] at hread
      obtain ⟨-, hnodup, hmem⟩ := hread
      refine ⟨contexts, after, rfl, hnodup, fun name => ?_, fun context => (hmem context).mp⟩
      have hnames : (session.stored.find? name).isSome ↔ name ∈ session.written.map (·.name) :=
        History.isSome_find?_iff
      rw [← hnames, List.mem_map]
      constructor
      · rintro ⟨context, hcontext, rfl⟩
        exact Option.isSome_iff_exists.mpr ⟨context, (hmem context).mp hcontext⟩
      · intro hsome
        obtain ⟨context, hfind⟩ := Option.isSome_iff_exists.mp hsome
        obtain rfl := History.name_of_find? hfind
        exact ⟨context, (hmem context).mpr hfind, rfl⟩
  written := h.written

/-- However a session goes that starts in an empty home directory, its store stays consistent. -/
theorem run_consistent (hempty : EmptyHome volume home location) (calls : List Call) :
    (Session.run { volume } home calls).Consistent home :=
  ((sound_start hempty).run calls).consistent

/-- A context is created again. Between that, a name that leads out of the folder, a service
root without a scheme and a name that was never created are refused. -/
def recreation : List Call :=
  [{ args := ["create-context", "a", "--url", "https://one.example/"] },
   { args := ["create-context", "a/../b", "--url", "https://two.example", "--use"] },
   { args := ["create-context", "c", "--url", "ftp://three.example"] },
   { args := ["use-context", "b"] },
   { args := ["create-context", "a", "--url", "http://four.example//"] }]

theorem run_consistent_recreation :
    let session := Session.run { volume := homeVolume } "/home" recreation
    session.history.created.map (·.base) = ["https://one.example", "http://four.example"] ∧
      session.history.current? = none ∧ HasRoom "/home" ∧ session.Consistent "/home" := by
  have hhistory :
      let session := Session.run { volume := homeVolume } "/home" recreation
      session.history.created.map (·.base) = ["https://one.example", "http://four.example"] ∧
        session.history.current? = none := by
    decide +kernel
  exact ⟨hhistory.1, hhistory.2, by decide, Session.run_consistent emptyHome_home recreation⟩

/-- Without room a context is read that no call created successfully: the one call that writes it
fails to take it into use. -/
theorem run_inconsistent_without_room :
    let home := longHome 2018
    let session := Session.run { volume := homeVolume } home
      [{ args := ["create-context", "a", "--url", "https://one.example", "--use"] }]
    EmptyHome homeVolume home ["home"] ∧ session.history.created = [] ∧
      ∃ contexts after,
        (readContexts (some home)).run { volume := session.volume } = .ok contexts after ∧
          "a" ∈ contexts.map (·.name) := by
  intro home session
  let params : ContextParams := { name := "a", url := "https://one.example", use := true }
  have hempty : EmptyHome homeVolume home ["home"] := emptyHome_longHome (by decide)
  have hroom : ¬ HasRoom home := not_hasRoom_longHome (by decide)
  have hargs : ofArguments ["create-context", "a", "--url", "https://one.example", "--use"]
      = .ok (.createContext params) := by decide +kernel
  have hsize := utf8ByteSize_context_longHome 2018 params.context.name
  have hfits : 5 + 2 * 2018 + 50 + params.context.name.utf8ByteSize < maxPathSize := by decide
  have hpath := Nat.lt_of_le_of_lt hsize hfits
  have hfolder : (folder home .contexts).utf8ByteSize < maxPathSize :=
    Nat.lt_of_le_of_lt (utf8ByteSize_le_joinPath _ _) hpath
  let around : Surroundings := { home := some home }
  have hhome : around.home = some home := rfl
  obtain ⟨hstatus, houtput, -⟩ := call_createContext_without_room hempty.stored hroom hhome hargs
    rfl (by decide +kernel) ⟨by decide, by decide, by decide⟩ hpath
  -- The call fails, so it counts for nothing.
  have hcreated : session.history.created = [] := by
    show (History.record {} _ (Command.call around homeVolume _).1).created = []
    rw [History.record, hargs]
    dsimp only
    rw [if_neg hstatus]
  have hwritten : session.written = [params.context] := by
    show [] ++ ODataQuery.writtenBy _ (Command.call around homeVolume _).1 = _
    rw [ODataQuery.writtenBy, hargs]
    dsimp only
    rw [Command.writtenBy, if_neg houtput]
    rfl
  obtain ⟨contexts, after, hread, -, hnames, -⟩ :=
    ((sound_start hempty).run _).consistent.contexts hfolder
  refine ⟨hempty, hcreated, contexts, after, hread, (hnames "a").mpr ?_⟩
  change "a" ∈ session.written.map (·.name)
  rw [hwritten]
  exact List.mem_singleton.mpr rfl

end Session

end ODataQuery
