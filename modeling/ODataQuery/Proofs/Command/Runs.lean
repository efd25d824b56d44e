import ODataQuery.Proofs.Command.Queries
import ODataQuery.Proofs.Command.Roots
import ODataQuery.Proofs.Store.Room

/-!
# Runs of commands

What one call does to a volume that holds a history. A command that creates no context continues the
history if it succeeds and leaves it as it was if it fails (`triple_run`). Creating a context and
taking it into use stores two files, and the second one may fail after the first: what the call
printed says whether the context was stored, and its status whether the name is in use
(`call_createContext`, `Held.call`).
-/

namespace ODataQuery

open Store ODataQuery.Action Command

-- Otherwise the unifier computes whether a service root has a scheme.
attribute [local irreducible] hasScheme

variable {history : History} {home : String} {location : Location} {around : Surroundings}

/-! ## Histories

A command creates contexts and takes names into use, at most one of each. -/

namespace Command

/-- The contexts that a command creates. -/
def creates : Command → List Context
  | .createContext params => [params.context]
  | _ => []

/-- The names that a command takes into use. -/
def selects : Command → List String
  | .createContext params => if params.use then [params.context.name] else []
  | .useContext (some name) => [name]
  | _ => []

end Command

namespace Store.History

/-- Every context that was created has a service root that requests can use. -/
def WellRooted (history : History) : Prop :=
  ∀ context ∈ history.created,
    hasScheme context.base = true ∧ context.base.toList.getLast? ≠ some '/'

/-- The history after a command that succeeds. -/
def after (history : History) (command : Command) : History where
  created := history.created ++ command.creates
  selected := history.selected ++ command.selects

/-- A command that stores nothing does not continue the history. -/
theorem after_of_isQuery {command : Command} (hquery : command.isQuery = true) :
    history.after command = history := by
  have hnothing : command.creates = [] ∧ command.selects = [] := by
    cases command with
    | createContext params => exact Bool.noConfusion hquery
    | useContext name => exact Bool.noConfusion hquery
    | _ => exact ⟨rfl, rfl⟩
  rw [after, hnothing.1, hnothing.2, List.append_nil, List.append_nil]

theorem after_createContext (history : History) (params : ContextParams) :
    history.after (.createContext params)
      = if params.use then (history.create params.context).select params.context.name
        else history.create params.context := by
  simp only [after, Command.creates, Command.selects, create, select]
  split
  · rfl
  · rw [List.append_nil]

theorem after_useContext (history : History) (name : String) :
    history.after (.useContext (some name)) = history.select name := by
  simp [after, Command.creates, Command.selects, select]

theorem WellRooted.create {params : ContextParams} (h : history.WellRooted)
    (hscheme : hasScheme params.context.base = true) :
    (history.create params.context).WellRooted := by
  intro context hcontext
  rcases List.mem_append.mp hcontext with hcontext | hcontext
  · exact h context hcontext
  · rw [List.mem_singleton.mp hcontext]
    exact ⟨hscheme, (isTrimmed_trimSlashes params.url).getLast?⟩

end Store.History

/-! ## What is printed

The store prints nothing, so the lines of a call tell how far it came. -/

namespace Action

theorem output_change (f : Volume → Except SystemError Volume) (world : World) :
    ((change f).after world).output = world.output := by
  cases h : f world.volume with
  | ok volume => rw [after_change h]
  | error e =>
    have hasked : (ofVolume f).result world = .error (.system e) := by
      rw [result_ofVolume, h]
      rfl
    rw [change, after_bind_error hasked, after_ofVolume]

theorem after_printAll (lines : List String) (world : World) :
    (printAll lines).after world = { world with output := world.output ++ lines } := rfl

theorem result_printAll (lines : List String) (world : World) :
    (printAll lines).result world = .ok () := rfl

end Action

theorem Store.output_writeEntry (home : Option String) (shelf : Shelf) (file text : String)
    (world : World) : ((writeEntry home shelf file text).after world).output = world.output := by
  rw [writeEntry]
  obtain ⟨houtput, -⟩ := reads_openFolder home shelf world
  cases hopen : (openFolder home shelf).result world with
  | error failure => rw [after_bind_error hopen, houtput]
  | ok path =>
    rw [after_bind hopen, after_bind (result_tell _ _), output_change]
    exact houtput

namespace Command

/-- Taking a name into use takes back nothing of what was printed. -/
theorem prefix_output_runUseContext (home : Option String) (name : String) (world : World) :
    world.output <+: ((runUseContext home name).after world).output := by
  rw [runUseContext]
  obtain ⟨houtput, -⟩ := reads_readEntry home .contexts (contextFile name) Context.read world
  cases hread : (readContext home name).result world with
  | error failure =>
    rw [after_bind_error hread]
    exact ⟨[], (List.append_nil _).trans houtput.symm⟩
  | ok context =>
    rw [after_bind hread]
    have hwritten := output_writeEntry home .current currentFile (Json.text context.name).toText
      ((readContext home name).after world)
    have hbefore : world.output = ((writeCurrentName home context.name).after
        ((readContext home name).after world)).output := (hwritten.trans houtput).symm
    -- The line is printed behind both steps.
    cases hwrite : (writeCurrentName home context.name).result
        ((readContext home name).after world) with
    | error failure =>
      rw [after_bind_error hwrite]
      exact ⟨[], (List.append_nil _).trans hbefore⟩
    | ok done =>
      rw [after_bind hwrite, hbefore]
      exact List.prefix_append _ _

/-- What is printed stays printed, so an output that goes on is another one. -/
theorem ne_of_prefix_concat {lines rest : List String} {line : String}
    (h : lines ++ [line] <+: rest) : rest ≠ lines := by
  rintro rfl
  have hlength := h.length_le
  rw [List.length_append, List.length_singleton] at hlength
  omega

theorem unlines_eq_empty_iff (lines : List String) : unlines lines = "" ↔ lines = [] := by
  constructor
  · intro hempty
    cases lines with
    | nil => rfl
    | cons line lines =>
      rw [unlines, List.map_cons, String.join_cons, String.append_eq_empty_iff,
        String.append_eq_empty_iff] at hempty
      exact absurd hempty.1.2 (by decide)
  · rintro rfl
    rfl

/-! ## Commands that change the store

Two commands write: one takes a name into use, the other one creates a context and may take its name
into use after that. -/

/-- Opening a folder changes nothing about the history. -/
theorem keeps_openFolder (shelf : Shelf) :
    Keeps (Stored history home location) (openFolder (some home) shelf) :=
  (triple_openFolder shelf).consequence (fun _ h => h) (fun _ _ h => h.2.1) (fun _ _ h => h.1)

/-- Taking a name into use fails where no context was created under it or where there is no room,
and nowhere else. -/
theorem triple_runUseContext (name : String) :
    Triple (Stored history home location) (runUseContext (some home) name)
      (fun _ => Stored (history.select name) home location)
      (fun _ volume => Stored history home location volume ∧
        (history.find? name = none ∨ ¬ HasRoom home)) := by
  refine Triple.bind ((triple_readContext name).consequence (fun _ h => h) (fun _ _ h => h)
    fun _ _ h => ⟨h.1, .inl h.2⟩) fun context world hworld => ?_
  obtain ⟨hstored, hfind⟩ := hworld
  obtain rfl := History.name_of_find? hfind
  -- The context is found, so it can only fail to write the name.
  have hselected : Triple (Stored history home location) (do
      Store.writeCurrentName (some home) context.name
      Action.print ("Switched to context " ++ Style.strong context.name ++ "."))
      (fun _ => Stored (history.select context.name) home location)
      (fun _ volume => Stored history home location volume ∧
        (history.find? context.name = none ∨ ¬ HasRoom home)) := by
    refine Triple.bind ((triple_writeCurrentName hfind).consequence (fun _ h => h)
      (fun _ _ h => h) fun _ _ h => ⟨h.1, .inr (Nat.not_lt.mpr h.2)⟩) fun _ => ?_
    exact Triple.modify fun _ => rfl
  exact hselected world hstored

/-! ## Creating a context

Creating a context goes through two volumes: in the first one the context is written, and in the
second one its name is in use. Nothing is printed before the first one and something right after it,
so the output of a failure says whether it left the volume of the start or that of the context. -/

section CreateContext

variable {params : ContextParams} {start fails written used unused : Volume → Prop}
  (hrefuse : hasScheme params.context.base = false → ∀ volume, start volume → fails volume)
  (hwrite : hasScheme params.context.base = true →
    Triple start (writeContext (some home) params.context) (fun _ => written) (fun _ => fails))
  (huse : Triple written (runUseContext (some home) params.context.name) (fun _ => used)
    (fun _ => unused))

include hrefuse hwrite huse

omit hrefuse hwrite in
/-- After the context is written, a line is printed, and then its name may be taken into use. -/
theorem run_announced (line other : String) (world : World) (hworld : written world.volume) :
    match (do
      Action.print line
      if params.use then runUseContext (some home) params.context.name
      else Action.print other : Action Unit).run world with
    | .ok _ last => last.output ≠ world.output ∧
      if params.use then used last.volume else written last.volume
    | .error _ last => (last.output = world.output ∧ fails last.volume) ∨
      (last.output ≠ world.output ∧ params.use = true ∧ unused last.volume) := by
  rw [Action.print, run_bind (result_printAll _ _), after_printAll]
  by_cases huses : params.use = true
  · simp only [if_pos huses]
    have hused := huse { world with output := world.output ++ [line] } hworld
    have hprefix := prefix_output_runUseContext (some home) params.context.name
      { world with output := world.output ++ [line] }
    rw [after] at hprefix
    cases hrun : (runUseContext (some home) params.context.name).run
        { world with output := world.output ++ [line] } with
    | ok done last =>
      rw [hrun] at hused hprefix
      exact ⟨ne_of_prefix_concat hprefix, hused⟩
    | error failure last =>
      rw [hrun] at hused hprefix
      exact .inr ⟨ne_of_prefix_concat hprefix, huses, hused⟩
  · simp only [if_neg huses]
    exact ⟨ne_of_prefix_concat (List.prefix_append _ _), hworld⟩

theorem run_createContext (world : World) (hworld : start world.volume) :
    match (runCreateContext (some home) params).run world with
    | .ok _ last => last.output ≠ world.output ∧
      if params.use then used last.volume else written last.volume
    | .error _ last => (last.output = world.output ∧ fails last.volume) ∨
      (last.output ≠ world.output ∧ params.use = true ∧ unused last.volume) := by
  unfold runCreateContext
  dsimp only
  by_cases hscheme : hasScheme params.context.base = true
  swap
  · have hscheme : hasScheme params.context.base = false := by simpa using hscheme
    rw [if_pos (by simp [hscheme])]
    exact .inl ⟨rfl, hrefuse hscheme _ hworld⟩
  rw [if_neg (by simp [hscheme])]
  have hwritten := hwrite hscheme world hworld
  have houtput : ((writeContext (some home) params.context).after world).output = world.output :=
    output_writeEntry _ _ _ _ _
  cases hresult : (writeContext (some home) params.context).result world with
  | error failure =>
    rw [run_of_result_error hresult] at hwritten
    rw [run_bind_error hresult]
    exact .inl ⟨houtput, hwritten⟩
  | ok done =>
    rw [run_of_result hresult] at hwritten
    rw [run_bind hresult, ← houtput]
    exact run_announced huse _ _ _ hwritten

theorem call_createContext (hhome : around.home = some home) {volume : Volume} {args : List String}
    (hargs : ofArguments args = .ok (.createContext params)) (hstart : start volume) :
    let done := call around volume args
    (done.1.status = 0 → done.1.output ≠ "" ∧
      if params.use then used done.2 else written done.2) ∧
    (done.1.status ≠ 0 → (done.1.output = "" ∧ fails done.2) ∨
      (done.1.output ≠ "" ∧ params.use = true ∧ unused done.2)) := by
  have hruns := run_createContext hrefuse hwrite huse { volume } hstart
  rw [call, hargs]
  dsimp only
  rw [run, hhome]
  -- The status says whether the command failed, and the output whether it printed before that.
  cases hresult : (runCreateContext (some home) params).run { volume } with
  | ok done last =>
    rw [hresult] at hruns
    refine ⟨fun _ => ⟨?_, hruns.2⟩, fun hstatus => absurd rfl hstatus⟩
    exact (unlines_eq_empty_iff _).not.mpr hruns.1
  | error failure last =>
    rw [hresult] at hruns
    refine ⟨fun hstatus => absurd hstatus Nat.one_ne_zero, fun _ => ?_⟩
    rcases hruns with ⟨houtput, hvolume⟩ | ⟨houtput, huses, hvolume⟩
    · exact .inl ⟨(unlines_eq_empty_iff _).mpr houtput, hvolume⟩
    · exact .inr ⟨(unlines_eq_empty_iff _).not.mpr houtput, huses, hvolume⟩

end CreateContext

/-- Without room, a context that fits is written and cannot be taken into use. -/
theorem call_createContext_without_room {volume : Volume} {args : List String}
    {params : ContextParams} (hstored : Stored history home location volume)
    (hroom : ¬ HasRoom home) (hhome : around.home = some home)
    (hargs : ofArguments args = .ok (.createContext params)) (huse : params.use = true)
    (hscheme : hasScheme params.context.base = true) (hname : IsFileName params.context.name)
    (hsize : (joinPath (folder home .contexts) (contextFile params.context.name)).utf8ByteSize
      < Volume.maxPathSize) :
    let done := call around volume args
    done.1.status ≠ 0 ∧ done.1.output ≠ "" ∧
      Stored (history.create params.context) home location done.2 := by
  obtain ⟨hdone, hfailed⟩ := call_createContext
    (fun hrefused => absurd (hscheme.symm.trans hrefused) Bool.noConfusion)
    (fun _ => triple_writeContext_of_fits hname hsize) (triple_runUseContext _) hhome hargs hstored
  -- A name in use would have room.
  have hstatus : (call around volume args).1.status ≠ 0 := by
    intro hstatus
    have hused := (hdone hstatus).2
    rw [if_pos huse] at hused
    exact hroom (hused.hasRoom History.current?_select)
  rcases hfailed hstatus with ⟨-, hnever⟩ | ⟨houtput, -, hcreated, -⟩
  · exact hnever.elim
  · exact ⟨hstatus, houtput, hcreated⟩

/-! ## Other commands

All other commands end in a volume that follows from their status alone. -/

theorem triple_run (hhome : around.home = some home) {command : Command}
    (hcreates : command.creates = []) :
    Triple (Stored history home location) (command.run around)
      (fun _ => Stored (history.after command) home location)
      (fun _ => Stored history home location) := by
  have hopen : ∀ shelf, Keeps (Stored history home location) (openFolder around.home shelf) :=
    fun shelf => hhome ▸ keeps_openFolder shelf
  -- Most commands store nothing, and creating a context is excluded.
  cases hquery : command.isQuery with
  | true =>
    rw [History.after_of_isQuery hquery]
    exact keeps_run hopen hquery
  | false =>
    cases command with
    | createContext params => exact absurd hcreates (List.cons_ne_nil _ _)
    | useContext name =>
      cases name with
      | some name =>
        rw [run, hhome, History.after_useContext]
        exact (triple_runUseContext name).consequence (fun _ h => h) (fun _ _ h => h)
          (fun _ _ h => h.1)
      | none =>
        exact Triple.bind (triple_chooseContext (hopen .contexts)) fun _ _ h => h.elim
    | _ => exact Bool.noConfusion hquery

/-- Arguments that cannot be read change nothing. -/
theorem call_of_error {volume : Volume} {args : List String} {stop : Option String × Stop}
    (hargs : ofArguments args = .error stop) : (call around volume args).2 = volume := by
  rw [call, hargs]

/-- The status of a call says which part of a triple holds of the volume that it leaves. -/
theorem call_of_triple {volume : Volume} {args : List String} {command : Command}
    {pre post fails : Volume → Prop} (hargs : ofArguments args = .ok command)
    (hrun : Triple pre (command.run around) (fun _ => post) (fun _ => fails)) (hpre : pre volume) :
    ((call around volume args).1.status = 0 → post (call around volume args).2) ∧
      ((call around volume args).1.status ≠ 0 → fails (call around volume args).2) := by
  have hlast := hrun { volume } hpre
  rw [call, hargs]
  dsimp only
  cases hresult : (command.run around).run { volume } with
  | ok done after =>
    rw [hresult] at hlast
    exact ⟨fun _ => hlast, fun hstatus => absurd rfl hstatus⟩
  | error failure after =>
    rw [hresult] at hlast
    exact ⟨fun hstatus => absurd hstatus Nat.one_ne_zero, fun _ => hlast⟩

/-! ## What the store holds after a call

Of a call only its outcome can be seen. Since creating a context prints a line as soon as the
context is written, what was written can be told from the output, and what is in use from the
status. -/

/-- The contexts that a call wrote. It prints that it created one as soon as that is written, even if
the context cannot be taken into use afterwards. -/
def writtenBy (command : Command) (outcome : Outcome) : List Context :=
  if outcome.output = "" then [] else command.creates

/-- The names that a call took into use. -/
def selectedBy (command : Command) (outcome : Outcome) : List String :=
  if outcome.status = 0 then command.selects else []

end Command

namespace Store

/-- The history that the store holds after a call. -/
def History.keep (history : History) (command : Command) (outcome : Outcome) : History where
  created := history.created ++ command.writtenBy outcome
  selected := history.selected ++ command.selectedBy outcome

/-- A call that succeeds continues the history as its command says. -/
theorem History.keep_of_success {params : ContextParams} {outcome : Outcome}
    (hstatus : outcome.status = 0) (houtput : outcome.output ≠ "") :
    history.keep (.createContext params) outcome = history.after (.createContext params) := by
  rw [History.keep, writtenBy, selectedBy, if_neg houtput, if_pos hstatus]
  rfl

/-- A call that fails without a word has written nothing. -/
theorem History.keep_of_silence {command : Command} {outcome : Outcome}
    (hstatus : outcome.status ≠ 0) (houtput : outcome.output = "") :
    history.keep command outcome = history := by
  rw [History.keep, writtenBy, selectedBy, if_pos houtput, if_neg hstatus, List.append_nil,
    List.append_nil]

/-- A call that fails after it has told of a context has written it. -/
theorem History.keep_of_failure {params : ContextParams} {outcome : Outcome}
    (hstatus : outcome.status ≠ 0) (houtput : outcome.output ≠ "") :
    history.keep (.createContext params) outcome = history.create params.context := by
  rw [History.keep, writtenBy, selectedBy, if_neg houtput, if_neg hstatus, List.append_nil]
  rfl

/-- The volume holds the history, and all of its contexts can be requested. -/
structure Held (history : History) (home : String) (location : Location) (volume : Volume) :
    Prop where
  stored : Stored history home location volume
  wellRooted : history.WellRooted

namespace Held

variable {volume : Volume} {args : List String} {command : Command}

/-- That the roots can be used is a fact about the history, which no action changes. -/
theorem triple_held {x : Action Unit} {post : Unit → Volume → Prop}
    {fails : Failure → Volume → Prop}
    (hx : history.WellRooted → Triple (Stored history home location) x post fails) :
    Triple (Held history home location) x post fails :=
  fun world hworld => hx hworld.wellRooted world hworld.stored

theorem of_triple (h : Held history home location volume) (hcreates : command.creates = [])
    (hhome : around.home = some home) (hargs : ofArguments args = .ok command) :
    Held (history.keep command (Command.call around volume args).1) home location
      (Command.call around volume args).2 := by
  obtain ⟨hdone, hfailed⟩ := call_of_triple hargs (triple_run hhome hcreates) h.stored
  -- Nothing is created, so nothing was written.
  have hnone : command.writtenBy (Command.call around volume args).1 = [] := by
    rw [writtenBy, hcreates, ite_self]
  refine ⟨?_, ?_⟩
  · rw [History.keep, hnone, List.append_nil, selectedBy]
    split
    · next hstatus =>
      have hafter := hdone hstatus
      rwa [History.after, hcreates, List.append_nil] at hafter
    · next hstatus =>
      rw [List.append_nil]
      exact hfailed hstatus
  · intro context hcontext
    rw [History.keep, hnone, List.append_nil] at hcontext
    exact h.wellRooted context hcontext

/-- Writing a context whose root can be used keeps all roots usable. -/
theorem triple_writeContext {params : ContextParams}
    (hscheme : hasScheme params.context.base = true) :
    Triple (Held history home location) (writeContext (some home) params.context)
      (fun _ => Held (history.create params.context) home location)
      (fun _ => Held history home location) := by
  refine triple_held fun hroots => ?_
  exact (Store.triple_writeContext params.context).consequence (fun _ h => h)
    (fun _ _ hstored => ⟨hstored, hroots.create hscheme⟩) fun _ _ hstored => ⟨hstored.1, hroots⟩

/-- A context that was just created can be taken into use if there is room for its name. -/
theorem triple_runUseContext_created (context : Context) :
    Triple (Held (history.create context) home location) (runUseContext (some home) context.name)
      (fun _ => Held ((history.create context).select context.name) home location)
      (fun _ volume => Held (history.create context) home location volume ∧ ¬ HasRoom home) := by
  refine triple_held fun hroots => ?_
  refine (triple_runUseContext context.name).consequence (fun _ h => h)
    (fun _ _ hstored => ⟨hstored, hroots⟩) ?_
  rintro - volume ⟨hstored, hnone | hroom⟩
  · exact absurd (History.find?_create_self.symm.trans hnone) (by simp)
  · exact ⟨⟨hstored, hroots⟩, hroom⟩

theorem call_createContext (h : Held history home location volume) {params : ContextParams}
    (hhome : around.home = some home)
    (hargs : ofArguments args = .ok (.createContext params)) :
    let done := Command.call around volume args
    Held (history.keep (.createContext params) done.1) home location done.2 ∧
      (done.1.status ≠ 0 → done.1.output ≠ "" → params.use = true ∧ ¬ HasRoom home) ∧
      (done.1.status = 0 → done.1.output ≠ "") := by
  intro done
  obtain ⟨hdone, hfailed⟩ := Command.call_createContext (fun _ _ hheld => hheld)
    triple_writeContext (triple_runUseContext_created params.context) hhome hargs h
  refine ⟨?_, fun hstatus houtput => ?_, fun hstatus => (hdone hstatus).1⟩
  · by_cases hstatus : done.1.status = 0
    · obtain ⟨houtput, hheld⟩ := hdone hstatus
      rw [History.keep_of_success hstatus houtput, History.after_createContext]
      split
      · next huses => rwa [if_pos huses] at hheld
      · next huses => rwa [if_neg huses] at hheld
    · -- Either nothing was written and nothing printed, or the context is written but not in use.
      rcases hfailed hstatus with ⟨houtput, hheld⟩ | ⟨houtput, -, hheld, -⟩
      · rwa [History.keep_of_silence hstatus houtput]
      · rwa [History.keep_of_failure hstatus houtput]
  · rcases hfailed hstatus with ⟨hnothing, -⟩ | ⟨-, huses, -, hroom⟩
    · exact absurd hnothing houtput
    · exact ⟨huses, hroom⟩

/-- After a call the volume holds what the call wrote and took into use. Where there is room, the
call wrote what it was to create if it succeeded, and nothing otherwise. -/
theorem call (h : Held history home location volume) (hhome : around.home = some home)
    (hargs : ofArguments args = .ok command) :
    let done := Command.call around volume args
    Held (history.keep command done.1) home location done.2 ∧
      (HasRoom home →
        command.writtenBy done.1 = if done.1.status = 0 then command.creates else []) := by
  intro done
  -- Commands that create nothing write nothing.
  by_cases hcreates : command.creates = []
  · refine ⟨h.of_triple hcreates hhome hargs, fun _ => ?_⟩
    rw [writtenBy, hcreates, ite_self, ite_self]
  · obtain ⟨params, rfl⟩ : ∃ params, command = .createContext params := by
      cases command with
      | createContext params => exact ⟨params, rfl⟩
      | _ => exact absurd rfl hcreates
    obtain ⟨hheld, hfailed, hdone⟩ := h.call_createContext hhome hargs
    refine ⟨hheld, fun hroom => ?_⟩
    rw [writtenBy]
    split
    · next houtput =>
      rw [if_neg fun hstatus => hdone hstatus houtput]
    · next houtput =>
      have hstatus : done.1.status = 0 := by
        by_contra hstatus
        exact (hfailed hstatus houtput).2 hroom
      rw [if_pos hstatus]

end Held

end Store

end ODataQuery
