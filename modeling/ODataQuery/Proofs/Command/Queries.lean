import ODataQuery.Command.Outcome
import ODataQuery.Proofs.Store.Action

/-!
# Commands that store nothing

Most commands do nothing to a volume but open the folders of the store. They keep every invariant
that is kept where a folder is opened, whether they succeed or fail (`keeps_run`).
-/

namespace ODataQuery

open Store ODataQuery.Action

variable {invariant : Volume → Prop} {home : Option String} {around : Surroundings}

/-! ## Reading the store

Reading goes through opening folders, so an invariant that opening keeps is kept by all of it. -/

namespace Store

/-- Reading a file of a shelf keeps what opening the folder keeps. -/
theorem keeps_readEntry {α : Type} {shelf : Shelf}
    (hopen : Keeps invariant (openFolder home shelf)) (file : String) (read : Json.Reader α) :
    Keeps invariant (readEntry home shelf file read) := by
  refine hopen.bind fun path => ?_
  have htell : Keeps invariant (Action.tell (.reading shelf.name (joinPath path file))) :=
    Triple.modify fun _ => rfl
  exact htell.bind fun _ => (Keeps.readFile _).bind fun text => Keeps.ofDocument _

/-- Reading all contexts keeps what opening their folder keeps. -/
theorem keeps_readContexts (hopen : Keeps invariant (openFolder home .contexts)) :
    Keeps invariant (readContexts home) := by
  refine hopen.bind fun path => ?_
  exact (Keeps.ofVolume _).bind fun files => Keeps.ofDocument _

variable (hopen : ∀ shelf, Keeps invariant (openFolder home shelf))
include hopen

theorem keeps_readCurrent : Keeps invariant (readCurrent home) :=
  (keeps_readEntry (hopen .current) currentFile readName).bind fun name =>
    keeps_readEntry (hopen .contexts) (contextFile name) Context.read

theorem keeps_readCurrent? : Keeps invariant (readCurrent? home) := by
  refine Keeps.bind (Keeps.tryCatch ((keeps_readCurrent hopen).bind fun _ => Keeps.pure _)
    fun failure => ?_) fun outcome => ?_
  · split
    · exact Keeps.pure _
    · exact Keeps.throw _
  · cases outcome with
    | ok context => exact Keeps.pure _
    | error early => exact Keeps.pure _

end Store

namespace Command

/-- Whether a command stores nothing: it neither creates a context nor takes one into use. -/
def isQuery : Command → Bool
  | .createContext _ | .useContext _ => false
  | _ => true

/-! ## Single commands

One lemma for each command, along the steps of the command. -/

/-- Leaving the choice to somebody at a terminal fails, as there is none. -/
theorem triple_chooseContext (hopen : Keeps invariant (openFolder home .contexts)) :
    Triple invariant (chooseContext home) (fun _ _ => False) (fun _ => invariant) := by
  refine Triple.bind (keeps_readContexts hopen) fun contexts => ?_
  split
  · exact fun _ h => h
  · exact fun _ h => h

theorem keeps_readFilters (file : Option String) : Keeps invariant (readFilters around file) := by
  have hparse : ∀ text, Keeps invariant (Action.ofDocument (LooseFilter.readAll.ofText text)) :=
    fun text => Keeps.ofDocument _
  unfold readFilters
  split
  · split
    · exact hparse _
    · exact (Keeps.readFile _).bind hparse
  · exact hparse _

theorem keeps_runParseRecordUrl (params : RecordParams) :
    Keeps invariant (runParseRecordUrl params) := by
  unfold runParseRecordUrl
  dsimp only
  split
  · exact Keeps.throw _
  · exact (Keeps.printAll _).bind fun _ => Keeps.printAll _

theorem keeps_listen (address : String) : Keeps invariant (listen address) := by
  unfold listen
  split
  · exact Keeps.printAll _
  · exact Keeps.throw _

theorem keeps_runServe (hopen : ∀ shelf, Keeps invariant (openFolder home shelf))
    (params : ServeParams) : Keeps invariant (runServe home params) := by
  refine (keeps_readCurrent hopen).bind fun context => ?_
  have htell : Keeps invariant (Action.tell (.serving context.name)) := Triple.modify fun _ => rfl
  refine htell.bind fun _ => ?_
  -- An origin that cannot stand in a header ends the command before it listens.
  have hserve : Keeps invariant
      (listen params.bind >>= fun _ => Pure.pure (Service.ofContext context)) :=
    (keeps_listen params.bind).bind fun _ => Keeps.pure _
  dsimp only
  split
  · split
    · exact Keeps.throw _
    · exact hserve
  · exact hserve

section Around

variable (hopen : ∀ shelf, Keeps invariant (openFolder around.home shelf))
include hopen

theorem keeps_runListContexts : Keeps invariant (runListContexts around) := by
  have hname : Keeps invariant (readCurrentName around.home) :=
    keeps_readEntry (hopen .current) currentFile readName
  have hcurrent : Keeps invariant
      (tryCatch (some <$> readCurrentName around.home) fun _ => pure none) :=
    Keeps.tryCatch (hname.map some) fun _ => Keeps.pure none
  exact hcurrent.bind fun current =>
    (keeps_readContexts (hopen .contexts)).bind fun contexts => Keeps.printAll _

theorem keeps_runFilter (file : Option String) : Keeps invariant (runFilter around file) := by
  refine (keeps_readCurrent? hopen).bind fun context => ?_
  refine (keeps_readFilters file).bind fun loose => ?_
  refine (Keeps.ofLogged _).bind fun filters => ?_
  exact (Keeps.ofLogged _).bind fun text => Keeps.printAll _

theorem keeps_runRequest (params : RequestParams) : Keeps invariant (runRequest around params) := by
  refine (keeps_readCurrent? hopen).bind fun context => ?_
  dsimp only
  have hsend : ∀ (dialect : Dialect) (base : String) (query : EntityQuery),
      Keeps invariant (do
        let request ← Action.ofLogged (dialect.entityRequest base query)
        Action.printAll (request.url :: request.headers.map headerLine)) :=
    fun dialect base query => (Keeps.ofLogged _).bind fun request => Keeps.printAll _
  split
  · refine (Keeps.pure _).bind fun base => ?_
    split
    · exact (Keeps.pure _).bind fun filters => hsend _ _ _
    · refine (keeps_readFilters _).bind fun loose => ?_
      exact (Keeps.ofLogged _).bind fun filters => hsend _ _ _
  · exact Keeps.throw _

/-- A command that stores nothing keeps what is kept where a folder is opened. -/
theorem keeps_run {command : Command} (hquery : command.isQuery = true) :
    Keeps invariant (command.run around) := by
  cases command with
  | createContext params => exact Bool.noConfusion hquery
  | useContext name => exact Bool.noConfusion hquery
  | listContexts => exact keeps_runListContexts hopen
  | filter file => exact keeps_runFilter hopen file
  | request params => exact keeps_runRequest hopen params
  | metadata entity => exact (keeps_readCurrent hopen).bind fun context => Keeps.printAll _
  | picklist params => exact (keeps_readCurrent hopen).bind fun context => Keeps.printAll _
  | intersect params => exact Keeps.printAll _
  | parseRecordUrl params => exact keeps_runParseRecordUrl params
  | serve params => exact (keeps_runServe hopen params).bind fun _ => Keeps.pure _

end Around

end Command

end ODataQuery
