import ODataQuery.Command.Outcome
import ODataQuery.Proofs.Command.Roots
import ODataQuery.Proofs.Log
import ODataQuery.Proofs.Store.Reading
import ODataQuery.Proofs.Store.Records

/-!
# Requests from arguments and from documents

A request can be asked for with arguments, and its query can be presented as a document. The
arguments build the query that the document with the same fields stands for (`queryOf_eq`), so a
call prints the request for that query or fails with the error that it has
(`call_request_eq_input`).
-/

namespace ODataQuery

open Volume Store ODataQuery.Action

/-! ## Computations that log as actions

Building a request is a computation that logs. As an action it logs the same and touches nothing
else. -/

namespace Action

variable {α β : Type}

theorem ofLogged_pure (a : α) : Action.ofLogged (Pure.pure a) = (Pure.pure a : Action α) := by
  funext world
  show EStateM.Result.ok a { world with log := world.log ++ [] } = .ok a world
  rw [List.append_nil]

/-- A sequence logs as a sequence of actions. -/
theorem ofLogged_bind (x : Logged FilterError α) (f : α → Logged FilterError β) :
    Action.ofLogged (x >>= f) = Action.ofLogged x >>= fun a => Action.ofLogged (f a) := by
  funext world
  obtain ⟨log, e | a⟩ := x
  · rfl
  · rw [Logged.bind_ok]
    show (Action.ofLogged ⟨log ++ (f a).log, (f a).result⟩).run world
      = (Action.ofLogged (f a)).run { world with log := world.log ++ log }
    simp only [run_ofLogged, List.append_assoc]

end Action

namespace Command

/-! ## The query of a request

The arguments and the document have the same fields. In both the filters are converted, and the
defaults for pages are filled in where nothing is said. -/

/-- The query of a request as a document presents it: the same fields, with the filters in loose
form. -/
def RequestParams.input (params : RequestParams) (loose : List LooseFilter) : QueryInput where
  collection := params.collection
  filters := loose
  extraClauses := params.clauses
  orderBys := params.orderBys
  selects := params.selects
  top := params.top
  page := params.page
  useSkipTokens := params.useSkipTokens

/-- Adding items one by one adds them all, in their order. -/
theorem foldl_add {α : Type} (add : EntityQuery → α → EntityQuery) {query : EntityQuery}
    (put : List α → EntityQuery) (hstart : query = put [])
    (hadd : ∀ items item, add (put items) item = put (items ++ [item])) (items : List α) :
    items.foldl add query = put items := by
  have hfrom : ∀ before, items.foldl add (put before) = put (before ++ items) := by
    induction items with
    | nil =>
      intro before
      rw [List.append_nil]
      rfl
    | cons item items ih =>
      intro before
      rw [List.foldl_cons, hadd, ih, List.append_assoc]
      rfl
  rw [hstart]
  exact hfrom []

/-- The query of a request has the fields of the arguments, or the defaults. -/
theorem queryOf_eq (params : RequestParams) (defaults : PageDefaults) (filters : List Filter) :
    queryOf params defaults filters =
      { collection := params.collection
        filters
        extraClauses := params.clauses
        orderBys := params.orderBys
        selects := params.selects
        top := params.top.getD defaults.top
        page := params.page
        useSkipTokens := params.useSkipTokens.getD defaults.useSkipTokens } := by
  -- The four loops come one after the other, each starting from what the one before it left.
  let start : EntityQuery :=
    { collection := params.collection
      top := params.top.getD defaults.top
      page := params.page
      useSkipTokens := params.useSkipTokens.getD defaults.useSkipTokens }
  have hfilters : filters.foldl EntityQuery.filter start = { start with filters } :=
    foldl_add EntityQuery.filter (fun items => { start with filters := items }) rfl
      (fun _ _ => rfl) filters
  have hselects : params.selects.foldl EntityQuery.select { start with filters }
      = { start with filters, selects := params.selects } :=
    foldl_add EntityQuery.select (fun items => { start with filters, selects := items }) rfl
      (fun _ _ => rfl) params.selects
  have horders : params.orderBys.foldl EntityQuery.orderBy
        { start with filters, selects := params.selects }
      = { start with filters, selects := params.selects, orderBys := params.orderBys } :=
    foldl_add EntityQuery.orderBy
      (fun items => { start with filters, selects := params.selects, orderBys := items }) rfl
      (fun _ _ => rfl) params.orderBys
  show params.clauses.foldl EntityQuery.clause (params.orderBys.foldl EntityQuery.orderBy
    (params.selects.foldl EntityQuery.select (filters.foldl EntityQuery.filter start))) = _
  rw [hfilters, hselects, horders]
  exact foldl_add EntityQuery.clause
    (fun items =>
      { start with
        filters, selects := params.selects, orderBys := params.orderBys, extraClauses := items })
    rfl (fun _ _ => rfl) params.clauses

/-- Adding up the query of the arguments and sending it is what is done with their document. -/
theorem convertAll_queryOf (params : RequestParams) (loose : List LooseFilter)
    (options : CompileOptions) (defaults : PageDefaults)
    (send : EntityQuery → Logged FilterError Request) :
    (LooseFilter.convertAll options loose >>= fun filters => send (queryOf params defaults filters))
      = (params.input loose).toQuery options defaults >>= send := by
  rw [QueryInput.toQuery, bind_assoc]
  refine congrArg _ (funext fun filters => ?_)
  rw [pure_bind, queryOf_eq]
  rfl

/-! ## Outcomes

What a call prints, if its command is to build something and print it. -/

/-- The outcome of a call that builds a request: its URL and its headers are printed, or the error
is reported. -/
def Outcome.ofRequest (color : Bool) : Except FilterError Request → Outcome
  | .ok built => { status := 0, output := unlines (built.url :: built.headers.map headerLine) }
  | .error e => { status := 1, errors := failureText color (.filter e) }

/-- A call prints what its command prints, or reports what it fails with. -/
theorem call_eq {around : Surroundings} {volume : Volume} {args : List String} {command : Command}
    (hargs : ofArguments args = .ok command) :
    (call around volume args).1 =
      match (command.run around).result { volume } with
      | .ok _ =>
        { status := 0, output := unlines ((command.run around).after { volume }).output }
      | .error failure =>
        { status := 1
          output := unlines ((command.run around).after { volume }).output
          errors := failureText around.color failure } := by
  cases hrun : (command.run around).run { volume } <;> simp only [call, hargs, result, after, hrun]

/-! ## Printing what was built

Printing follows building, so a call prints all lines or none. -/

section PrintBuilt

variable {α β : Type} {lines : α → List String}

/-- Prints what was built, if there is something. -/
def printBuilt (lines : α → List String) (x : Logged FilterError α) : Action Unit := do
  let built ← Action.ofLogged x
  Action.printAll (lines built)

/-- What is built in two steps is printed after the second one. -/
theorem printBuilt_bind (x : Logged FilterError β) (f : β → Logged FilterError α) :
    printBuilt lines (x >>= f) = Action.ofLogged x >>= fun b => printBuilt lines (f b) := by
  rw [printBuilt, ofLogged_bind, bind_assoc]
  rfl

/-- Printing fails if nothing could be built. -/
theorem result_printBuilt (x : Logged FilterError α) (world : World) :
    (printBuilt lines x).result world = (x.result.map fun _ => ()).mapError Failure.filter := by
  have hlogged := result_ofLogged x world
  cases h : x.result with
  | ok built =>
    rw [h] at hlogged
    exact result_bind hlogged
  | error e =>
    rw [h] at hlogged
    exact result_bind_error hlogged

/-- Nothing is printed if nothing could be built. -/
theorem output_printBuilt (x : Logged FilterError α) (world : World) :
    ((printBuilt lines x).after world).output = world.output ++ match x.result with
      | .ok built => lines built
      | .error _ => [] := by
  have hlogged := result_ofLogged x world
  have houtput := output_ofLogged x world
  cases h : x.result with
  | ok built =>
    rw [h] at hlogged
    rw [printBuilt, after_bind hlogged]
    show ((Action.ofLogged x).after world).output ++ _ = _
    rw [houtput]
  | error e =>
    rw [h] at hlogged
    rw [printBuilt, after_bind_error hlogged, houtput, List.append_nil]

/-- A command that first reads and then prints what was built has this outcome. -/
theorem call_of_printBuilt {around : Surroundings} {volume : Volume} {args : List String}
    {command : Command} (hargs : ofArguments args = .ok command) {x : Logged FilterError α}
    {later : World} (houtput : later.output = [])
    (hrun : (command.run around).run { volume } = (printBuilt lines x).run later) :
    (call around volume args).1 = match x.result with
      | .ok built => { status := 0, output := unlines (lines built) }
      | .error e => { status := 1, errors := failureText around.color (.filter e) } := by
  have hresult : (command.run around).result { volume } = (printBuilt lines x).result later := by
    rw [result, hrun, result]
  have hafter : (command.run around).after { volume } = (printBuilt lines x).after later := by
    rw [after, hrun]
    rfl
  rw [call_eq hargs, hresult, hafter, result_printBuilt, output_printBuilt, houtput]
  cases x.result with
  | ok built => rfl
  | error e => rfl

end PrintBuilt

/-! ## Running a request

A request reads the context in use and the filters, and then prints what it builds from them. All
that the request depends on is therefore named before it is built. -/

section Run

variable {around : Surroundings} {volume : Volume} {params : RequestParams}
  {loose : List LooseFilter} {current : Option Context} {base : String} {world : World}

/-- The filters in loose form that a request is given: those of the file or of standard input, and
none if it names neither. -/
def GivesFilters (around : Surroundings) (volume : Volume) : Option String → List LooseFilter → Prop
  | none, loose => loose = []
  | some path, loose =>
    ∃ text, (if isStandardInput path then around.input = text
      else volume.look path = .ok (.file text)) ∧ LooseFilter.readAll.ofText text = .ok loose

/-- New directories do not change what a file gives. -/
theorem GivesFilters.of_adds {after : Volume} {path : Option String}
    (hadds : Adds (fun _ => True) volume after) (h : GivesFilters around volume path loose) :
    GivesFilters around after path loose := by
  cases path with
  | none => exact h
  | some path =>
    obtain ⟨text, htext, hloose⟩ := h
    refine ⟨text, ?_, hloose⟩
    split
    · next hinput => rwa [if_pos hinput] at htext
    · next hinput =>
      rw [if_neg hinput] at htext
      exact hadds.look htext

/-- The filters of a file are read. -/
theorem result_readFilters {path : String}
    (h : GivesFilters around world.volume (some path) loose) :
    (readFilters around (some path)).result world = .ok loose := by
  obtain ⟨text, htext, hloose⟩ := h
  -- The document is the same, whichever source it comes from.
  have hparse (world : World) :
      (Action.ofDocument (LooseFilter.readAll.ofText text)).result world = .ok loose := by
    rw [hloose]
    rfl
  unfold readFilters
  dsimp only
  split
  · next hinput =>
    rw [if_pos hinput] at htext
    rw [htext]
    exact hparse world
  · next hinput =>
    rw [if_neg hinput] at htext
    have hread := result_readDocument LooseFilter.readAll path world
    rw [htext, Store.readFound, hloose] at hread
    exact hread

theorem reads_readFilters (around : Surroundings) (file : Option String) :
    Reads (readFilters around file) := by
  have hparse (text : String) : Reads (Action.ofDocument (LooseFilter.readAll.ofText text)) :=
    Reads.ofDocument _
  unfold readFilters
  split
  · split
    · exact hparse _
    · exact (Reads.readFile _).bind hparse
  · exact hparse _

/-- The lines that show a request. -/
def requestLines (built : Request) : List String := built.url :: built.headers.map headerLine

/-- Running a request prints the request for the query that its arguments stand for as a document,
after reading only. -/
theorem exists_run_runRequest (hcurrent : (readCurrent? around.home).result world = .ok current)
    (hbase : baseOf params.url current = .ok base)
    (hfilters : GivesFilters around world.volume params.filters loose) :
    ∃ later : World, later.output = world.output ∧
      (runRequest around params).run world
        = (printBuilt requestLines
            ((params.input loose).toQuery (dialectOf current).options (pageDefaultsOf current)
              >>= (dialectOf current).entityRequest base)).run later := by
  obtain ⟨houtput, hadds⟩ := reads_readCurrent? around.home world
  have hpure (world : World) : (pure base : Action String).result world = .ok base := rfl
  rw [← convertAll_queryOf, printBuilt_bind]
  unfold runRequest
  rw [run_bind hcurrent]
  dsimp only
  rw [hbase]
  dsimp only
  rw [run_bind (hpure _)]
  -- Without a file there are no filters, and nothing is read.
  cases hfile : params.filters with
  | none =>
    rw [hfile] at hfilters
    obtain rfl : loose = [] := hfilters
    refine ⟨_, houtput, ?_⟩
    rw [LooseFilter.convertAll, ofLogged_pure]
    rfl
  | some path =>
    rw [hfile] at hfilters
    have hread := result_readFilters (hfilters.of_adds hadds)
    obtain ⟨houtput', -⟩ :=
      reads_readFilters around (some path) ((readCurrent? around.home).after world)
    exact ⟨_, houtput'.trans houtput, run_bind hread⟩

end Run

/-! ## Arguments and documents

The service root comes from the context in use or from an argument, and the defaults come with it.
-/

/-- A call of `request` prints the request that was built, or fails with the error and reports
it. -/
structure Answers (around : Surroundings) (volume : Volume) (args : List String)
    (params : RequestParams) (built : Logged FilterError Request) : Prop where
  outcome : (call around volume args).1 = Outcome.ofRequest around.color built.result
  result : (runRequest around params).result { volume }
    = (built.result.map fun _ => ()).mapError Failure.filter

/-- A query has what the arguments say explicitly, whatever the defaults are. -/
structure Follows (params : RequestParams) (query : EntityQuery) : Prop where
  top : ∀ top, params.top = some top → query.top = top
  page : query.page = params.page
  useSkipTokens : ∀ flag, params.useSkipTokens = some flag → query.useSkipTokens = flag

section Answers

variable {around : Surroundings} {volume : Volume} {args : List String} {params : RequestParams}
  {loose : List LooseFilter} {current : Option Context} {base : String}

/-- A request is answered from the context in use and the service root. -/
theorem answers_of_current (hargs : ofArguments args = .ok (.request params))
    (hfilters : GivesFilters around volume params.filters loose)
    (hcurrent : (readCurrent? around.home).result { volume } = .ok current)
    (hbase : baseOf params.url current = .ok base) :
    Answers around volume args params
      ((params.input loose).toQuery (dialectOf current).options (pageDefaultsOf current)
        >>= (dialectOf current).entityRequest base) := by
  obtain ⟨later, houtput, hrun⟩ := exists_run_runRequest hcurrent hbase hfilters
  -- From here on it does not matter what was built.
  generalize (params.input loose).toQuery (dialectOf current).options (pageDefaultsOf current)
    >>= (dialectOf current).entityRequest base = built at hrun ⊢
  have hresult : (runRequest around params).result { volume }
      = (printBuilt requestLines built).result later := by
    rw [result, hrun, result]
  refine ⟨?_, hresult.trans (result_printBuilt built later)⟩
  rw [call_of_printBuilt hargs houtput hrun]
  cases built.result with
  | ok request => rfl
  | error e => rfl

/-- The query of the arguments has what they say. -/
theorem follows_queryOf (params : RequestParams) (defaults : PageDefaults)
    (filters : List Filter) : Follows params (queryOf params defaults filters) := by
  rw [queryOf_eq]
  refine ⟨fun top htop => ?_, rfl, fun flag hflag => ?_⟩
  · rw [htop]
    rfl
  · rw [hflag]
    rfl

/-- The query of the document has what the arguments say. -/
theorem follows_toQuery {options : CompileOptions} {defaults : PageDefaults} {query : EntityQuery}
    (h : ((params.input loose).toQuery options defaults).result = .ok query) :
    Follows params query := by
  obtain ⟨filters, -, hquery⟩ := Logged.result_bind_eq_ok.mp h
  have hqueryOf : query = queryOf params defaults filters := by
    rw [queryOf_eq]
    exact (Except.ok.inj hquery).symm
  rw [hqueryOf]
  exact follows_queryOf params defaults filters

/-- A context that asks for pages of 25 with skip tokens. -/
def tokenContext : Context where
  name := "a"
  base := "https://one.example"
  pageSize := 25
  useSkipTokens := true

/-- A condition in loose form. -/
def filtersText : String :=
  "[\x7b\"field\":\"name\",\"comparator\":\"StringEquals\",\"value\":\"it's\"\x7d]"

/-- The context is in use, and there is a file with the filter. -/
def tokenVolume : Volume where
  entries :=
    [(["home", ".cache", "rusty-odata", "cache", "v1", "context"], .directory),
     (["home", ".cache", "rusty-odata", "cache", "v1", "context", "context_a.json"],
      .file tokenContext.toText),
     (["home", ".cache", "rusty-odata", "cache", "v1", "current_context"], .directory),
     (["home", ".cache", "rusty-odata", "cache", "v1", "current_context", "current_context"],
      .file (Json.text "a").toText),
     (["home"], .directory),
     (["home", ".cache"], .directory),
     (["home", ".cache", "rusty-odata"], .directory),
     (["home", ".cache", "rusty-odata", "cache"], .directory),
     (["home", ".cache", "rusty-odata", "cache", "v1"], .directory),
     (["filters.json"], .file filtersText)]

end Answers

end Command

end ODataQuery
