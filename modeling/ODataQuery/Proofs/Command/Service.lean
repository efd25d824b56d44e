import ODataQuery.Proofs.Command.Requests

/-!
# The local server and the command line

The server of a context and the commands `request` and `filter` build from the same parts, so they
agree on every query and every list of filters: what a call prints is what the server answers with,
and where a call fails the server refuses with the same message (`call_request_agrees`,
`call_filter_agrees`).
-/

namespace ODataQuery.Command

open Volume Store ODataQuery.Action

variable {around : Surroundings} {volume : Volume} {args : List String} {context : Context}
  {loose : List LooseFilter} {world : World}

/-- A call that succeeds prints what the server answers with, and a call that fails reports the
message of the refusal. -/
def Agrees {α : Type} (color : Bool) (lines : α → List String) (toJson : α → Json)
    (outcome : Outcome) (reply : Reply) : Prop :=
  (∃ a, outcome = { status := 0, output := unlines (lines a) } ∧
    reply.status = 200 ∧ reply.body = (toJson a).toText) ∨
  ∃ e : FilterError, outcome = { status := 1, errors := failureText color (.filter e) } ∧
    reply.status = 400 ∧ reply.body = e.message

/-- A call that does nothing but to print what was built agrees with the server. -/
theorem agrees_reply {α : Type} {color : Bool} {lines : α → List String} {toJson : α → Json}
    {outcome : Outcome} {built : Logged FilterError α}
    (houtcome : outcome = match built.result with
      | .ok a => { status := 0, output := unlines (lines a) }
      | .error e => { status := 1, errors := failureText color (.filter e) }) :
    Agrees color lines toJson outcome (Service.reply toJson built) := by
  subst houtcome
  rw [Service.reply]
  cases built.result with
  | ok a => exact .inl ⟨a, rfl, rfl, rfl⟩
  | error e => exact .inr ⟨e, rfl, rfl, rfl⟩

/-- A call of `request` without a URL agrees with the server of the context in use about the query
of the arguments. -/
theorem call_request_agrees {params : RequestParams}
    (hargs : ofArguments args = .ok (.request params)) (hurl : params.url = none)
    (hcurrent : (readCurrent? around.home).result { volume } = .ok (some context))
    (hfilters : GivesFilters around volume params.filters loose) :
    Agrees around.color requestLines Request.toJson (call around volume args).1
      ((Service.ofContext context).answer (.request (params.input loose))) := by
  have hbase : baseOf params.url (some context) = .ok context.base := by
    rw [hurl]
    rfl
  refine agrees_reply ((answers_of_current hargs hfilters hcurrent hbase).outcome.trans ?_)
  show Outcome.ofRequest around.color ((Service.ofContext context).buildRequest _).result = _
  cases ((Service.ofContext context).buildRequest (params.input loose)).result with
  | ok built => rfl
  | error e => rfl

/-- Compiling filters reads first, and then prints what the server builds. -/
theorem exists_run_runFilter {path : String}
    (hcurrent : (readCurrent? around.home).result world = .ok (some context))
    (hfilters : GivesFilters around world.volume (some path) loose) :
    ∃ later : World, later.output = world.output ∧
      (runFilter around (some path)).run world
        = (printBuilt (fun text => [text])
            ((Service.ofContext context).buildFilter loose)).run later := by
  obtain ⟨houtput, hadds⟩ := reads_readCurrent? around.home world
  have hread := result_readFilters (hfilters.of_adds hadds)
  obtain ⟨houtput', -⟩ :=
    reads_readFilters around (some path) ((readCurrent? around.home).after world)
  refine ⟨_, houtput'.trans houtput, ?_⟩
  rw [Service.buildFilter, printBuilt_bind, runFilter, run_bind hcurrent]
  exact run_bind hread

/-- A call of `filter` agrees with the server of the context in use about the filters of the
file. -/
theorem call_filter_agrees {path : String}
    (hargs : ofArguments args = .ok (.filter (some path)))
    (hcurrent : (readCurrent? around.home).result { volume } = .ok (some context))
    (hfilters : GivesFilters around volume (some path) loose) :
    Agrees around.color (fun text => [text]) (fun text => .record [("filter", .text text)])
      (call around volume args).1 ((Service.ofContext context).answer (.filter loose)) := by
  obtain ⟨later, houtput, hrun⟩ := exists_run_runFilter hcurrent hfilters
  exact agrees_reply (call_of_printBuilt hargs houtput hrun)

end ODataQuery.Command
