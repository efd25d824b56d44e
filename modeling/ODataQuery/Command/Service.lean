import ODataQuery.Context

/-!
# The local server

A server that builds requests and filters for one context and sends nothing on. What is asked of it
has been read already: a body that cannot be read never gets here.
-/

namespace ODataQuery

/-- The record of a request. -/
def Request.toJson (request : Request) : Json :=
  .record
    [("url", .text request.url),
     ("headers", .record (request.headers.map fun (name, value) => (name, .text value)))]

/-- What a server keeps of its context. -/
structure Service where
  dialect : Dialect
  base : String
  /-- The paging of queries that do not choose their own. -/
  defaults : PageDefaults
deriving DecidableEq, Repr

/-- What is asked of a server. -/
inductive Ask where
  /-- Whether the server is there. -/
  | connection
  | request (input : QueryInput)
  | filter (filters : List LooseFilter)
deriving Repr

/-- An answer, and what is logged on the way to it. -/
structure Reply where
  status : Nat
  body : String
  log : List LogEntry := []
deriving DecidableEq, Repr

namespace Service

/-- The server of a context. -/
def ofContext (context : Context) : Service where
  dialect := context.dialect
  base := context.base
  defaults := context.pageDefaults

/-- Builds the request for a query. -/
def buildRequest (service : Service) (input : QueryInput) : Logged FilterError Request := do
  let query ← input.toQuery service.dialect.options service.defaults
  service.dialect.entityRequest service.base query

/-- Compiles filters. -/
def buildFilter (service : Service) (loose : List LooseFilter) : Logged FilterError String := do
  let filters ← LooseFilter.convertAll service.dialect.options loose
  compile service.dialect.options filters

/-- Answers with what was built. Every error is the fault of whoever asked. -/
def reply {α : Type} (toJson : α → Json) (built : Logged FilterError α) : Reply :=
  match built.result with
  | .ok a => { status := 200, body := (toJson a).toText, log := built.log }
  | .error e =>
    { status := 400, body := e.message, log := built.log ++ [.rejected e.message] }

/-- Answers what is asked. -/
def answer (service : Service) : Ask → Reply
  | .connection => { status := 200, body := "OK" }
  | .request input => reply Request.toJson (service.buildRequest input)
  | .filter loose =>
    reply (fun text => .record [("filter", .text text)]) (service.buildFilter loose)

end Service

end ODataQuery
