import ODataQuery.Filter.LooseReader
import ODataQuery.Request.EntityQuery

/-!
# Queries in loose form

A query as a request presents it: its filters are in loose form, and the page size and the way of
paging may be left to defaults.
-/

namespace ODataQuery

open Json

/-- A query as a request presents it. -/
structure QueryInput where
  collection : String := ""
  filters : List LooseFilter := []
  extraClauses : List String := []
  orderBys : List String := []
  selects : List String := []
  top : Option UInt32 := none
  page : UInt32 := 0
  useSkipTokens : Option Bool := none
deriving Repr, Inhabited

/-- What a query takes where it does not say otherwise. -/
structure PageDefaults where
  top : UInt32 := defaultTop
  useSkipTokens : Bool := false
deriving DecidableEq, Repr, Inhabited

namespace QueryInput

/-- The query that the input stands for. -/
def toQuery (options : CompileOptions) (defaults : PageDefaults) (input : QueryInput) :
    Logged FilterError EntityQuery := do
  let filters ← LooseFilter.convertAll options input.filters
  return {
    collection := input.collection
    filters
    extraClauses := input.extraClauses
    orderBys := input.orderBys
    selects := input.selects
    top := input.top.getD defaults.top
    page := input.page
    useSkipTokens := input.useSkipTokens.getD defaults.useSkipTokens }

/-- The record that presents a query. -/
def form : RecordForm where
  name := "EntityQueryInput"
  fields :=
    [.required "collection", .optional "filters", .optional "extra_query_clauses",
     .optional "order_bys", .optional "selects", .placed "top", .optional "page",
     .placed "use_skip_tokens"]
  strict := true

/-- Fills one field of a query inside which there is `room` for further nesting. -/
def setField (presentation : Presentation) (room : Nat) (input : QueryInput) (key : String)
    (value : Json) : Except Fault QueryInput :=
  match key with
  | "collection" => return { input with collection := ← asString value }
  | "filters" => return { input with filters := ← LooseFilter.readAll presentation room value }
  | "extra_query_clauses" =>
    return { input with extraClauses := ← asList room asString value }
  | "order_bys" => return { input with orderBys := ← asList room asString value }
  | "selects" => return { input with selects := ← asList room asString value }
  | "top" => return { input with top := ← asOption asWord value }
  | "page" => return { input with page := ← asWord value }
  | "use_skip_tokens" => return { input with useSkipTokens := ← asOption asBool value }
  | _ => return input

/-- Reads a query in loose form. -/
def read : Reader QueryInput := fun presentation room =>
  form.decode presentation room {} (setField presentation (room - 1))

end QueryInput

end ODataQuery
