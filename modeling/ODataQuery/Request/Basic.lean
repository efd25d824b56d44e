import ODataQuery.Filter.Compile
import ODataQuery.Request.EntityQuery

/-!
# Requests

The URL and the headers of a request for entities. The parts of a query always come in one order:
filter, selected fields, count, page, extra clauses, order. No part is escaped.
-/

namespace ODataQuery

/-- What is sent to a server. The headers ascend by their names. -/
structure Request where
  url : String
  headers : List (String × String)
deriving DecidableEq, Repr

/-- The protocol version where none is given. -/
def defaultVersion : String := "4.0"

/-- How a server is spoken to: the protocol versions and the options for filters. -/
structure Dialect where
  version : String := defaultVersion
  maxVersion : String := defaultVersion
  options : CompileOptions := {}
deriving DecidableEq, Repr, Inhabited

/-- A clause with its items between commas, which is left out if there are none. -/
def listClause (name : String) (items : List String) : Option String :=
  if items.isEmpty then none else some (name ++ String.intercalate "," items)

namespace Dialect

/-- The headers of every request. -/
def baseHeaders (dialect : Dialect) : List (String × String) :=
  [("OData-MaxVersion", dialect.maxVersion), ("OData-Version", dialect.version)]

/-- The clause with the filters, which is left out if they have no text. -/
def filterClause (dialect : Dialect) (filters : List Filter) :
    Logged FilterError (Option String) := do
  let text ← compile dialect.options filters
  return if text = "" then none else some ("$filter=" ++ text)

/-- The parts of a query besides its filter. -/
def laterParts (query : EntityQuery) : List String :=
  (listClause "$select=" query.selects).toList ++ ["$count=true"] ++ query.paging.queryParts
    ++ query.extraClauses ++ (listClause "$orderby=" query.orderBys).toList

/-- The request for a query at the service root `base`. -/
def entityRequest (dialect : Dialect) (base : String) (query : EntityQuery) :
    Logged FilterError Request := do
  let filter ← dialect.filterClause query.filters
  let parts := filter.toList ++ laterParts query
  let url := base ++ "/" ++ query.collection ++ "?" ++ String.intercalate "&" parts
  Logged.tell (.builtUrl url)
  return { url, headers := dialect.baseHeaders ++ query.paging.preferHeader.toList }

end Dialect

end ODataQuery
