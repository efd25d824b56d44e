import ODataQuery.Filter.Basic
import ODataQuery.Request.Paging

/-!
# Entity queries

What is asked of a collection of entities: which ones, which of their fields, in which order and
which page of them.
-/

namespace ODataQuery

/-- The page size where none is given. -/
def defaultTop : UInt32 := 100

/-- A query for entities of a collection. -/
structure EntityQuery where
  collection : String
  filters : List Filter := []
  /-- Parts of the query that are appended as they are. -/
  extraClauses : List String := []
  orderBys : List String := []
  selects : List String := []
  /-- The page size; zero leaves it to the server. -/
  top : UInt32 := defaultTop
  /-- The page, counted from zero. -/
  page : UInt32 := 0
  useSkipTokens : Bool := false
deriving Repr, Inhabited

namespace EntityQuery

/-- Adds a filter. -/
def filter (query : EntityQuery) (filter : Filter) : EntityQuery :=
  { query with filters := query.filters ++ [filter] }

/-- Adds a field to those that are wanted. -/
def select (query : EntityQuery) (field : String) : EntityQuery :=
  { query with selects := query.selects ++ [field] }

/-- Adds an order, which counts where the orders before it do not decide. -/
def orderBy (query : EntityQuery) (clause : String) : EntityQuery :=
  { query with orderBys := query.orderBys ++ [clause] }

/-- Adds a part that is appended as it is. -/
def clause (query : EntityQuery) (clause : String) : EntityQuery :=
  { query with extraClauses := query.extraClauses ++ [clause] }

/-- Asks for a page. -/
def atPage (query : EntityQuery) (top page : UInt32) : EntityQuery := { query with top, page }

/-- Chooses who keeps track of pages. -/
def withSkipTokens (query : EntityQuery) (useSkipTokens : Bool) : EntityQuery :=
  { query with useSkipTokens }

/-- The request for the page of a query. -/
def paging (query : EntityQuery) : Paging :=
  .ofPage query.top query.page query.useSkipTokens

end EntityQuery

end ODataQuery
