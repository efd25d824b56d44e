import ODataQuery.Context

/-!
# Commands

What the command line can be asked to do.
-/

namespace ODataQuery

namespace Command

/-- A context to create. -/
structure ContextParams where
  name : String := ""
  url : String := ""
  version : String := defaultVersion
  maxVersion : String := defaultVersion
  pageSize : UInt32 := defaultTop
  useSkipTokens : Bool := false
  options : CompileOptions := {}
  /-- Whether the context is taken into use. -/
  use : Bool := false
deriving DecidableEq, Repr, Inhabited

/-- The context that is created. -/
def ContextParams.context (params : ContextParams) : Context where
  name := params.name
  base := trimSlashes params.url
  version := params.version
  maxVersion := params.maxVersion
  pageSize := params.pageSize
  useSkipTokens := params.useSkipTokens
  options := params.options

/-- A request to build. What is not given comes from the context in use. -/
structure RequestParams where
  collection : String := ""
  filters : Option String := none
  selects : List String := []
  orderBys : List String := []
  clauses : List String := []
  top : Option UInt32 := none
  page : UInt32 := 0
  useSkipTokens : Option Bool := none
  url : Option String := none
deriving DecidableEq, Repr, Inhabited

/-- A picklist to ask for. -/
structure PicklistParams where
  metadataId : String := ""
  attributeName : String := ""
  multiSelect : Bool := false
deriving DecidableEq, Repr, Inhabited

/-- A many-to-many relationship to follow from a record. -/
structure IntersectParams where
  collection : String := ""
  id : String := ""
  relationship : String := ""
deriving DecidableEq, Repr, Inhabited

/-- A record URL to take apart. -/
structure RecordParams where
  url : String := ""
  suffix : Option String := none
deriving DecidableEq, Repr, Inhabited

/-- Where a server listens, and to whom. -/
structure ServeParams where
  bind : String := "127.0.0.1:33334"
  allowOrigin : Option String := none
deriving DecidableEq, Repr, Inhabited

end Command

open Command

/-- What the command line can be asked to do. -/
inductive Command where
  | createContext (params : ContextParams)
  | useContext (name : Option String)
  | listContexts
  | filter (file : Option String)
  | request (params : RequestParams)
  | metadata (entity : String)
  | picklist (params : PicklistParams)
  | intersect (params : IntersectParams)
  | parseRecordUrl (params : RecordParams)
  | serve (params : ServeParams)
deriving DecidableEq, Repr, Inhabited

end ODataQuery
