import ODataQuery.Json.Writer
import ODataQuery.Request.Basic
import ODataQuery.Request.QueryInput

/-!
# Contexts

A context is a named endpoint with the defaults of requests to it. Its JSON form has all its
fields; a text that was written before there were compile options has none and reads as if it had
the default ones.
-/

namespace ODataQuery

open Json

/-- A URL without the slashes at its end. -/
def trimSlashes (url : String) : String :=
  String.ofList (url.toList.reverse.dropWhile (· = '/')).reverse

/-- A named endpoint and the defaults of requests to it. -/
structure Context where
  name : String
  /-- The service root, without a slash at its end. -/
  base : String
  version : String := defaultVersion
  maxVersion : String := defaultVersion
  pageSize : UInt32 := defaultTop
  useSkipTokens : Bool := false
  options : CompileOptions := {}
deriving DecidableEq, Repr, Inhabited

namespace Context

/-- The context of a service root with the usual defaults. -/
def ofUrl (name url : String) : Context := { name, base := trimSlashes url }

/-- How the server of a context is spoken to. -/
def dialect (context : Context) : Dialect where
  version := context.version
  maxVersion := context.maxVersion
  options := context.options

/-- How the server of a context is paged. -/
def pageDefaults (context : Context) : PageDefaults where
  top := context.pageSize
  useSkipTokens := context.useSkipTokens

/-! ## JSON form

The members stand in the order of the fields. Compile options are a record of their own. -/

/-- The record of a context. -/
def toJson (context : Context) : Json :=
  .record
    [("name", .text context.name),
     ("url_base", .text context.base),
     ("odata_version", .text context.version),
     ("odata_max_version", .text context.maxVersion),
     ("page_size", .nat context.pageSize.toNat),
     ("use_skip_tokens", .bool context.useSkipTokens),
     ("compile_options",
      .record
        [("legacy_contains_fallback", .bool context.options.legacyContainsFallback),
         ("reject_empty_multi_select", .bool context.options.rejectEmptyMultiSelect)])]

/-- The form of the record of a context. -/
def form : RecordForm where
  name := "Context"
  fields :=
    [.required "name", .required "url_base", .required "odata_version",
     .required "odata_max_version", .required "page_size", .required "use_skip_tokens",
     .optional "compile_options"]
  strict := false

/-- Fills one field of a context inside which there is `room` for further nesting. -/
def setField (presentation : Presentation) (room : Nat) (context : Context) (key : String)
    (value : Json) : Except Fault Context :=
  match key with
  | "name" => return { context with name := ← asString value }
  | "url_base" => return { context with base := ← asString value }
  | "odata_version" => return { context with version := ← asString value }
  | "odata_max_version" => return { context with maxVersion := ← asString value }
  | "page_size" => return { context with pageSize := ← asWord value }
  | "use_skip_tokens" => return { context with useSkipTokens := ← asBool value }
  | "compile_options" =>
    return { context with options := ← CompileOptions.read presentation room value }
  | _ => return context

/-- Reads a context. Its service root is taken as it is. -/
def read : Reader Context := fun presentation room =>
  form.decode presentation room { name := "", base := "" } (setField presentation (room - 1))

/-- The JSON text of a context. -/
def toText (context : Context) : String := context.toJson.toText

end Context

end ODataQuery
