import ODataQuery.Command.Arguments
import ODataQuery.Command.Service
import ODataQuery.Request.Companion
import ODataQuery.Request.RecordUrl
import ODataQuery.Store.Contexts

/-!
# Running commands

A command is an action on a volume. It prints lines, and a failure ends it; what it printed and
stored before the failure stays.
-/

namespace ODataQuery

/-- What a command finds around it. -/
structure Surroundings where
  home : Option String
  /-- The text on standard input. -/
  input : String := ""
  /-- Whether reports are coloured. -/
  color : Bool := false
deriving DecidableEq, Repr, Inhabited

/-! ## Styled text

Bold letters are codes in the text. A style that ends inside a bold text is followed by the bold one
again. -/

namespace Style

/-- Ends every style. -/
def reset : List Char := ['\x1b', '[', '0', 'm']

/-- Begins bold text. -/
def boldCode : List Char := ['\x1b', '[', '1', 'm']

/-- Begins the style again after every reset inside a text. -/
def renew (code : List Char) : List Char → List Char
  | '\x1b' :: '[' :: '0' :: 'm' :: rest => reset ++ code ++ renew code rest
  | c :: rest => c :: renew code rest
  | [] => []

/-- Bold text, if there are colours. -/
def bold (color : Bool) (text : String) : String :=
  if color then String.ofList (boldCode ++ renew boldCode text.toList ++ reset) else text

/-- Bold text, with or without colours. -/
def strong (text : String) : String :=
  String.ofList boldCode ++ text ++ String.ofList reset

end Style

namespace Command

/-! ## Contexts

The commands that store and show contexts. -/

/-- Whether a service root has one of the schemes that requests can use. -/
def hasScheme (url : String) : Bool :=
  "http://".toList.isPrefixOf url.toList || "https://".toList.isPrefixOf url.toList

/-- Takes a context into use. It is read first, so that there is one. -/
def runUseContext (home : Option String) (name : String) : Action Unit := do
  let context ← Store.readContext home name
  Store.writeCurrentName home context.name
  Action.print ("Switched to context " ++ Style.strong context.name ++ ".")

/-- Creates a context, in the place of one of its name. -/
def runCreateContext (home : Option String) (params : ContextParams) : Action Unit := do
  let context := params.context
  if !hasScheme context.base then throw (.command (.invalidUrl context.base))
  Store.writeContext home context
  Action.print ("Create new context " ++ Style.strong context.name ++ ".")
  if params.use then runUseContext home context.name
  else
    Action.print
      ("Switch to it by running " ++ Style.strong ("odata use-context " ++ context.name) ++ ".")

/-- Leaves the choice of a context to somebody at a terminal, if there are contexts at all. -/
def chooseContext (home : Option String) : Action String := do
  if (← Store.readContexts home).isEmpty then throw (.command .noContexts)
  else throw .noTerminal

/-- The line of a list that shows a context. -/
def contextLine (color : Bool) (current : Option String) (context : Context) : String :=
  (if current = some context.name then Style.bold color " * " else "   ")
    ++ Style.bold color context.name ++ ": " ++ context.base
    ++ " (OData " ++ context.version ++ ")"

/-- Lists the contexts. That none is in use is no failure. -/
def runListContexts (around : Surroundings) : Action Unit := do
  let current ←
    try some <$> Store.readCurrentName around.home
    catch _ => pure none
  let contexts ← Store.readContexts around.home
  Action.printAll ("Available contexts:" :: contexts.map (contextLine around.color current))

/-! ## Filters and requests

Both commands read filters in loose form; the defaults are those of the context in use, if there is
one. -/

/-- Whether a path stands for standard input: it is a dash, whatever blank steps follow. -/
def isStandardInput (path : String) : Bool :=
  match path.toList.splitOn '/' with
  | ['-'] :: rest => rest.all fun name => name = [] || name = ['.']
  | _ => false

/-- Reads filters in loose form from a file or from standard input. -/
def readFilters (around : Surroundings) (file : Option String) : Action (List LooseFilter) := do
  let text ←
    match file with
    | some path => if isStandardInput path then pure around.input else Action.readFile path
    | none => pure around.input
  Action.ofDocument (LooseFilter.readAll.ofText text)

/-- How the server of a context is spoken to, or the usual way. -/
def dialectOf (context : Option Context) : Dialect :=
  match context with
  | some context => context.dialect
  | none => {}

/-- The paging of a context, or the usual one. -/
def pageDefaultsOf (context : Option Context) : PageDefaults :=
  match context with
  | some context => context.pageDefaults
  | none => {}

/-- The service root that requests go to: the given one or that of the context. -/
def baseOf (url : Option String) (context : Option Context) : Except CommandError String :=
  match url, context with
  | some url, _ => .ok (trimSlashes url)
  | none, some context => .ok context.base
  | none, none => .error .noContextInUse

/-- Compiles filters. -/
def runFilter (around : Surroundings) (file : Option String) : Action Unit := do
  let dialect := dialectOf (← Store.readCurrent? around.home)
  let loose ← readFilters around file
  let filters ← Action.ofLogged (LooseFilter.convertAll dialect.options loose)
  let text ← Action.ofLogged (compile dialect.options filters)
  Action.print text

/-- The line that shows a header. -/
def headerLine (header : String × String) : String := header.1 ++ ": " ++ header.2

/-- The query of a request. It begins with the collection and is added to part by part. -/
def queryOf (params : RequestParams) (defaults : PageDefaults) (filters : List Filter) :
    EntityQuery :=
  let query : EntityQuery := { collection := params.collection }
  let query := query.atPage (params.top.getD defaults.top) params.page
  let query := query.withSkipTokens (params.useSkipTokens.getD defaults.useSkipTokens)
  let query := filters.foldl EntityQuery.filter query
  let query := params.selects.foldl EntityQuery.select query
  let query := params.orderBys.foldl EntityQuery.orderBy query
  params.clauses.foldl EntityQuery.clause query

/-- Builds a request. -/
def runRequest (around : Surroundings) (params : RequestParams) : Action Unit := do
  let context ← Store.readCurrent? around.home
  let base ←
    match baseOf params.url context with
    | .ok base => pure base
    | .error e => throw (.command e)
  let dialect := dialectOf context
  let defaults := pageDefaultsOf context
  let filters ←
    match params.filters with
    | none => pure []
    | some path => do
      let loose ← readFilters around (some path)
      Action.ofLogged (LooseFilter.convertAll dialect.options loose)
  let query := queryOf params defaults filters
  let request ← Action.ofLogged (dialect.entityRequest base query)
  Action.printAll (request.url :: request.headers.map headerLine)

/-! ## Companion URLs

URLs beside those of queries. Some of them lie below the service root of the context in use. -/

/-- Builds the URL of the definition of an entity. -/
def runMetadata (home : Option String) (entity : String) : Action Unit := do
  let context ← Store.readCurrent home
  Action.print (Companion.metadataUrl context.base entity)

/-- Builds the URL of a picklist. -/
def runPicklist (home : Option String) (params : PicklistParams) : Action Unit := do
  let context ← Store.readCurrent home
  Action.print
    (Companion.picklistUrl context.base params.metadataId params.attributeName params.multiSelect)

/-- Builds the path of a relationship. -/
def runIntersect (params : IntersectParams) : Action Unit :=
  Action.print (Companion.intersectPath params.collection params.id params.relationship)

/-- Takes the URL of a record apart. -/
def runParseRecordUrl (params : RecordParams) : Action Unit := do
  let record := RecordUrl.parse params.url params.suffix
  if record.id = "" then throw (.command (.noRecordId params.url))
  Action.print record.id
  Action.print record.base

/-! ## Serving

What is checked before the server listens, and the service with which it answers then. -/

/-- Whether an origin can stand in a header: it has no control characters but tabs. -/
def isOrigin (origin : String) : Bool :=
  origin.toList.all fun c => c = '\t' || (0x20 ≤ c.toNat && c.toNat ≠ 0x7F)

/-- Whether the text is a number of 16 bits; a plus sign is allowed. -/
def isAddressNumber (text : List Char) : Bool :=
  let cs := match text with
    | '+' :: cs => cs
    | cs => cs
  match digits? cs with
  | some n => n < UInt16.size
  | none => false

/-- Checks that a number stands behind the last colon of an address. -/
def checkAddress (address : String) : Except SystemError Unit :=
  let (number, host) := address.toList.reverse.span (· ≠ ':')
  if host = [] then .error .addressWithoutColon
  else if isAddressNumber number.reverse then .ok ()
  else .error .addressWithoutNumber

/-- Listens at an address, which is checked first, and says so. -/
def listen (address : String) : Action Unit :=
  match checkAddress address with
  | .ok () => Action.print ("Listening on http://" ++ address)
  | .error e => throw (.system e)

/-- Opens the local server of the context in use, which answers from then on. -/
def runServe (home : Option String) (params : ServeParams) : Action Service := do
  let context ← Store.readCurrent home
  Action.tell (.serving context.name)
  match params.allowOrigin with
  | some origin => if !isOrigin origin then throw (.command (.invalidOrigin origin))
  | none => pure ()
  listen params.bind
  return .ofContext context

/-! ## All commands

Each command runs with its own arguments. -/

/-- Runs a command. -/
def run (around : Surroundings) : Command → Action Unit
  | .createContext params => runCreateContext around.home params
  | .useContext (some name) => runUseContext around.home name
  | .useContext none => do runUseContext around.home (← chooseContext around.home)
  | .listContexts => runListContexts around
  | .filter file => runFilter around file
  | .request params => runRequest around params
  | .metadata entity => runMetadata around.home entity
  | .picklist params => runPicklist around.home params
  | .intersect params => runIntersect params
  | .parseRecordUrl params => runParseRecordUrl params
  | .serve params => do let _ ← runServe around.home params

end Command

end ODataQuery
