import ODataQuery.Command.Basic
import ODataQuery.Command.Grammar

/-!
# Arguments of the commands

Which arguments each command takes, and the command that a list of arguments stands for.
-/

namespace ODataQuery.Command

/-! ## Values

How the texts of arguments are read as values. -/

/-- The value of decimal digits. -/
def digits? (cs : List Char) : Option Nat :=
  if cs ≠ [] ∧ cs.all Char.isDigit then
    some (cs.foldl (fun n c => 10 * n + (c.toNat - '0'.toNat)) 0)
  else none

/-- Reads a number of 32 bits; a sign is allowed. -/
def word? (text : String) : Option UInt32 :=
  match text.toList with
  | '-' :: cs => if digits? cs = some 0 then some 0 else none
  | '+' :: cs => (digits? cs).bind bounded
  | cs => (digits? cs).bind bounded
where
  /-- The number, if it fits into 32 bits. -/
  bounded (n : Nat) : Option UInt32 := if n < UInt32.size then some (UInt32.ofNat n) else none

/-- Reads a truth value. -/
def truth? (text : String) : Option Bool :=
  if text = "true" then some true else if text = "false" then some false else none

/-- Reads a path, which is not empty. -/
def path? (text : String) : Option String := if text = "" then none else some text

/-- Reads items between commas. -/
def items (text : String) : List String := (text.toList.splitOn ',').map String.ofList

/-! ## Grammars

One table for each command: its operands in their order and its options by their names. -/

/-- The arguments of `create-context`. -/
def contextGrammar : Grammar ContextParams where
  operands := [{ set := fun p v => some { p with name := v } }]
  options :=
    [{ long := "url", required := true, effect := .value fun p v => some { p with url := v } },
     { long := "odata-version", effect := .value fun p v => some { p with version := v } },
     { long := "odata-max-version", effect := .value fun p v => some { p with maxVersion := v } },
     { long := "page-size",
       effect := .value fun p v => (word? v).map fun n => { p with pageSize := n } },
     { long := "skip-tokens", effect := .flag fun p => { p with useSkipTokens := true } },
     { long := "legacy-contains-fallback",
       effect := .flag fun p => { p with options.legacyContainsFallback := true } },
     { long := "strict-multi-select",
       effect := .flag fun p => { p with options.rejectEmptyMultiSelect := true } },
     { long := "use", effect := .flag fun p => { p with use := true } }]

/-- The arguments of `use-context`. -/
def useGrammar : Grammar (Option String) where
  operands := [{ required := false, set := fun _ v => some (some v) }]

/-- The arguments of `filter`. -/
def filterGrammar : Grammar (Option String) where
  operands := [{ required := false, set := fun _ v => (path? v).map some }]

/-- The arguments of `request`. -/
def requestGrammar : Grammar RequestParams where
  operands := [{ set := fun p v => some { p with collection := v } }]
  options :=
    [{ long := "filters", short := some 'f',
       effect := .value fun p v => (path? v).map fun v => { p with filters := some v } },
     { long := "select", short := some 's', repeatable := true,
       effect := .value fun p v => some { p with selects := p.selects ++ items v } },
     { long := "order-by", short := some 'o', repeatable := true,
       effect := .value fun p v => some { p with orderBys := p.orderBys ++ [v] } },
     { long := "query", short := some 'q', repeatable := true,
       effect := .value fun p v => some { p with clauses := p.clauses ++ [v] } },
     { long := "top", short := some 't',
       effect := .value fun p v => (word? v).map fun n => { p with top := some n } },
     { long := "page", short := some 'p',
       effect := .value fun p v => (word? v).map fun n => { p with page := n } },
     { long := "skip-tokens",
       effect := .attachable (fun p => { p with useSkipTokens := some true })
         fun p v => (truth? v).map fun b => { p with useSkipTokens := some b } },
     { long := "url", effect := .value fun p v => some { p with url := some v } }]

/-- The arguments of `metadata`. -/
def metadataGrammar : Grammar String where
  operands := [{ set := fun _ v => some v }]

/-- The arguments of `picklist`. -/
def picklistGrammar : Grammar PicklistParams where
  operands :=
    [{ set := fun p v => some { p with metadataId := v } },
     { set := fun p v => some { p with attributeName := v } }]
  options := [{ long := "multi-select", effect := .flag fun p => { p with multiSelect := true } }]

/-- The arguments of `intersect`. -/
def intersectGrammar : Grammar IntersectParams where
  operands :=
    [{ set := fun p v => some { p with collection := v } },
     { set := fun p v => some { p with id := v } },
     { set := fun p v => some { p with relationship := v } }]

/-- The arguments of `parse-guid`. -/
def recordGrammar : Grammar RecordParams where
  operands := [{ set := fun p v => some { p with url := v } }]
  options :=
    [{ long := "suffix", short := some 's',
       effect := .value fun p v => some { p with suffix := some v } }]

/-- The arguments of `serve`. -/
def serveGrammar : Grammar ServeParams where
  options :=
    [{ long := "bind", effect := .value fun p v => some { p with bind := v } },
     { long := "allow-origin",
       effect := .value fun p v => some { p with allowOrigin := some v } }]

/-! ## Commands

The name of the command decides how the other arguments are read. -/

/-- The commands by their names, each with the reader of its arguments. -/
def readers : List (String × (List String → Except Stop Command)) :=
  [("create-context", fun args => (contextGrammar.read {} args).map .createContext),
   ("use-context", fun args => (useGrammar.read none args).map .useContext),
   ("list-contexts", fun args => (Grammar.read {} () args).map fun _ => .listContexts),
   ("filter", fun args => (filterGrammar.read none args).map .filter),
   ("request", fun args => (requestGrammar.read {} args).map .request),
   ("metadata", fun args => (metadataGrammar.read "" args).map .metadata),
   ("picklist", fun args => (picklistGrammar.read {} args).map .picklist),
   ("intersect", fun args => (intersectGrammar.read {} args).map .intersect),
   ("parse-guid", fun args => (recordGrammar.read {} args).map .parseRecordUrl),
   ("serve", fun args => (serveGrammar.read {} args).map .serve)]

/-- The names of the commands. -/
def names : List String := readers.map (·.1)

/-- What `help` was asked about decides whether there is any. -/
def readHelp : List String → Stop
  | [] => .help
  | [name] => if name ∈ names ∨ name = "help" then .help else .usage
  | _ => .usage

/-- The command that arguments stand for, or else why there is none and the name of the command
that the arguments were meant for. -/
def ofArguments : List String → Except (Option String × Stop) Command
  | [] => .error (none, .usage)
  | name :: args =>
    match readers.lookup name with
    | some read => (read args).mapError fun stop => (some name, stop)
    | none =>
      if name = "help" then .error (none, readHelp args)
      else match name.toList with
        | '-' :: 'V' :: _ => .error (none, .version)
        | '-' :: 'h' :: _ => .error (none, .help)
        | _ =>
          if name = "--version" then .error (none, .version)
          else if name = "--help" then .error (none, .help)
          else .error (none, .usage)

end ODataQuery.Command
