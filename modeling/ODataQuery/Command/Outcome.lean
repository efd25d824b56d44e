import ODataQuery.Command.Run

/-!
# Outcomes

What a call of the command line leaves behind: a status, what it printed, and a volume.
-/

namespace ODataQuery.Command

/-- The status of a call and what it wrote to standard output and standard error. -/
structure Outcome where
  status : Nat
  output : String := ""
  errors : String := ""
deriving DecidableEq, Repr, Inhabited

/-- The name of the program and its version. -/
def versionText (command : Option String) : String :=
  let name := match command with
    | some command => "rusty-odata-" ++ command
    | none => "rusty-odata"
  name ++ " 0.1.0\n"

/-- How the program is called. -/
def usageText : String :=
  "Usage: odata <COMMAND>\n\nCommands:\n"
    ++ String.join (names.map fun name => "  " ++ name ++ "\n")

/-- The outcome of arguments that are no command. -/
def Outcome.ofStop (command : Option String) : Stop → Outcome
  | .version => { status := 0, output := versionText command }
  | .help => { status := 0, output := usageText }
  | .usage => { status := 2, errors := "error: the arguments are no command\n\n" ++ usageText }

/-- Lines as they are written. -/
def unlines (lines : List String) : String := String.join (lines.map (· ++ "\n"))

/-- The report of a failure. -/
def failureText (color : Bool) (failure : Failure) : String :=
  let word := if color then "\x1b[1;31merror\x1b[0m" else "error"
  word ++ ": " ++ failure.message ++ "\n"

/-! ## What a call depends on

Standard input and files are read only if the arguments say so. -/

/-- Where the filters of a command are read from; nothing if it reads none. -/
def filterSource? : Command → Option (Option String)
  | .filter file => some file
  | .request params => params.filters.map some
  | _ => none

/-- The file of filters that the arguments name. -/
def filterFile? (args : List String) : Option String :=
  match ofArguments args with
  | .ok command => (filterSource? command).bind id
  | .error _ => none

/-- Whether the command of the arguments reads filters from standard input. -/
def readsInput (args : List String) : Bool :=
  match ofArguments args with
  | .ok command =>
    match filterSource? command with
    | some (some path) => isStandardInput path
    | some none => true
    | none => false
  | .error _ => false

/-! ## Calls

Reading the arguments comes first and touches nothing. -/

/-- Calls the command line. -/
def call (around : Surroundings) (volume : Volume) (args : List String) : Outcome × Volume :=
  match ofArguments args with
  | .error (command, stop) => (Outcome.ofStop command stop, volume)
  | .ok command =>
    match (command.run around).run { volume } with
    | .ok _ world => ({ status := 0, output := unlines world.output }, world.volume)
    | .error failure world =>
      ({ status := 1
         output := unlines world.output
         errors := failureText around.color failure }, world.volume)

end ODataQuery.Command
