/-!
# Argument grammars

Arguments fill the parameters of a command: operands by their order, options by their names. They
are taken one after the other (`Parse.take`), and the first one that does not fit, or that asks for
the version or for help, ends the reading.

An option is written `--name`, and its value either follows it or is attached as `--name=value`. An
option with a short name is also written `-n`, with its value behind it or attached as `-nvalue` or
`-n=value`. A value that follows must not begin with a dash, unless the dash is all of it. After
`--` every argument is an operand.
-/

namespace ODataQuery.Command

/-- Why reading arguments ends without a command. -/
inductive Stop where
  | usage
  | version
  | help
deriving DecidableEq, Repr

/-- What an option does to the parameters. A value that is refused leaves nothing. -/
inductive Effect (ρ : Type) where
  /-- The option stands alone. -/
  | flag (set : ρ → ρ)
  /-- The option needs a value. -/
  | value (set : ρ → String → Option ρ)
  /-- The option stands alone or has an attached value. -/
  | attachable (alone : ρ → ρ) (set : ρ → String → Option ρ)
  /-- The option ends the reading. -/
  | stop (reason : Stop)

/-- An option of a command. -/
structure OptionRule (ρ : Type) where
  long : String
  short : Option Char := none
  required : Bool := false
  repeatable : Bool := false
  effect : Effect ρ

/-- An operand of a command. Required operands come first. -/
structure OperandRule (ρ : Type) where
  required : Bool := true
  set : ρ → String → Option ρ

/-- Which arguments a command takes. -/
structure Grammar (ρ : Type) where
  operands : List (OperandRule ρ) := []
  options : List (OptionRule ρ) := []

/-- The arguments read so far. -/
structure Parse (ρ : Type) where
  params : ρ
  /-- The operands that are still to come. -/
  operands : List (OperandRule ρ)
  /-- The options that were given. -/
  given : List String := []
  /-- What to do with the value that has to follow. -/
  pending : Option (ρ → String → Option ρ) := none
  /-- Whether only operands follow. -/
  ended : Bool := false

variable {ρ : Type}

/-- The options that every command has. -/
def commonOptions : List (OptionRule ρ) :=
  [{ long := "version", short := some 'V', effect := .stop .version },
   { long := "help", short := some 'h', effect := .stop .help }]

/-- All options of a command. -/
def Grammar.allOptions (grammar : Grammar ρ) : List (OptionRule ρ) :=
  grammar.options ++ commonOptions

/-- Whether an argument cannot be a value that follows an option. -/
def looksLikeOption (arg : List Char) : Bool := arg.head? = some '-' && arg.length ≠ 1

/-- Splits a text at the first `=`. -/
def splitAtEquals (text : List Char) : List Char × Option (List Char) :=
  match text.dropWhile (· ≠ '=') with
  | [] => (text, none)
  | _ :: value => (text.takeWhile (· ≠ '='), some value)

/-- What is attached to a short option. -/
def attachedToShort : List Char → Option (List Char)
  | [] => none
  | '=' :: value => some value
  | value => some value

namespace Parse

/-- Changes the parameters, unless a value is refused. -/
def fill (parse : Parse ρ) (params : Option ρ) : Except Stop (Parse ρ) :=
  match params with
  | some params => .ok { parse with params }
  | none => .error .usage

/-- Takes an option with the value attached to it, if there is one. -/
def takeOption (parse : Parse ρ) (option : OptionRule ρ) (value : Option String) :
    Except Stop (Parse ρ) :=
  if option.long ∈ parse.given ∧ !option.repeatable then .error .usage
  else
    let parse := { parse with given := option.long :: parse.given }
    match option.effect, value with
    | .stop reason, none => .error reason
    | .flag set, none => .ok { parse with params := set parse.params }
    | .stop _, some _ | .flag _, some _ => .error .usage
    | .value set, none => .ok { parse with pending := some set }
    | .attachable alone _, none => .ok { parse with params := alone parse.params }
    | .value set, some value | .attachable _ set, some value =>
      parse.fill (set parse.params value)

/-- Takes an operand. -/
def takeOperand (parse : Parse ρ) (value : String) : Except Stop (Parse ρ) :=
  match parse.operands with
  | [] => .error .usage
  | operand :: operands => { parse with operands }.fill (operand.set parse.params value)

/-- Takes an option with a long name. -/
def takeLong (grammar : Grammar ρ) (parse : Parse ρ) (text : List Char) :
    Except Stop (Parse ρ) :=
  let (name, value) := splitAtEquals text
  match grammar.allOptions.find? fun option => option.long.toList == name with
  | some option => parse.takeOption option (value.map String.ofList)
  | none => .error .usage

/-- Takes an option with a short name. What follows the letter is its value; an option that ends
the reading does so whatever follows. -/
def takeShort (grammar : Grammar ρ) (parse : Parse ρ) (letter : Char) (text : List Char) :
    Except Stop (Parse ρ) :=
  match grammar.allOptions.find? fun option => option.short == some letter with
  | some { effect := .stop reason, .. } => .error reason
  | some option => parse.takeOption option ((attachedToShort text).map String.ofList)
  | none => .error .usage

/-- Takes one argument. -/
def take (grammar : Grammar ρ) (parse : Parse ρ) (arg : String) : Except Stop (Parse ρ) :=
  match parse.pending with
  | some set =>
    if looksLikeOption arg.toList then .error .usage
    else { parse with pending := none }.fill (set parse.params arg)
  | none =>
    if parse.ended then parse.takeOperand arg
    else match arg.toList with
      | ['-', '-'] => .ok { parse with ended := true }
      | '-' :: '-' :: text => parse.takeLong grammar text
      | '-' :: letter :: text => parse.takeShort grammar letter text
      | _ => parse.takeOperand arg

/-- The parameters, if nothing is missing. -/
def finish (grammar : Grammar ρ) (parse : Parse ρ) : Except Stop ρ :=
  let missing := grammar.options.any fun option => option.required && option.long ∉ parse.given
  if parse.pending.isSome ∨ parse.operands.any (·.required) ∨ missing then .error .usage
  else .ok parse.params

end Parse

/-- Reads the arguments of a command, whose parameters are `blank` in the beginning. -/
def Grammar.read (grammar : Grammar ρ) (blank : ρ) (args : List String) : Except Stop ρ := do
  let parse ← args.foldlM (Parse.take grammar) { params := blank, operands := grammar.operands }
  parse.finish grammar

end ODataQuery.Command
