import ODataQuery.Filter.Comparator

/-!
# Log messages

What is worth telling besides a result. A computation that logs gives its messages together with
its result, so that an error keeps the messages before it.
-/

namespace ODataQuery

/-- How urgent a message is. -/
inductive LogLevel where
  | warn
  | info
  | debug
deriving DecidableEq, Repr

/-- The word for a level. -/
def LogLevel.name : LogLevel → String
  | .warn => "WARN"
  | .info => "INFO"
  | .debug => "DEBUG"

/-- What happened. -/
inductive LogEntry where
  | unknownComparator (name : String)
  | missingCombinator (index : Nat)
  | emptyMultiSelect (comparator : Comparator) (field : String)
  | compiled (count : Nat) (text : String)
  | builtUrl (url : String)
  | reading (kind path : String)
  | writing (kind path : String)
  | serving (context : String)
  | rejected (message : String)
deriving DecidableEq, Repr

namespace LogEntry

/-- The level of a message. -/
def level : LogEntry → LogLevel
  | .unknownComparator _ | .missingCombinator _ | .emptyMultiSelect _ _ | .rejected _ => .warn
  | .compiled _ _ | .builtUrl _ => .debug
  | .reading _ _ | .writing _ _ | .serving _ => .info

/-- The wording of a message. -/
def message : LogEntry → String
  | .unknownComparator name => "Unknown comparator '" ++ name ++ "', rendering it as Contains"
  | .missingCombinator index =>
    "Filter #" ++ toString index
      ++ " in its group has no combinator, it will be rendered right after the previous one"
  | .emptyMultiSelect comparator field =>
    "The " ++ comparator.name ++ " filter on '" ++ field
      ++ "' has no values, it will match everything or nothing"
  | .compiled count text => "Compiled " ++ toString count ++ " filter(s) into: " ++ text
  | .builtUrl url => "Built request URL: " ++ url
  | .reading kind path => "Reading " ++ kind ++ " from " ++ path
  | .writing kind path => "Writing " ++ kind ++ " to " ++ path
  | .serving context => "Serving requests for context " ++ context
  | .rejected message => "Rejected request: " ++ message

end LogEntry

/-- A result or an error, after messages. -/
structure Logged (ε α : Type) where
  log : List LogEntry
  result : Except ε α

namespace Logged

variable {ε α β : Type}

/-- A result without messages. -/
def pure (a : α) : Logged ε α := ⟨[], .ok a⟩

/-- An error without messages. -/
def fail (e : ε) : Logged ε α := ⟨[], .error e⟩

/-- One message. -/
def tell (entry : LogEntry) : Logged ε Unit := ⟨[entry], .ok ()⟩

/-- Goes on with the result; an error ends the computation and its log. -/
def bind (x : Logged ε α) (f : α → Logged ε β) : Logged ε β :=
  match x.result with
  | .ok a => ⟨x.log ++ (f a).log, (f a).result⟩
  | .error e => ⟨x.log, .error e⟩

instance : Monad (Logged ε) where
  pure := pure
  bind := bind

/-- A result without messages, or an error. -/
def ofExcept (r : Except ε α) : Logged ε α := ⟨[], r⟩

end Logged

end ODataQuery
