import ODataQuery.Failure
import ODataQuery.Log

/-!
# Actions

What a command does besides computing: it reads and changes a volume, logs and prints. A failure
ends an action but keeps everything that it did before.
-/

namespace ODataQuery

/-- What actions work on. -/
structure World where
  volume : Volume
  log : List LogEntry := []
  /-- The lines that were printed. -/
  output : List String := []
deriving Repr, Inhabited

/-- A computation on a world that may fail. -/
abbrev Action := EStateM Failure World

namespace Action

variable {α : Type}

/-- Logs a message. -/
def tell (entry : LogEntry) : Action Unit :=
  modify fun world => { world with log := world.log ++ [entry] }

/-- Prints lines. -/
def printAll (lines : List String) : Action Unit :=
  modify fun world => { world with output := world.output ++ lines }

/-- Prints a line. -/
def print (line : String) : Action Unit := printAll [line]

/-- Takes over the result and the messages of a computation on filters. -/
def ofLogged (x : Logged FilterError α) : Action α := do
  modify fun world => { world with log := world.log ++ x.log }
  match x.result with
  | .ok a => return a
  | .error e => throw (.filter e)

/-- Takes over the result of reading a document. -/
def ofDocument (r : Except Json.Fault α) : Action α :=
  match r with
  | .ok a => return a
  | .error fault => throw (.document fault)

/-- Asks the volume. -/
def ofVolume (f : Volume → Except SystemError α) : Action α := do
  match f (← get).volume with
  | .ok a => return a
  | .error e => throw (.system e)

/-- Changes the volume. -/
def change (f : Volume → Except SystemError Volume) : Action Unit := do
  let volume ← ofVolume f
  modify fun world => { world with volume }

/-- The text of the file at the end of a path. -/
def readFile (path : String) : Action String := do
  match ← ofVolume (·.look path) with
  | .file text => return text
  | .directory => throw (.unreadable .isDirectory)

end Action

end ODataQuery
