import ODataQuery.Context
import ODataQuery.Store.Action

/-!
# Stored contexts

Contexts are kept in the cache folder of the home directory: one file for each, named after the
context, and one file with the name of the context in use. The folders are made when they are
needed for the first time, even for reading.
-/

namespace ODataQuery.Store

open Json

/-- The two kinds of things that are kept. -/
inductive Shelf where
  | contexts
  | current
deriving DecidableEq, Repr

/-- The name of the folder of a shelf. -/
def Shelf.name : Shelf → String
  | .contexts => "context"
  | .current => "current_context"

/-- The file of a context. -/
def contextFile (name : String) : String := "context_" ++ name ++ ".json"

/-- The file with the name of the context in use. -/
def currentFile : String := "current_context"

/-- The folder of a shelf below a home directory. -/
def folder (home : String) (shelf : Shelf) : String :=
  joinPath home (joinPath ".cache/rusty-odata/cache/v1" shelf.name)

/-- Makes sure that the folder of a shelf is there. -/
def openFolder (home : Option String) (shelf : Shelf) : Action String := do
  match home with
  | none => throw .noHome
  | some home =>
    let path := folder home shelf
    Action.change (·.makeDirectories path)
    return path

/-- Reads a file of a shelf. -/
def readEntry {α : Type} (home : Option String) (shelf : Shelf) (file : String)
    (read : Reader α) : Action α := do
  let path := joinPath (← openFolder home shelf) file
  Action.tell (.reading shelf.name path)
  let text ← Action.readFile path
  Action.ofDocument (read.ofText text)

/-- Writes a file of a shelf. -/
def writeEntry (home : Option String) (shelf : Shelf) (file text : String) : Action Unit := do
  let path := joinPath (← openFolder home shelf) file
  Action.tell (.writing shelf.name path)
  Action.change (·.write path text)

/-! ## Contexts

A context is stored as a document of its own, in a file named after it. -/

/-- Stores a context under its name. -/
def writeContext (home : Option String) (context : Context) : Action Unit :=
  writeEntry home .contexts (contextFile context.name) context.toText

/-- The context that is stored under a name. -/
def readContext (home : Option String) (name : String) : Action Context :=
  readEntry home .contexts (contextFile name) Context.read

/-- Every stored context. -/
def readContexts (home : Option String) : Action (List Context) := do
  let path ← openFolder home .contexts
  let files ← Action.ofVolume (·.list path)
  Action.ofDocument (files.mapM fun (_, text) => Context.read.ofText text)

/-! ## The context in use

Only the name is stored, so the context in use is read with two files. That there is none is told
from errors of the system. -/

/-- Reads the name of a context. -/
def readName : Reader String := fun _ _ => asString

/-- Stores which context is in use. -/
def writeCurrentName (home : Option String) (name : String) : Action Unit :=
  writeEntry home .current currentFile (Json.text name).toText

/-- The name of the context in use. -/
def readCurrentName (home : Option String) : Action String :=
  readEntry home .current currentFile readName

/-- The context in use. -/
def readCurrent (home : Option String) : Action Context := do
  readContext home (← readCurrentName home)

/-- Whether a failure says that no context was ever stored or chosen. -/
def isMissing : Failure → Bool
  | .system .notFound | .noHome => true
  | _ => false

/-- The context in use, if there is one. One that cannot be read is still a failure. -/
def readCurrent? (home : Option String) : Action (Option Context) := do
  try
    return some (← readCurrent home)
  catch failure =>
    if isMissing failure then return none else throw failure

end ODataQuery.Store
