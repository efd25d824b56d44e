import ODataQuery.Filter.Error
import ODataQuery.Json.Fault
import ODataQuery.Store.Volume

/-!
# Failures

Everything that can end a command, with the text that reports it.
-/

namespace ODataQuery

/-- What a command cannot work with, although it was well-formed. -/
inductive CommandError where
  | invalidUrl (url : String)
  | noContexts
  | noContextInUse
  | noRecordId (url : String)
  | invalidOrigin (origin : String)
deriving DecidableEq, Repr

/-- The wording of an error. -/
def CommandError.message : CommandError → String
  | .invalidUrl url => "The url must start with http:// or https://, found '" ++ url ++ "'"
  | .noContexts => "There are no contexts yet, create one with odata create-context"
  | .noContextInUse => "No context in use, pass --url or run odata use-context"
  | .noRecordId url => "No id found in '" ++ url ++ "'"
  | .invalidOrigin origin => "'" ++ origin ++ "' is not a valid origin"

/-- Why a command fails. -/
inductive Failure where
  | filter (error : FilterError)
  | command (error : CommandError)
  /-- There is no home directory, and so no place for contexts. -/
  | noHome
  | system (error : SystemError)
  /-- Nothing could be read where a document should be. -/
  | unreadable (error : SystemError)
  | document (fault : Json.Fault)
  /-- A choice was left to somebody at a terminal, and there is none. -/
  | noTerminal
deriving DecidableEq, Repr

/-- The text that reports a fault of a document. -/
def Json.Fault.message : Json.Fault → String
  | .malformed => "the text is not JSON"
  | .mismatch m => m.message

/-- The text that reports a failure. -/
def Failure.message : Failure → String
  | .filter error => "Invalid filter:\n" ++ error.message
  | .command error => "Internal error:\n" ++ error.message
  | .noHome => "Could not find environment variable: \nenvironment variable not found"
  | .system error => "IO error:\n" ++ error.message
  | .unreadable error => "JSON error:\n" ++ error.message
  | .document fault => "JSON error:\n" ++ fault.message
  | .noTerminal => "Error reading data from stdin"

end ODataQuery
