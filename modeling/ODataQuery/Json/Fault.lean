import ODataQuery.Json.Basic
import ODataQuery.Json.Number
import ODataQuery.Text.Quoted

/-!
# Faults of a document

Why a document does not present what it should: its text is no JSON (`malformed`), or it says
something else than expected (`Mismatch`).
-/

namespace ODataQuery.Json

/-- What stands where something else was expected. -/
inductive Found where
  | null
  | boolean (b : Bool)
  | integer (n : Int)
  | float (text : String)
  | string (s : String)
  | sequence
  | map
deriving DecidableEq, Repr

/-- What is expected. -/
inductive Expected where
  | string
  | boolean
  | sequence
  | word
  | record (name : String)
deriving DecidableEq, Repr

/-- How a well-formed document differs from what is expected. -/
inductive Mismatch where
  | type (found : Found) (expected : Expected)
  | wordRange (n : Int)
  | unknownField (key : String) (known : List String)
  | duplicateField (key : String)
  | missingField (key : String)
  | tooFewItems (count : Nat) (record : String) (size : Nat)
  | tooManyItems (count : Nat)
deriving DecidableEq, Repr

/-- Why a document cannot be used. -/
inductive Fault where
  | malformed
  | mismatch (m : Mismatch)
deriving DecidableEq, Repr

/-! ## Messages

The wording of each fault. -/

/-- `name` between backquotes. -/
def backquoted (name : String) : String := "\x60" ++ name ++ "\x60"

/-- How a found value is described. -/
def Found.message : Found → String
  | .null => "null"
  | .boolean b => "boolean " ++ backquoted (if b then "true" else "false")
  | .integer n => "integer " ++ backquoted (toString n)
  | .float text => "floating point " ++ backquoted text
  | .string s => "string " ++ Quoted.quote s
  | .sequence => "sequence"
  | .map => "map"

/-- How an expectation is described. -/
def Expected.message : Expected → String
  | .string => "a string"
  | .boolean => "a boolean"
  | .sequence => "a sequence"
  | .word => "u32"
  | .record name => "struct " ++ name

/-- The wording of a mismatch. -/
def Mismatch.message : Mismatch → String
  | .type found expected => "invalid type: " ++ found.message ++ ", expected " ++ expected.message
  | .wordRange n => "invalid value: integer " ++ backquoted (toString n) ++ ", expected u32"
  | .unknownField key known =>
    "unknown field " ++ backquoted key ++ ", expected one of "
      ++ String.intercalate ", " (known.map backquoted)
  | .duplicateField key => "duplicate field " ++ backquoted key
  | .missingField key => "missing field " ++ backquoted key
  | .tooFewItems count record size =>
    "invalid length " ++ toString count ++ ", expected struct " ++ record ++ " with "
      ++ toString size ++ " elements"
  | .tooManyItems count =>
    "invalid length " ++ toString count ++ ", expected fewer elements in array"

/-! ## Refusal

What a reader says of a value that it does not accept. -/

/-- The fault of a value that is not what is expected. A value that cannot be read at all is no
JSON in the first place: a broken one, a string that holds no text, a number without a value. -/
def refuse (expected : Expected) : Json → Fault
  | .null => .mismatch (.type .null expected)
  | .bool b => .mismatch (.type (.boolean b) expected)
  | .number lexeme =>
    match Number.ofLexeme? lexeme with
    | some (.integer n) => .mismatch (.type (.integer n) expected)
    | some (.float x) => .mismatch (.type (.float (Number.floatFormat.writeFloat x)) expected)
    | none => .malformed
  | .string (some s) => .mismatch (.type (.string s) expected)
  | .string none => .malformed
  | .array _ _ => .mismatch (.type .sequence expected)
  | .object _ _ => .mismatch (.type .map expected)
  | .broken => .malformed

end ODataQuery.Json
