import ODataQuery.Json.Document
import ODataQuery.Json.Fault

/-!
# Reading records from documents

Readers visit a tree in order and stop at its first fault. An array or object is entered only
while there is `room` for one more level of nesting; what is skipped may nest without bound.

A record is presented by an object, whose members may come in any order, or by an array of its
fields in their order.
-/

namespace ODataQuery.Json

/-- How a record comes in: as text, or as a value that was read before. The two differ in how an
array with too many items is refused: the rest of it is no part of the text of the record. -/
inductive Presentation where
  | text
  | value
deriving DecidableEq, Repr

/-! ## Scalars and lists

Each reader accepts one kind of value and refuses all others. -/

/-- Reads a text. -/
def asString : Json → Except Fault String
  | .string (some s) => .ok s
  | j => .error (j.refuse .string)

/-- Reads a truth value. -/
def asBool : Json → Except Fault Bool
  | .bool b => .ok b
  | j => .error (j.refuse .boolean)

/-- Reads a number of 32 bits. -/
def asWord (j : Json) : Except Fault UInt32 :=
  match j with
  | .number lexeme =>
    match Number.ofLexeme? lexeme with
    | some (.integer n) =>
      if 0 ≤ n ∧ n < UInt32.size then .ok (UInt32.ofNat n.toNat)
      else .error (.mismatch (.wordRange n))
    | _ => .error (j.refuse .word)
  | j => .error (j.refuse .word)

/-- Reads what may be absent: `null` stands for nothing. -/
def asOption {α : Type} (read : Json → Except Fault α) : Json → Except Fault (Option α)
  | .null => .ok none
  | j => (read j).map some

/-- Reads the items of an array one by one. -/
def readItems {α : Type} (read : Json → Except Fault α) : List Json → Except Fault (List α)
  | [] => .ok []
  | item :: items => do
    let first ← read item
    let rest ← readItems read items
    return first :: rest

/-- Reads an array. -/
def asList {α : Type} (room : Nat) (read : Json → Except Fault α) :
    Json → Except Fault (List α)
  | .array items closed =>
    if room = 0 then .error .malformed
    else do
      let values ← readItems read items
      if closed then return values else .error .malformed
  | j => .error (j.refuse .sequence)

/-! ## Records

All records are read in the same way, from an object or from an array. They differ in their fields
and in what they do about unknown keys. -/

/-- A field of a record, and where it must be present. -/
structure Field where
  name : String
  inObject : Bool
  inArray : Bool
deriving DecidableEq, Repr

/-- A field that may be missing everywhere. -/
def Field.optional (name : String) : Field := ⟨name, false, false⟩

/-- A field that must be present. -/
def Field.required (name : String) : Field := ⟨name, true, true⟩

/-- A field that may be missing among members but keeps its place in an array. -/
def Field.placed (name : String) : Field := ⟨name, false, true⟩

/-- The form of a record. A strict one refuses members that it does not know, any other skips
them. -/
structure RecordForm where
  name : String
  fields : List Field
  strict : Bool

namespace RecordForm

variable {ρ : Type}

/-- The names of the fields, in their order. -/
def keys (form : RecordForm) : List String := form.fields.map (·.name)

/-- Fills a record from members in their order. `seen` holds the fields that were filled, and the
answer says which ones were filled in the end. -/
def fillMembers (form : RecordForm) (set : ρ → String → Json → Except Fault ρ)
    (seen : List String) (record : ρ) :
    List (Option String × Json) → Except Fault (List String × ρ)
  | [] => .ok (seen, record)
  | (none, _) :: _ => .error .malformed
  | (some key, value) :: members =>
    if key ∈ form.keys then
      if key ∈ seen then .error (.mismatch (.duplicateField key))
      else do
        let record' ← set record key value
        fillMembers form set (key :: seen) record' members
    else if form.strict then .error (.mismatch (.unknownField key form.keys))
    else if value.complete then fillMembers form set seen record members
    else .error .malformed

/-- Fills a record from the items of an array, where `index` items went before and `fields` are the
fields that wait for one. The answer holds the items that no field waited for. -/
def fillItems (form : RecordForm) (set : ρ → String → Json → Except Fault ρ) (closed : Bool)
    (index : Nat) (record : ρ) : List Field → List Json → Except Fault (ρ × List Json)
  | [], items => .ok (record, items)
  | field :: fields, [] =>
    if !closed then .error .malformed
    else if field.inArray then
      .error (.mismatch (.tooFewItems index form.name form.fields.length))
    else fillItems form set closed (index + 1) record fields []
  | field :: fields, item :: items => do
    let record' ← set record field.name item
    fillItems form set closed (index + 1) record' fields items

/-- Reads a record, starting from `blank`; `set` fills the field of the given name. -/
def decode (form : RecordForm) (presentation : Presentation) (room : Nat) (blank : ρ)
    (set : ρ → String → Json → Except Fault ρ) : Json → Except Fault ρ
  | .object members closed =>
    if room = 0 then .error .malformed
    else do
      let (seen, record) ← form.fillMembers set [] blank members
      if !closed then .error .malformed
      else match form.fields.find? fun field => field.inObject && field.name ∉ seen with
        | some field => .error (.mismatch (.missingField field.name))
        | none => return record
  | .array items closed =>
    if room = 0 then .error .malformed
    else do
      let (record, rest) ← form.fillItems set closed 0 blank form.fields items
      match rest, presentation with
      | [], _ => if closed then return record else .error .malformed
      | _ :: _, .text => .error .malformed
      | _ :: _, .value => .error (.mismatch (.tooManyItems items.length))
  | j => .error (j.refuse (.record form.name))

end RecordForm

/-! ## Whole documents

Nothing but blanks may follow the value. -/

/-- Arrays and objects of a text may nest this deep. -/
def maxDepth : Nat := 127

/-- A reader of one kind of value, for either presentation. -/
abbrev Reader (α : Type) := Presentation → (room : Nat) → Json → Except Fault α

/-- Reads a whole text: nothing but blanks may follow the value. -/
def Reader.ofText {α : Type} (read : Reader α) (text : String) : Except Fault α := do
  let document := Document.ofText text
  let value ← read .text maxDepth document.root
  if document.ended then return value else .error .malformed

/-- Reads a value that was read before, whose nesting is not bounded and whose members are visited
by their keys. -/
def Reader.ofValue {α : Type} (read : Reader α) (j : Json) : Except Fault α :=
  read .value (j.depth + 1) j.sorted

end ODataQuery.Json
