import ODataQuery.Filter.Loose
import ODataQuery.Json.Decode

/-!
# Reading filters and options from JSON

The records that present compile options and filters in loose form. A filter refuses every member
that it does not know, so that no misspelt condition is ever dropped; options skip what they do
not know.
-/

namespace ODataQuery

open Json

namespace CompileOptions

/-- The record that presents compile options. -/
def form : RecordForm where
  name := "CompileOptions"
  fields := [.optional "legacy_contains_fallback", .optional "reject_empty_multi_select"]
  strict := false

/-- Fills one field. -/
def setField (options : CompileOptions) (key : String) (value : Json) :
    Except Fault CompileOptions :=
  match key with
  | "legacy_contains_fallback" => return { options with legacyContainsFallback := ← asBool value }
  | "reject_empty_multi_select" => return { options with rejectEmptyMultiSelect := ← asBool value }
  | _ => return options

/-- Reads compile options. -/
def read : Reader CompileOptions := fun presentation room =>
  form.decode presentation room {} setField

end CompileOptions

namespace LooseFilter

/-- The record that presents a filter in loose form. -/
def form : RecordForm where
  name := "LooseFilter"
  fields :=
    [.optional "combinator", .optional "field", .optional "comparator", .optional "value",
     .optional "case_insensitive", .optional "multi_select_values", .optional "raw",
     .optional "collection_operator", .optional "group"]
  strict := true

/-- Fills one field of a filter inside which there is `room` for further nesting; `nested` reads
the filters of a group. -/
def setField (room : Nat) (nested : Json → Except Fault LooseFilter) (filter : LooseFilter)
    (key : String) (value : Json) : Except Fault LooseFilter :=
  match key with
  | "combinator" => return { filter with combinator := ← asOption asString value }
  | "field" => return { filter with field := ← asOption asString value }
  | "comparator" => return { filter with comparator := ← asOption asString value }
  | "value" => return { filter with value := ← asOption asString value }
  | "case_insensitive" => return { filter with caseInsensitive := ← asBool value }
  | "multi_select_values" =>
    return { filter with multiSelectValues := ← asOption (asList room asString) value }
  | "raw" => return { filter with raw := ← asOption asString value }
  | "collection_operator" => return { filter with quantifier := ← asOption asString value }
  | "group" => return { filter with group := ← asOption (asList room nested) value }
  | _ => return filter

/-- Reads a filter in loose form. A group nests two levels deeper: its list and its filters. -/
def read (presentation : Presentation) : (room : Nat) → Json → Except Fault LooseFilter
  | room + 2 =>
    form.decode presentation (room + 2) {} (setField (room + 1) (read presentation room))
  | room =>
    form.decode presentation room {} (setField (room - 1) fun _ => .error .malformed)

/-- Reads a list of filters in loose form. -/
def readAll : Reader (List LooseFilter) := fun presentation room =>
  asList room (read presentation (room - 1))

end LooseFilter

end ODataQuery
