import ODataQuery.Filter.Comparator

/-!
# Errors of filters

Why a filter cannot be compiled. An error names its cause; `FilterError.message` has the wording.
-/

namespace ODataQuery

/-- Why the parts of a filter do not go together. -/
inductive ShapeDefect where
  /-- Text of an expression stands beside parts of another kind of filter. -/
  | rawMixed
  /-- A quantifier without the collection it ranges over. -/
  | quantifierWithoutField
  /-- A group with parts of a condition on a field. -/
  | groupMixed
  /-- A quantifier without conditions. -/
  | quantifierWithoutGroup
  /-- None of the parts that say what kind of filter it is. -/
  | shapeless
  /-- Text of an expression that is empty. -/
  | emptyRaw
deriving DecidableEq, Repr

/-- Why a filter cannot be compiled. -/
inductive FilterError where
  | invalidShape (defect : ShapeDefect)
  | missingField
  | missingValue (field : String) (comparator : Comparator)
  | emptyMultiSelect (field : String)
  | unknownComparator (name : String)
  | unknownCombinator (name : String)
  | unknownQuantifier (name : String)
  | emptyQuantified (field : String)
  | emptyGroup
  | nestedQuantifier (outer inner : String)
deriving DecidableEq, Repr

/-- The wording of a defect. -/
def ShapeDefect.message : ShapeDefect → String
  | .rawMixed => "a raw filter cannot be mixed with other filter fields"
  | .quantifierWithoutField =>
    "a collection filter needs its navigation property in \x60field\x60"
  | .groupMixed =>
    "a filter group cannot also be a comparison, only \x60collection_operator\x60 and "
      ++ "\x60field\x60 may accompany it"
  | .quantifierWithoutGroup => "a collection operator needs a \x60group\x60"
  | .shapeless => "the filter has no \x60raw\x60, \x60field\x60 or \x60group\x60"
  | .emptyRaw => "a raw filter cannot be empty"

/-- The wording of an error. -/
def FilterError.message : FilterError → String
  | .invalidShape defect => "Invalid filter shape: " ++ defect.message
  | .missingField => "A filter is missing its field name"
  | .missingValue field comparator =>
    "The " ++ comparator.name ++ " filter on '" ++ field ++ "' has no value"
  | .emptyMultiSelect field => "The multi-select filter on '" ++ field ++ "' has no values"
  | .unknownComparator name => "Unknown comparator '" ++ name ++ "'"
  | .unknownCombinator name => "Unknown combinator '" ++ name ++ "'"
  | .unknownQuantifier name =>
    "Unknown collection operator '" ++ name ++ "', expected 'any' or 'all'"
  | .emptyQuantified field => "The collection filter on '" ++ field ++ "' has no conditions"
  | .emptyGroup => "A filter group has no conditions"
  | .nestedQuantifier outer inner =>
    "The collection filter on '" ++ inner ++ "' is nested inside the one on '" ++ outer
      ++ "', only one level of any/all is supported"

end ODataQuery
