import ODataQuery.Filter.Basic
import ODataQuery.Filter.Error
import ODataQuery.Filter.Options
import ODataQuery.Log

/-!
# Filters in loose form

In its loose form a filter does not say what kind of filter it is: that follows from the parts that
are there. There are four shapes, and no part may be left over:

* text of an expression: `raw`;
* a quantified filter: `field`, `quantifier` and `group`;
* siblings in parentheses: `group`;
* a condition on a field: `field`, and any part of the comparison.

A list is converted in the order in which it is written and the first defect ends the conversion.
-/

namespace ODataQuery

/-- A filter as a request presents it. Names are in any spelling of a keyword, and an empty `raw`
counts as absent. -/
structure LooseFilter where
  combinator : Option String := none
  field : Option String := none
  comparator : Option String := none
  value : Option String := none
  caseInsensitive : Bool := false
  multiSelectValues : Option (List String) := none
  raw : Option String := none
  quantifier : Option String := none
  group : Option (List LooseFilter) := none
deriving Repr, Inhabited

namespace LooseFilter

/-- The text of an expression, if there is one. -/
def rawText? (raw : Option String) : Option String := raw.filter (· ≠ "")

/-- Finds a combinator by its name; without a name there is none. -/
def readCombinator : Option String → Except FilterError Combinator
  | none => .ok .none
  | some name =>
    match Combinator.ofName? name with
    | some combinator => .ok combinator
    | none => .error (.unknownCombinator name)

/-- Finds a quantifier by its name. -/
def readQuantifier (name : String) : Except FilterError Quantifier :=
  match Quantifier.ofName? name with
  | some quantifier => .ok quantifier
  | none => .error (.unknownQuantifier name)

/-- Finds a comparator by its name; without a name it is `contains`. -/
def readComparator (options : CompileOptions) : Option String → Logged FilterError Comparator
  | none => return .contains
  | some name =>
    match Comparator.ofName? name with
    | some comparator => return comparator
    | none => do
      if options.legacyContainsFallback then
        Logged.tell (.unknownComparator name)
        return .contains
      else
        Logged.fail (.unknownComparator name)

mutual
/-- Converts a filter. -/
def convert (options : CompileOptions) : LooseFilter → Logged FilterError Filter
  | ⟨combinatorName, field, comparator, value, caseInsensitive, multiSelectValues, raw,
      quantifier, group⟩ => do
    let combinator ← Logged.ofExcept (readCombinator combinatorName)
    let comparison :=
      comparator.isSome || value.isSome || multiSelectValues.isSome || caseInsensitive
    match rawText? raw, group, quantifier with
    | some text, none, none =>
      if field.isSome || comparison then Logged.fail (.invalidShape .rawMixed)
      else return .raw combinator text
    | some _, _, _ => Logged.fail (.invalidShape .rawMixed)
    | none, some children, some name =>
      if comparison then Logged.fail (.invalidShape .groupMixed)
      else match field with
        | none => Logged.fail (.invalidShape .quantifierWithoutField)
        | some field => do
          let quantifier ← Logged.ofExcept (readQuantifier name)
          return .quantified combinator field quantifier (← convertAll options children)
    | none, some children, none =>
      if field.isSome || comparison then Logged.fail (.invalidShape .groupMixed)
      else return .group combinator (← convertAll options children)
    | none, none, some _ => Logged.fail (.invalidShape .quantifierWithoutGroup)
    | none, none, none =>
      match field with
      | none => Logged.fail (.invalidShape .shapeless)
      | some field => do
        let comparator ← readComparator options comparator
        return .leaf combinator
          { field, comparator, value := value.getD "", caseInsensitive,
            multiSelectValues := multiSelectValues.getD [] }

/-- Converts the filters of a list. -/
def convertAll (options : CompileOptions) : List LooseFilter → Logged FilterError (List Filter)
  | [] => return []
  | filter :: filters => do
    let first ← filter.convert options
    let rest ← convertAll options filters
    return first :: rest
end

end LooseFilter

end ODataQuery
