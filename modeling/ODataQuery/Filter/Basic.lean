import ODataQuery.Filter.Comparator
import ODataQuery.Filter.Connective

/-!
# Filter trees

A filter is a condition on records. Every list of filters holds siblings, each of which says how it
attaches to the one before it; the combinator of a first sibling has no meaning.
-/

namespace ODataQuery

/-- One condition on a field. Only comparators of multi-select fields read `multiSelectValues`,
whose order is kept; the others read `value`, if they read one at all. -/
structure Condition where
  field : String
  comparator : Comparator := .contains
  value : String := ""
  caseInsensitive : Bool := false
  multiSelectValues : List String := []
deriving DecidableEq, Repr, Inhabited

/-- A condition on records: text of an expression, a condition on a field, a condition on the
records of the collection `field`, or siblings in parentheses. -/
inductive Filter where
  | raw (combinator : Combinator) (text : String)
  | leaf (combinator : Combinator) (condition : Condition)
  | quantified (combinator : Combinator) (field : String) (quantifier : Quantifier)
      (children : List Filter)
  | group (combinator : Combinator) (children : List Filter)
deriving Repr, Inhabited

namespace Filter

/-- How the filter attaches to the sibling before it. -/
def combinator : Filter → Combinator
  | .raw c _ | .leaf c _ | .quantified c _ _ _ | .group c _ => c

/-- The same filter, attached in another way. -/
def withCombinator (c : Combinator) : Filter → Filter
  | .raw _ text => .raw c text
  | .leaf _ condition => .leaf c condition
  | .quantified _ field quantifier children => .quantified c field quantifier children
  | .group _ children => .group c children

/-- The same filter without regard to letter case, if it is a condition on a field. -/
def ignoringCase : Filter → Filter
  | .leaf c condition => .leaf c { condition with caseInsensitive := true }
  | f => f

/-! ## Filters that stand first

Shorthands for filters that no combinator attaches to others. -/

/-- Text of an expression. -/
def ofText (text : String) : Filter := .raw .none text

/-- Compares a field with a value. -/
def compare (field : String) (comparator : Comparator) (value : String) : Filter :=
  .leaf .none { field, comparator, value }

/-- The field has no value. -/
def isNull (field : String) : Filter := compare field .isNull ""

/-- The field has a value. -/
def isNotNull (field : String) : Filter := compare field .isNotNull ""

/-- One of the values is chosen in a multi-select field. -/
def choosing (field : String) (multiSelectValues : List String) : Filter :=
  .leaf .none { field, comparator := .multiSelectContains, multiSelectValues }

/-- None of the values is chosen in a multi-select field. -/
def notChoosing (field : String) (multiSelectValues : List String) : Filter :=
  .leaf .none { field, comparator := .multiSelectDoesNotContain, multiSelectValues }

/-- Some record of a collection meets the conditions. -/
def any (field : String) (children : List Filter) : Filter :=
  .quantified .none field .any children

/-- Every record of a collection meets the conditions. -/
def all (field : String) (children : List Filter) : Filter :=
  .quantified .none field .all children

/-- Siblings in parentheses. -/
def ofList (children : List Filter) : Filter := .group .none children

end Filter

end ODataQuery
