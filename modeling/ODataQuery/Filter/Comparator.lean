import ODataQuery.Filter.Keyword

/-!
# Comparators

The ways in which a condition compares a field. `operation` says how the text of a comparator looks;
the checks and the layout of a condition ask three further questions, each with a list of
comparators of its own.
-/

namespace ODataQuery

/-- How a field is compared. -/
inductive Comparator where
  | contains
  | startsWith
  | endsWith
  | numericEquals
  | numericNotEquals
  | dateTimeEquals
  | dateTimeNotEquals
  | stringEquals
  | stringNotEquals
  | greaterThan
  | greaterThanOrEqual
  | lessThan
  | lessThanOrEqual
  | isNull
  | isNotNull
  | multiSelectContains
  | multiSelectDoesNotContain
deriving DecidableEq, Repr, Inhabited

namespace Comparator

/-- What a comparator makes of its field and its values. -/
inductive Operation where
  /-- A function of the field and a string literal. -/
  | call (function : String)
  /-- An operator between the field and a string literal. -/
  | text (operator : String)
  /-- An operator between the field and a value that is written as it is. -/
  | verbatim (operator : String)
  /-- An operator between the field and `null`. -/
  | null (operator : String)
  /-- A test of the values chosen in a multi-select field. -/
  | choice (negated : Bool)
deriving DecidableEq, Repr

/-- The comparators, in the order in which names are looked up. -/
def all : List Comparator :=
  [.contains, .startsWith, .endsWith, .numericEquals, .numericNotEquals, .dateTimeEquals,
   .dateTimeNotEquals, .stringEquals, .stringNotEquals, .greaterThan, .greaterThanOrEqual,
   .lessThan, .lessThanOrEqual, .isNull, .isNotNull, .multiSelectContains,
   .multiSelectDoesNotContain]

/-- The name of a comparator. -/
def name : Comparator → String
  | .contains => "Contains"
  | .startsWith => "StartsWith"
  | .endsWith => "EndsWith"
  | .numericEquals => "NumericEquals"
  | .numericNotEquals => "NumericNotEquals"
  | .dateTimeEquals => "DateTimeEquals"
  | .dateTimeNotEquals => "DateTimeNotEquals"
  | .stringEquals => "StringEquals"
  | .stringNotEquals => "StringNotEquals"
  | .greaterThan => "GreaterThan"
  | .greaterThanOrEqual => "GreaterThanOrEqual"
  | .lessThan => "LessThan"
  | .lessThanOrEqual => "LessThanOrEqual"
  | .isNull => "IsNull"
  | .isNotNull => "IsNotNull"
  | .multiSelectContains => "MultiSelectContains"
  | .multiSelectDoesNotContain => "MultiSelectDoesNotContain"

/-- What each comparator writes. -/
def operation : Comparator → Operation
  | .contains => .call "contains"
  | .startsWith => .call "startswith"
  | .endsWith => .call "endswith"
  | .stringEquals => .text "eq"
  | .stringNotEquals => .text "ne"
  | .numericEquals | .dateTimeEquals => .verbatim "eq"
  | .numericNotEquals | .dateTimeNotEquals => .verbatim "ne"
  | .greaterThan => .verbatim "gt"
  | .greaterThanOrEqual => .verbatim "ge"
  | .lessThan => .verbatim "lt"
  | .lessThanOrEqual => .verbatim "le"
  | .isNull => .null "eq"
  | .isNotNull => .null "ne"
  | .multiSelectContains => .choice false
  | .multiSelectDoesNotContain => .choice true

/-- Whether the text is a function call, which needs no parentheses around it. -/
def isSelfDelimited : Comparator → Bool
  | .contains | .startsWith | .endsWith | .multiSelectContains | .multiSelectDoesNotContain => true
  | _ => false

/-- Whether the comparator tests the values of a multi-select field. -/
def isMultiSelect : Comparator → Bool
  | .multiSelectContains | .multiSelectDoesNotContain => true
  | _ => false

/-- Whether the comparator reads the single value of a condition. -/
def requiresValue (c : Comparator) : Bool :=
  !c.isMultiSelect && !(c matches .isNull | .isNotNull)

/-- The comparator with this name, in any spelling of a keyword. -/
def ofName? (name : String) : Option Comparator :=
  all.find? fun c => Keyword.fold c.name == Keyword.fold name

end Comparator

end ODataQuery
