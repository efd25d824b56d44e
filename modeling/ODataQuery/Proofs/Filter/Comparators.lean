import ODataQuery.Filter.Comparator

/-!
# Classes of comparators

The inputs of a condition that its comparator reads depend on the class of the comparator: strings,
values that are written as they are, the missing value, and chosen values. The classes are lists
here, so that a statement about the conditions of one class names the comparators that it is about.
What `operation` writes for a comparator, and the questions that the checks and the layout ask about
it, are compared with the lists: each of them splits the comparators for itself, and the lemmas
below say that they all split them alike.
-/

namespace ODataQuery.Comparator

/-! ## The lists

Every comparator is in exactly one of the four lists. -/

/-- The comparators of strings. They read the value as text, with or without its letter case. -/
def texts : List Comparator := [.contains, .startsWith, .endsWith, .stringEquals, .stringNotEquals]

/-- The comparators of numbers and dates, which write the value as it is. -/
def verbatims : List Comparator :=
  [.numericEquals, .numericNotEquals, .dateTimeEquals, .dateTimeNotEquals, .greaterThan,
   .greaterThanOrEqual, .lessThan, .lessThanOrEqual]

/-- The comparators with the missing value, which read no value. -/
def nulls : List Comparator := [.isNull, .isNotNull]

/-- The comparators that test the values chosen in a multi-select field. -/
def choices : List Comparator := [.multiSelectContains, .multiSelectDoesNotContain]

variable {c : Comparator}

/-! ## What the comparators of a list write

The rendering splits the comparators by their operations. A proof about a text goes by these cases
too, and finds the list of the comparator in each of them. -/

/-- The comparators of strings write calls, and operators in front of a literal. -/
theorem mem_texts_iff : c ∈ texts ↔
    match c.operation with
    | .call _ | .text _ => True
    | .verbatim _ | .null _ | .choice _ => False := by
  cases c <;> simp [texts, operation]

/-- Just the comparators of numbers and dates write an operator in front of the value itself. -/
theorem mem_verbatims_iff : c ∈ verbatims ↔
    match c.operation with
    | .verbatim _ => True
    | .call _ | .text _ | .null _ | .choice _ => False := by
  cases c <;> simp [verbatims, operation]

/-- Just the comparators with the missing value write `null`. -/
theorem mem_nulls_iff : c ∈ nulls ↔
    match c.operation with
    | .null _ => True
    | .call _ | .text _ | .verbatim _ | .choice _ => False := by
  cases c <;> simp [nulls, operation]

/-- Just the comparators of chosen values write a test of them. -/
theorem mem_choices_iff : c ∈ choices ↔
    match c.operation with
    | .choice _ => True
    | .call _ | .text _ | .verbatim _ | .null _ => False := by
  cases c <;> simp [choices, operation]

/-- The functions that are called. -/
theorem function_mem {function : String} (h : c.operation = .call function) :
    function ∈ ["contains", "startswith", "endswith"] := by
  cases c <;> simp [operation] at h <;> simp [← h]

/-- The operators of comparisons. -/
theorem operator_mem {operator : String}
    (h : c.operation = .text operator ∨ c.operation = .verbatim operator ∨
      c.operation = .null operator) :
    operator ∈ ["eq", "ne", "gt", "ge", "lt", "le"] := by
  cases c <;> simp [operation] at h <;> simp [← h]

/-! ## What the checks and the layout ask

Each question has a list of comparators of its own in the program, and could come to disagree with
what is written. It does not: no parentheses stand around calls and tests of chosen values only, and
a value is asked for just where it is read. -/

/-- No parentheses are put around what is a call already. -/
theorem isSelfDelimited_eq : c.isSelfDelimited =
    match c.operation with
    | .call _ | .choice _ => true
    | .text _ | .verbatim _ | .null _ => false := by
  cases c <;> rfl

/-- Chosen values are asked for where they are read. -/
theorem isMultiSelect_iff : c.isMultiSelect = true ↔ c ∈ choices := by
  cases c <;> decide

/-- A value is asked for where it is read. -/
theorem requiresValue_iff : c.requiresValue = true ↔ c ∉ nulls ++ choices := by
  cases c <;> decide

/-- The value is read as text, or written as it is, or not read at all. -/
theorem requiresValue_iff_mem : c.requiresValue = true ↔ c ∈ texts ∨ c ∈ verbatims := by
  cases c <;> decide

end ODataQuery.Comparator
