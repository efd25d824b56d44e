import ODataQuery.Filter.Keyword

/-!
# Combinators and quantifiers

A combinator attaches a filter to the sibling before it; a quantifier ranges over the records of a
collection.
-/

namespace ODataQuery

/-- How a filter attaches to the sibling before it. -/
inductive Combinator where
  | none
  | and
  | or
  | not
  | andNot
  | orNot
deriving DecidableEq, Repr, Inhabited

namespace Combinator

/-- The text between two siblings. -/
def token : Combinator → String
  | .none => ""
  | .and => " and "
  | .or => " or "
  | .not => " not "
  | .andNot => " and not "
  | .orNot => " or not "

/-- The keywords of the combinators. -/
def keywords : List (String × Combinator) :=
  [("", .none), ("none", .none), ("and", .and), ("or", .or), ("not", .not), ("andnot", .andNot),
   ("ornot", .orNot)]

/-- The combinator with this name, in any spelling of a keyword. -/
def ofName? (name : String) : Option Combinator :=
  (keywords.find? fun k => k.1.toList == Keyword.fold name).map (·.2)

end Combinator

/-- How many records of a collection must meet a condition. -/
inductive Quantifier where
  | any
  | all
deriving DecidableEq, Repr, Inhabited

namespace Quantifier

/-- The word for a quantifier in a filter expression. -/
def token : Quantifier → String
  | .any => "any"
  | .all => "all"

/-- The keywords of the quantifiers. -/
def keywords : List (String × Quantifier) := [("any", .any), ("all", .all)]

/-- The quantifier with this name, in any spelling of a keyword. -/
def ofName? (name : String) : Option Quantifier :=
  (keywords.find? fun k => k.1.toList == Keyword.fold name).map (·.2)

end Quantifier

end ODataQuery
