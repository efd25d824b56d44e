import ODataQuery.Filter.Basic
import ODataQuery.Literal

/-!
# Filter expressions

The text of a filter tree. Conditions inside a quantified filter speak of the records of its
collection, so their fields are qualified with the variable of the quantifier; everything else in
a tree is written under the qualifier of its surroundings. Rendering is defined for every tree,
whether or not it is valid.
-/

namespace ODataQuery

/-- The variable of every quantifier. Quantifiers are not nested, so one name is enough. -/
def iterator : String := "i"

/-- What stands before the fields inside a quantified filter. -/
def iteratorQualifier : String := iterator ++ "/"

/-- The namespace of the functions on multi-select fields. -/
def vendorNamespace : String := "Microsoft.Dynamics.CRM"

/-- The test of the values chosen in a multi-select field. The values are arguments of a function
and not literals: they are quoted but not encoded. -/
def renderMultiSelect (negated : Bool) (field : String) (values : List String) : String :=
  vendorNamespace ++ "." ++ (if negated then "DoesNotContainValues" else "ContainValues")
    ++ "(PropertyName='" ++ field ++ "',PropertyValues=["
    ++ String.intercalate "," (values.map fun v => "'" ++ v ++ "'") ++ "])"

/-- The text of a condition on a field. -/
def Condition.render (qualifier : String) (condition : Condition) : String :=
  let textField := Literal.fieldRef qualifier condition.field condition.caseInsensitive
  let textValue := Literal.encode condition.value condition.caseInsensitive
  let field := qualifier ++ condition.field
  match condition.comparator.operation with
  | .call function => function ++ "(" ++ textField ++ "," ++ textValue ++ ")"
  | .text operator => textField ++ " " ++ operator ++ " " ++ textValue
  | .verbatim operator => field ++ " " ++ operator ++ " " ++ condition.value
  | .null operator => field ++ " " ++ operator ++ " null"
  | .choice negated => renderMultiSelect negated field condition.multiSelectValues

/-- `text` in parentheses. -/
def parenthesized (text : String) : String := "(" ++ text ++ ")"

/-- The text of a quantifier over a collection; `conditions` is the text of what it asks of the
records. -/
def quantify (field : String) (quantifier : Quantifier) (conditions : String) : String :=
  field ++ "/" ++ quantifier.token ++ "(" ++ iterator ++ ": " ++ conditions ++ ")"

mutual
/-- The text of a filter among its siblings, without its combinator. Function calls and raw text
stand as they are, everything else in parentheses. -/
def Filter.render (qualifier : String) : Filter → String
  | .raw _ text => text
  | .leaf _ condition =>
    if condition.comparator.isSelfDelimited then condition.render qualifier
    else parenthesized (condition.render qualifier)
  | .quantified _ field quantifier children =>
    parenthesized (quantify field quantifier (renderSiblings iteratorQualifier children))
  | .group _ children => parenthesized (renderSiblings qualifier children)

/-- The text of siblings. The first one has nothing to attach to. -/
def renderSiblings (qualifier : String) : List Filter → String
  | [] => ""
  | filter :: siblings => filter.render qualifier ++ renderAttached qualifier siblings

/-- The text of siblings that follow others. -/
def renderAttached (qualifier : String) : List Filter → String
  | [] => ""
  | filter :: siblings =>
    filter.combinator.token ++ filter.render qualifier ++ renderAttached qualifier siblings
end

/-- The text of a quantified filter without the parentheses around it. -/
def renderQuantified (field : String) (quantifier : Quantifier) (children : List Filter) :
    String :=
  quantify field quantifier (renderSiblings iteratorQualifier children)

end ODataQuery
