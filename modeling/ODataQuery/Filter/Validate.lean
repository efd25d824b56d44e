import ODataQuery.Filter.Basic
import ODataQuery.Filter.Error
import ODataQuery.Filter.Options
import ODataQuery.Log

/-!
# Validation

Checks a filter tree before it is rendered, in the order in which it is written. The first defect
ends the check; what is merely suspicious is logged.
-/

namespace ODataQuery

/-- Checks a condition on a field. -/
def Condition.check (options : CompileOptions) (condition : Condition) :
    Logged FilterError Unit := do
  if condition.field = "" then
    Logged.fail .missingField
  else if condition.comparator.isMultiSelect ∧ condition.multiSelectValues = [] then
    if options.rejectEmptyMultiSelect then Logged.fail (.emptyMultiSelect condition.field)
    else Logged.tell (.emptyMultiSelect condition.comparator condition.field)
  else if condition.comparator.requiresValue ∧ condition.value = "" then
    Logged.fail (.missingValue condition.field condition.comparator)
  else
    return ()

/-- Checks a quantified filter without its children. -/
def checkQuantified (enclosing : Option String) (field : String) (children : List Filter) :
    Except FilterError Unit :=
  match enclosing with
  | some outer => .error (.nestedQuantifier outer field)
  | none =>
    if field = "" then .error .missingField
    else if children.isEmpty then .error (.emptyQuantified field)
    else .ok ()

mutual
/-- Checks a filter; `enclosing` is the collection of the quantified filter around it, if any. -/
def Filter.check (options : CompileOptions) (enclosing : Option String) :
    Filter → Logged FilterError Unit
  | .raw _ text => if text = "" then Logged.fail (.invalidShape .emptyRaw) else return ()
  | .leaf _ condition => condition.check options
  | .quantified _ field _ children => do
    Logged.ofExcept (checkQuantified enclosing field children)
    checkSiblings options (some field) 0 children
  | .group _ children =>
    if children.isEmpty then Logged.fail .emptyGroup
    else checkSiblings options enclosing 0 children

/-- Checks siblings, the first of which has the given index among all of them. -/
def checkSiblings (options : CompileOptions) (enclosing : Option String) (index : Nat) :
    List Filter → Logged FilterError Unit
  | [] => return ()
  | filter :: siblings => do
    if 0 < index ∧ filter.combinator = .none then Logged.tell (.missingCombinator index)
    filter.check options enclosing
    checkSiblings options enclosing (index + 1) siblings
end

/-- Checks a list of filters. -/
def validate (options : CompileOptions) (filters : List Filter) : Logged FilterError Unit :=
  checkSiblings options none 0 filters

end ODataQuery
