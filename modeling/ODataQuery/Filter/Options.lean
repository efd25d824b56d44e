/-!
# Compile options

How strictly filters are taken.
-/

namespace ODataQuery

/-- Where a strict reading of filters is optional. -/
structure CompileOptions where
  /-- Reads unknown comparators as `contains`. -/
  legacyContainsFallback : Bool := false
  /-- Refuses conditions on multi-select fields that have no values. -/
  rejectEmptyMultiSelect : Bool := false
deriving DecidableEq, Repr, Inhabited

end ODataQuery
