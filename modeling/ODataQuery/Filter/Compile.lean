import ODataQuery.Filter.Render
import ODataQuery.Filter.Validate

/-!
# Compilation

The value of a `$filter` clause: the text of a list of filters that pass the check.
-/

namespace ODataQuery

/-- Checks filters and renders them. No filters have an empty text. -/
def compile (options : CompileOptions) (filters : List Filter) : Logged FilterError String := do
  validate options filters
  let text := renderSiblings "" filters
  Logged.tell (.compiled filters.length text)
  return text

end ODataQuery
