import ODataQuery.Text.LowerCase

/-!
# Keywords

Names of comparators, combinators and quantifiers are recognised whatever their letter case and
whatever separators stand in them: `StartsWith`, `starts_with` and `STARTS-WITH` are one keyword.
-/

namespace ODataQuery.Keyword

/-- The characters that may stand anywhere in a keyword and do not count. -/
def isSeparator (c : Char) : Bool := c = '_' || c = '-' || c = ' '

/-- What counts of a name: its characters in lower case, separators left out. -/
def fold (name : String) : List Char :=
  (name.toList.filter fun c => !isSeparator c).flatMap LowerCase.lowerChar

end ODataQuery.Keyword
