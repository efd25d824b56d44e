/-!
# Record URLs

A server answers with the URL of a record that it created. It consists of a base, which ends with a
known suffix, the collection and the id of the record in parentheses.
-/

namespace ODataQuery

/-- What the URL of a record says. -/
structure RecordUrl where
  /-- Everything up to the end of the suffix; empty if that does not occur. -/
  base : String
  /-- Empty if nothing stands in parentheses. -/
  id : String
deriving DecidableEq, Repr

namespace RecordUrl

/-- Cuts a text after the first occurrence of a suffix. -/
def cutAfter? (suffix : List Char) : List Char → Option (List Char × List Char)
  | [] => if suffix = [] then some ([], []) else none
  | c :: rest =>
    if suffix.isPrefixOf (c :: rest) then some (suffix, (c :: rest).drop suffix.length)
    else (cutAfter? suffix rest).map fun (before, after) => (c :: before, after)

/-- The first text in parentheses that is not empty. It lasts from its opening parenthesis to the
next closing one. -/
def firstId : List Char → List Char
  | [] => []
  | c :: rest =>
    let id := rest.takeWhile (· ≠ ')')
    if c = '(' ∧ id ≠ [] ∧ ')' ∈ rest then id else firstId rest

/-- The base and the rest of a URL. -/
def splitBase (url : List Char) (suffix : Option String) : List Char × List Char :=
  match suffix with
  | none => ([], url)
  | some suffix =>
    if suffix = "" then ([], url) else (cutAfter? suffix.toList url).getD ([], url)

/-- Takes the URL of a record apart. The id is looked for behind the base. -/
def parse (url : String) (suffix : Option String) : RecordUrl :=
  let (base, rest) := splitBase url.toList suffix
  { base := String.ofList base, id := String.ofList (firstId rest) }

end RecordUrl

end ODataQuery
