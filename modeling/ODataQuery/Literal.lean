import ODataQuery.Text.LowerCase
import ODataQuery.Text.Percent

/-!
# String literals and field references

A string value inside a filter expression is quoted, its own quotes are doubled, and everything
between the quotes is percent-encoded, so that `O'Neal` becomes `'O%27%27Neal'`. The two outer
quotes belong to the expression and are never encoded.
-/

namespace ODataQuery.Literal

/-- Writes every single quote twice. -/
def doubleQuotes : List Char → List Char
  | [] => []
  | '\'' :: rest => '\'' :: '\'' :: doubleQuotes rest
  | c :: rest => c :: doubleQuotes rest

/-- Writes every pair of adjacent single quotes once, pairing them from the left. -/
def halveQuotes : List Char → List Char
  | '\'' :: '\'' :: rest => '\'' :: halveQuotes rest
  | c :: rest => c :: halveQuotes rest
  | [] => []

/-- The value that a comparison sees: lower-cased if letter case does not count. -/
def foldCase (value : String) (caseInsensitive : Bool) : String :=
  if caseInsensitive then LowerCase.lowerText value else value

/-- The literal of a value. -/
def encode (value : String) (caseInsensitive : Bool) : String :=
  let doubled := doubleQuotes (foldCase value caseInsensitive).toList
  "'" ++ Percent.encode (String.ofList doubled) ++ "'"

/-- The characters between a first and a last single quote. -/
def unquote? (literal : List Char) : Option (List Char) :=
  match literal with
  | '\'' :: rest => if rest.getLast? = some '\'' then some rest.dropLast else none
  | _ => none

/-- The value of a literal; `none` if it is not quoted or its bytes are not UTF-8. -/
def decode? (literal : String) : Option String := do
  let inner ← unquote? literal.toList
  let doubled ← Percent.decode? (String.ofList inner)
  return String.ofList (halveQuotes doubled.toList)

/-- A field name behind its qualifier, inside `tolower` if letter case does not count. -/
def fieldRef (qualifier name : String) (caseInsensitive : Bool) : String :=
  if caseInsensitive then "tolower(" ++ qualifier ++ name ++ ")" else qualifier ++ name

end ODataQuery.Literal
