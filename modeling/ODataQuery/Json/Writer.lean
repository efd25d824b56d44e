import ODataQuery.Json.Basic

/-!
# Writing JSON

Trees are written without blanks. Inside strings only quotes, backslashes and controls are
escaped.
-/

namespace ODataQuery.Json

/-- A lower-case hexadecimal digit. -/
def lowerHexDigit (n : Nat) : Char :=
  Char.ofNat (if n < 10 then '0'.toNat + n else 'a'.toNat + (n - 10))

/-- One character inside a string. -/
def writeChar (c : Char) : List Char :=
  match c with
  | '"' => ['\\', '"']
  | '\\' => ['\\', '\\']
  | '\x08' => ['\\', 'b']
  | '\x0c' => ['\\', 'f']
  | '\n' => ['\\', 'n']
  | '\r' => ['\\', 'r']
  | '\t' => ['\\', 't']
  | c =>
    if c.toNat < 0x20 then
      ['\\', 'u', '0', '0', lowerHexDigit (c.toNat / 16), lowerHexDigit (c.toNat % 16)]
    else [c]

/-- A string with its quotes. What holds no text is written as an empty string. -/
def writeString (text : Option String) : List Char :=
  ['"'] ++ (text.getD "").toList.flatMap writeChar ++ ['"']

mutual
/-- The characters of a tree. -/
def write : Json → List Char
  | .null => "null".toList
  | .bool true => "true".toList
  | .bool false => "false".toList
  | .number lexeme => lexeme.toList
  | .string text => writeString text
  | .array items _ => ['['] ++ writeItems items ++ [']']
  | .object members _ => ['\x7b'] ++ writeMembers members ++ ['\x7d']
  | .broken => "null".toList

/-- The items of an array with commas between them. -/
def writeItems : List Json → List Char
  | [] => []
  | [item] => item.write
  | item :: items => item.write ++ [','] ++ writeItems items

/-- The members of an object with commas between them. -/
def writeMembers : List (Option String × Json) → List Char
  | [] => []
  | [(key, value)] => writeString key ++ [':'] ++ value.write
  | (key, value) :: members =>
    writeString key ++ [':'] ++ value.write ++ [','] ++ writeMembers members
end

/-- The text of a tree. -/
def toText (j : Json) : String := String.ofList j.write

end ODataQuery.Json
