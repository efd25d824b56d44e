import ODataQuery.Text.Quoted.Table

/-!
# Quoted text

Shows a text between double quotes in a way that leaves no doubt about its characters: what has no
shape of its own is written as an escape.
-/

namespace ODataQuery.Quoted

/-- `\u{…}` with the code point in lower-case hexadecimal digits. -/
def codePointEscape (c : Char) : List Char :=
  ['\\', 'u', '\x7b'] ++ Nat.toDigits 16 c.toNat ++ ['\x7d']

/-- How one character is shown inside the quotes. -/
def shown (c : Char) : List Char :=
  match c with
  | '\x00' => ['\\', '0']
  | '\t' => ['\\', 't']
  | '\r' => ['\\', 'r']
  | '\n' => ['\\', 'n']
  | '"' => ['\\', '"']
  | '\\' => ['\\', '\\']
  | ' ' => [' ']
  | c => if shapelessRanges.holds c then codePointEscape c else [c]

/-- The text between double quotes. -/
def quote (s : String) : String :=
  String.ofList (['"'] ++ s.toList.flatMap shown ++ ['"'])

end ODataQuery.Quoted
