/-!
# Percent-encoding

A text is encoded byte by byte in UTF-8: letters, digits and `-`, `_`, `.`, `~` stand for
themselves and every other byte is written `%` with two hexadecimal digits. Decoding is lenient: a
`%` that does not introduce two hexadecimal digits stands for itself.
-/

namespace ODataQuery.Percent

/-- The bytes that are written as they are. -/
def isUnreserved (b : UInt8) : Bool :=
  let c := Char.ofNat b.toNat
  c.isAlphanum || c = '-' || c = '_' || c = '.' || c = '~'

/-- The upper-case hexadecimal digit of a number below 16. -/
def hexDigit (n : Nat) : Char :=
  Char.ofNat (if n < 10 then '0'.toNat + n else 'A'.toNat + (n - 10))

/-- The value of a hexadecimal digit in either case. -/
def hexValue? (c : Char) : Option Nat :=
  if '0' ≤ c ∧ c ≤ '9' then some (c.toNat - '0'.toNat)
  else if 'A' ≤ c ∧ c ≤ 'F' then some (c.toNat - 'A'.toNat + 10)
  else if 'a' ≤ c ∧ c ≤ 'f' then some (c.toNat - 'a'.toNat + 10)
  else none

/-- One byte as it is written. -/
def encodeByte (b : UInt8) : List Char :=
  if isUnreserved b then [Char.ofNat b.toNat]
  else ['%', hexDigit (b.toNat / 16), hexDigit (b.toNat % 16)]

/-- The percent-encoded form of a text. -/
def encode (s : String) : String :=
  String.ofList (s.toUTF8.data.toList.flatMap encodeByte)

/-- The bytes that a text stands for. -/
def bytes : List Char → List UInt8
  | '%' :: high :: low :: rest =>
    match hexValue? high, hexValue? low with
    | some h, some l => UInt8.ofNat (16 * h + l) :: bytes rest
    | _, _ => String.utf8EncodeChar '%' ++ bytes (high :: low :: rest)
  | c :: rest => String.utf8EncodeChar c ++ bytes rest
  | [] => []

/-- The text that an encoded one stands for, or `none` if its bytes are not UTF-8. -/
def decode? (s : String) : Option String :=
  String.fromUTF8? ⟨(bytes s.toList).toArray⟩

end ODataQuery.Percent
