import ODataQuery.Json.Basic
import ODataQuery.Text.Percent

/-!
# JSON tokens

The tokens of a text are found by a machine that takes one character at a time (`Scan.step`).
Where the text stops being JSON the token `stray` is its last one; a number is complete only at
the character after it.
-/

namespace ODataQuery.Json

/-- The smallest parts of a JSON text. -/
inductive Token where
  | openArray
  | closeArray
  | openObject
  | closeObject
  | comma
  | colon
  | null
  | bool (b : Bool)
  | number (lexeme : String)
  | string (text : Option String)
  | stray
deriving DecidableEq, Repr

/-- How much of a number has been read, named for its last part. -/
inductive NumberPhase where
  | minus
  | zero
  | whole
  | point
  | fraction
  | mark
  | sign
  | exponent
deriving DecidableEq, Repr

/-- The part that a further character of a number belongs to. -/
def NumberPhase.next? (phase : NumberPhase) (c : Char) : Option NumberPhase :=
  match phase with
  | .minus => if c = '0' then some .zero else if c.isDigit then some .whole else none
  | .zero | .whole =>
    if c.isDigit then (if phase = .whole then some .whole else none)
    else if c = '.' then some .point
    else if c = 'e' ∨ c = 'E' then some .mark
    else none
  | .point => if c.isDigit then some .fraction else none
  | .fraction =>
    if c.isDigit then some .fraction else if c = 'e' ∨ c = 'E' then some .mark else none
  | .mark =>
    if c.isDigit then some .exponent else if c = '+' ∨ c = '-' then some .sign else none
  | .sign | .exponent => if c.isDigit then some .exponent else none

/-- Whether a number may end after this part, before the character `c`. No digit follows a leading
zero. -/
def NumberPhase.endsBefore (phase : NumberPhase) (c : Char) : Bool :=
  match phase with
  | .zero => !c.isDigit
  | .whole | .fraction | .exponent => true
  | .minus | .point | .mark | .sign => false

/-- What the next character of a string is read as. -/
inductive TextPhase where
  | plain
  | escape
  | hex (count value : Nat)
deriving DecidableEq, Repr

/-- Between two characters of a text. Characters and code units already read stand last first. -/
inductive Scan where
  | gap
  | word (left : List Char) (token : Token)
  | number (phase : NumberPhase) (seen : List Char)
  | text (phase : TextPhase) (units : List Nat)
  | stuck
deriving DecidableEq, Repr

/-! ## The text of a string

Strings consist of code units of 16 bits. Two surrogates stand for one character. -/

/-- Code units that open a surrogate pair. -/
def isHighSurrogate (unit : Nat) : Bool := 0xD800 ≤ unit && unit ≤ 0xDBFF

/-- Code units that close a surrogate pair. -/
def isLowSurrogate (unit : Nat) : Bool := 0xDC00 ≤ unit && unit ≤ 0xDFFF

/-- The characters that code units stand for; `none` if half of a surrogate pair stands alone. -/
def charsOfUnits : List Nat → Option (List Char)
  | [] => some []
  | [unit] =>
    if isHighSurrogate unit || isLowSurrogate unit then none else some [Char.ofNat unit]
  | unit :: next :: units =>
    if isHighSurrogate unit then
      if isLowSurrogate next then
        let c := Char.ofNat (0x10000 + (unit - 0xD800) * 0x400 + (next - 0xDC00))
        (charsOfUnits units).map (c :: ·)
      else
        none
    else if isLowSurrogate unit then none
    else (charsOfUnits (next :: units)).map (Char.ofNat unit :: ·)

/-- The string token of the code units between the quotes, last first. -/
def stringToken (units : List Nat) : Token :=
  .string ((charsOfUnits units.reverse).map String.ofList)

/-- The code unit of an escape of one character. -/
def escaped? (c : Char) : Option Nat :=
  match c with
  | '"' | '\\' | '/' => some c.toNat
  | 'b' => some 0x08
  | 'f' => some 0x0C
  | 'n' => some 0x0A
  | 'r' => some 0x0D
  | 't' => some 0x09
  | _ => none

/-! ## The machine

The scanner takes one character at a time and gives the tokens that end there. -/

namespace Scan

/-- The step at a character that belongs to no token begun before it. -/
def start (c : Char) : List Token × Scan :=
  match c with
  | ' ' | '\n' | '\t' | '\r' => ([], .gap)
  | '[' => ([.openArray], .gap)
  | ']' => ([.closeArray], .gap)
  | '\x7b' => ([.openObject], .gap)
  | '\x7d' => ([.closeObject], .gap)
  | ',' => ([.comma], .gap)
  | ':' => ([.colon], .gap)
  | 'n' => ([], .word ['u', 'l', 'l'] .null)
  | 't' => ([], .word ['r', 'u', 'e'] (.bool true))
  | 'f' => ([], .word ['a', 'l', 's', 'e'] (.bool false))
  | '"' => ([], .text .plain [])
  | '-' => ([], .number .minus [c])
  | '0' => ([], .number .zero [c])
  | c => if c.isDigit then ([], .number .whole [c]) else ([.stray], .stuck)

/-- The step inside a string. -/
def stepText (phase : TextPhase) (units : List Nat) (c : Char) : List Token × Scan :=
  match phase with
  | .plain =>
    if c = '"' then ([stringToken units], .gap)
    else if c = '\\' then ([], .text .escape units)
    else if c.toNat < 0x20 then ([.stray], .stuck)
    else ([], .text .plain (c.toNat :: units))
  | .escape =>
    if c = 'u' then ([], .text (.hex 0 0) units)
    else match escaped? c with
      | some unit => ([], .text .plain (unit :: units))
      | none => ([.stray], .stuck)
  | .hex count value =>
    match Percent.hexValue? c with
    | none => ([.stray], .stuck)
    | some digit =>
      if count = 3 then ([], .text .plain ((16 * value + digit) :: units))
      else ([], .text (.hex (count + 1) (16 * value + digit)) units)

/-- Takes one character: the tokens it completes and where the machine stands after it. -/
def step (scan : Scan) (c : Char) : List Token × Scan :=
  match scan with
  | .gap => start c
  | .word [] token => (token :: (start c).1, (start c).2)
  | .word [x] token => if c = x then ([token], .gap) else ([.stray], .stuck)
  | .word (x :: left) token => if c = x then ([], .word left token) else ([.stray], .stuck)
  | .number phase seen =>
    match phase.next? c with
    | some phase' => ([], .number phase' (c :: seen))
    | none =>
      if phase.endsBefore c then
        (.number (String.ofList seen.reverse) :: (start c).1, (start c).2)
      else ([.stray], .stuck)
  | .text phase units => stepText phase units c
  | .stuck => ([], .stuck)

/-- The tokens that the end of the text completes. -/
def finish (scan : Scan) : List Token :=
  match scan with
  | .gap | .stuck => []
  | .number phase seen =>
    if phase.endsBefore ' ' then [.number (String.ofList seen.reverse)] else [.stray]
  | .word _ _ | .text _ _ => [.stray]

/-- The tokens of what is left of a text. -/
def tokens (scan : Scan) : List Char → List Token
  | [] => scan.finish
  | c :: rest => (scan.step c).1 ++ (scan.step c).2.tokens rest

end Scan

end ODataQuery.Json
