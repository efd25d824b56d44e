import ODataQuery.Text.Shortest

/-!
# Numbers

A number without fraction and exponent is an integer if it lies in `-2^63 .. 2^64 - 1`; every other
number is a float, and so is `-0`. The float is found from the first digits, as many as fit into 64
bits: they are multiplied or divided by one power of ten, so that its last bit may differ from the
nearest float of the whole decimal. A number too large for a float has no value.
-/

namespace ODataQuery.Json

/-- The value of a number. -/
inductive Number where
  | integer (n : Int)
  | float (x : Float)

/-- The parts of a written number. -/
structure Numeral where
  negative : Bool
  whole : List Char
  fraction : List Char
  exponent : Option Int
deriving Repr

namespace Numeral

/-- The number that digits stand for. -/
def ofDigits (cs : List Char) : Nat :=
  cs.foldl (fun n c => 10 * n + (c.toNat - '0'.toNat)) 0

/-- Reads an exponent with an optional sign. -/
def exponentOf : List Char → Int
  | '-' :: cs => -(ofDigits cs : Int)
  | '+' :: cs => ofDigits cs
  | cs => ofDigits cs

/-- Takes a number apart. -/
def ofLexeme (lexeme : String) : Numeral :=
  let cs := lexeme.toList
  let negative := cs.head? = some '-'
  let cs := if negative then cs.tail else cs
  let (whole, cs) := cs.span Char.isDigit
  let (fraction, cs) :=
    match cs with
    | '.' :: rest => rest.span Char.isDigit
    | cs => ([], cs)
  let exponent :=
    match cs with
    | [] => none
    | _ :: rest => some (exponentOf rest)
  ⟨negative, whole, fraction, exponent⟩

/-- Whether the number has neither fraction nor exponent. -/
def isWhole (n : Numeral) : Bool := n.fraction.isEmpty && n.exponent.isNone

/-- Appends digits while the result fits into 64 bits, and counts those that were appended. -/
def gather (significand : Nat) : List Char → Nat × Nat
  | [] => (significand, 0)
  | c :: cs =>
    let next := 10 * significand + (c.toNat - '0'.toNat)
    if next < UInt64.size then
      let (result, count) := gather next cs
      (result, count + 1)
    else
      (significand, 0)

/-- The leading digits that fit into 64 bits and the power of ten that belongs to them. -/
def leading (n : Numeral) : Nat × Int :=
  let (whole, kept) := gather 0 n.whole
  let (significand, places) := gather whole n.fraction
  (significand, (n.whole.length : Int) - kept - places + n.exponent.getD 0)

/-- Multiplies by `10 ^ power`, dividing by `10 ^ 308` first while the power is below that. The
steps are at most `fuel`; after three of them nothing is left of a 64-bit number. -/
def shift : (fuel : Nat) → Float → Int → Option Float
  | 0, _, _ => some 0
  | fuel + 1, x, power =>
    if 308 < power then (if x == 0 then some x else none)
    else if 0 ≤ power then
      let y := x * Float.ofScientific 1 false power.toNat
      if y.isInf then none else some y
    else if -308 ≤ power then some (x / Float.ofScientific 1 false (-power).toNat)
    else if x == 0 then some x
    else shift fuel (x / Float.ofScientific 1 false 308) (power + 308)

/-- The float of a number; `none` if it is too large. -/
def toFloat? (n : Numeral) : Option Float :=
  let (significand, power) := n.leading
  (shift 4 (Float.ofNat significand) power).map fun x => if n.negative then -x else x

end Numeral

/-- The value of a number as it is written; `none` if it is too large for a float. -/
def Number.ofLexeme? (lexeme : String) : Option Number :=
  let n := Numeral.ofLexeme lexeme
  let whole := Numeral.ofDigits n.whole
  if n.isWhole ∧ !n.negative ∧ whole < UInt64.size then some (.integer whole)
  else if n.isWhole ∧ n.negative ∧ 0 < whole ∧ 2 * whole ≤ UInt64.size then some (.integer (-whole))
  else n.toFloat?.map .float

/-- Floats are shown with a point, and with an exponent that has a sign from `10 ^ 16` up and below
`10 ^ -5`. -/
def Number.floatFormat : Shortest.Format := ⟨16, 5, "+"⟩

end ODataQuery.Json
