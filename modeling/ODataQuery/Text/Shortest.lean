/-!
# The shortest decimal of a binary fraction

A `Float` is written with the fewest digits that read back as the same number; of two decimals of
that length the nearer one is taken, and of two equally near ones the one with an even last digit.
The search is done in whole numbers: a positive float is `mantissa * 2 ^ power`, and a decimal reads
back as it exactly if it lies in the interval of numbers that round to it.
-/

namespace ODataQuery.Shortest

/-- Powers of two. -/
def twoTo (n : Nat) : Nat := Nat.pow 2 n

/-- Powers of ten. -/
def tenTo (n : Nat) : Nat := Nat.pow 10 n

/-- The digits `digits` with their last one at the place of `10 ^ power`. -/
structure Decimal where
  digits : Nat
  power : Int
deriving DecidableEq, Repr

/-- A positive fraction of whole numbers. -/
structure Ratio where
  num : Nat
  den : Nat
deriving DecidableEq, Repr

/-- `m * 2 ^ power`. -/
def Ratio.ofBinary (m : Nat) (power : Int) : Ratio :=
  if 0 ≤ power then ⟨m * twoTo power.toNat, 1⟩ else ⟨m, twoTo (-power).toNat⟩

/-- Divides by `10 ^ power`. -/
def Ratio.scale (r : Ratio) (power : Int) : Ratio :=
  if 0 ≤ power then ⟨r.num, r.den * tenTo power.toNat⟩ else ⟨r.num * tenTo (-power).toNat, r.den⟩

/-- Order of fractions. -/
def Ratio.le (r s : Ratio) : Bool := r.num * s.den ≤ s.num * r.den

/-- Strict order of fractions. -/
def Ratio.lt (r s : Ratio) : Bool := r.num * s.den < s.num * r.den

/-- The numbers that round to one float; the ends belong to it if its mantissa is even. -/
structure Interval where
  low : Ratio
  high : Ratio
  closed : Bool

/-- Whether the interval holds `r`. -/
def Interval.holds (i : Interval) (r : Ratio) : Bool :=
  if i.closed then i.low.le r && r.le i.high else i.low.lt r && r.lt i.high

/-- The interval of `m * 2 ^ power`. Below a power of two the floats lie twice as close. -/
def interval (m : Nat) (power : Int) : Interval :=
  let narrow := m = twoTo 52 ∧ -1074 < power
  { low := if narrow then .ofBinary (4 * m - 1) (power - 2) else .ofBinary (2 * m - 1) (power - 1)
    high := .ofBinary (2 * m + 1) (power - 1)
    closed := m % 2 = 0 }

/-- The greatest `k` with `10 ^ k ≤ r`. -/
def Ratio.magnitude (r : Ratio) : Int :=
  if r.den ≤ r.num then (Nat.toDigits 10 (r.num / r.den)).length - 1
  else
    match (List.range 400).find? fun j => r.den ≤ r.num * tenTo j with
    | some j => -(j : Int)
    | none => 0

/-- Whether the quotient of a fraction is rounded up to the next whole number: a half goes to the
even neighbour. -/
def Ratio.roundsUp (r : Ratio) : Bool :=
  let twice := 2 * (r.num % r.den)
  r.den < twice || (twice = r.den && r.num / r.den % 2 = 1)

/-- The decimal of `count` digits that lies in the interval and is nearest to `r`. -/
def ofLength? (r : Ratio) (i : Interval) (count : Nat) : Option Decimal :=
  let power := r.magnitude - count + 1
  let scaled := r.scale power
  let below := scaled.num / scaled.den
  let fits (n : Nat) : Bool := i.holds (Ratio.scale ⟨n, 1⟩ (-power))
  match fits below, fits (below + 1) with
  | true, true => some ⟨if scaled.roundsUp then below + 1 else below, power⟩
  | true, false => some ⟨below, power⟩
  | false, true => some ⟨below + 1, power⟩
  | false, false => none

/-- The shortest decimal of `m * 2 ^ power`. Seventeen digits always suffice. -/
def ofBinary (m : Nat) (power : Int) : Decimal :=
  let r := Ratio.ofBinary m power
  let i := interval m power
  ((List.range 17).findSome? fun n => ofLength? r i (n + 1)).getD ⟨0, 0⟩

/-- Drops the zeros at the end of the digits. -/
def Decimal.trim (d : Decimal) : Decimal :=
  let cs := Nat.toDigits 10 d.digits
  let zeros := (cs.reverse.takeWhile (· = '0')).length
  ⟨d.digits / tenTo zeros, d.power + zeros⟩

/-- How decimals are written: with a point between digits while the point stands at most
`positionalHigh` digits to the right of the first digit and less than `positionalLow` zeros stand
between the point and the first digit, and with an exponent otherwise. A positive exponent begins
with `positiveSign`. -/
structure Format where
  positionalHigh : Int
  positionalLow : Int
  positiveSign : String

/-- Writes a positive decimal. -/
def Format.write (format : Format) (d : Decimal) : String :=
  let cs := Nat.toDigits 10 d.digits
  let point : Int := cs.length + d.power
  if 0 ≤ d.power ∧ point ≤ format.positionalHigh then
    String.ofList (cs ++ List.replicate d.power.toNat '0') ++ ".0"
  else if 0 < point ∧ point ≤ format.positionalHigh then
    String.ofList (cs.take point.toNat) ++ "." ++ String.ofList (cs.drop point.toNat)
  else if -format.positionalLow < point ∧ point ≤ 0 then
    "0." ++ String.ofList (List.replicate (-point).toNat '0' ++ cs)
  else
    let mantissa :=
      match cs with
      | [c] => [c]
      | c :: rest => c :: '.' :: rest
      | [] => []
    let exponent := point - 1
    String.ofList mantissa ++ "e" ++ (if 0 < exponent then format.positiveSign else "")
      ++ toString exponent

/-- Writes a finite float; zero keeps its sign. -/
def Format.writeFloat (format : Format) (x : Float) : String :=
  let bits := x.toBits.toNat
  let sign := if twoTo 63 ≤ bits then "-" else ""
  let exponent : Nat := bits / twoTo 52 % twoTo 11
  let fraction : Nat := bits % twoTo 52
  let (m, power) : Nat × Int :=
    if exponent = 0 then (fraction, -1074)
    else (twoTo 52 + fraction, (exponent : Int) - 1075)
  if m = 0 then sign ++ "0.0" else sign ++ format.write (ofBinary m power).trim

end ODataQuery.Shortest
