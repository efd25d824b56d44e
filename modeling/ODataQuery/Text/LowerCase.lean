import ODataQuery.Text.LowerCase.Table

/-!
# Lower case

The lower-case form of a character is one or two characters (`lowerChar`). In running text the
Greek capital sigma alone depends on what stands around it (`lowerText`): it becomes the final
form `ς` at the end of a word and `σ` everywhere else.
-/

namespace ODataQuery.LowerCase

/-- The code point that a range assigns to `n`, if `n` is one of its members. -/
def CaseRange.lower? (range : CaseRange) (n : Nat) : Option Nat :=
  if range.first ≤ n ∧ n ≤ range.last ∧ (n - range.first) % range.step = 0 then
    some (range.lower + (n - range.first))
  else
    none

/-- The lower-case form of a character that stands alone. Only `İ` has two characters: the dot of
the capital is kept as a combining mark. -/
def lowerChar (c : Char) : List Char :=
  if c.toNat < 0x80 then [c.toLower]
  else if c = 'İ' then ['i', '\u0307']
  else match caseRanges.findSome? (·.lower? c.toNat) with
    | some n => [Char.ofNat n]
    | none => [c]

/-- Whether the first character that is not case-ignorable is cased. -/
def casedAhead (cs : List Char) : Bool :=
  match cs.find? fun c => !caseIgnorableRanges.holds c with
  | some c => casedRanges.holds c
  | none => false

/-- A sigma ends a word if a cased letter stands before it and none stands after it,
case-ignorable characters left aside. `before` holds what precedes, nearest character first. -/
def endsWord (before after : List Char) : Bool :=
  casedAhead before && !casedAhead after

/-- Lower-cases what follows `before`, which holds the preceding characters, nearest first. -/
def lowerAfter (before : List Char) : List Char → List Char
  | [] => []
  | c :: rest =>
    (if c = 'Σ' then [if endsWord before rest then 'ς' else 'σ'] else lowerChar c)
      ++ lowerAfter (c :: before) rest

/-- The lower-case form of a text. -/
def lowerText (s : String) : String :=
  String.ofList (lowerAfter [] s.toList)

end ODataQuery.LowerCase
