import ODataQuery.Json.Token

/-!
# The grammar of JSON

How a JSON text is written, whatever way it is read:

* `text := {blank} {token {blank}}`, where the tokens are those of one tree
* `tree := 'null' | 'true' | 'false' | number | string | '[' [tree {',' tree}] ']'
  | '{' [member {',' member}] '}'` and `member := string ':' tree`
* `number := ['-'] whole [fraction] [exponent]`
* `string := '"' {character | short escape | '\u' and four hexadecimal digits} '"'`

`Json.tokens` lists the tokens of a tree and `Json.SpelledBy` relates a tree to its texts. An escape
with four digits gives a code unit, and a character outside the first 65536 is a pair of them. A
string with half of such a pair is in the grammar but holds no text.
-/

namespace ODataQuery.Json

/-! ## Strings

A string is spelled by code units and read as characters. `SpellsChar` puts the two units of a
surrogate pair together, so a text determines which characters it spells. -/

/-- The digit has the value, in either case. -/
def HasHexValue (digit : Char) (value : Nat) : Prop :=
  "0123456789abcdef".toList[value]? = some digit ∨ "0123456789ABCDEF".toList[value]? = some digit

/-- An escape with four digits, for a code unit. -/
inductive SpellsEscape : Nat → List Char → Prop where
  | intro {a b c d : Char} {i j k l : Nat} (ha : HasHexValue a i) (hb : HasHexValue b j)
    (hc : HasHexValue c k) (hd : HasHexValue d l) :
    SpellsEscape (16 * (16 * (16 * i + j) + k) + l) ['\\', 'u', a, b, c, d]

/-- The letters that a backslash makes a character. -/
def shortEscapes : List (Char × Char) :=
  [('"', '"'), ('\\', '\\'), ('/', '/'), ('b', '\x08'), ('f', '\x0c'), ('n', '\n'), ('r', '\r'),
   ('t', '\t')]

/-- The characters that stand for themselves inside a string. -/
def IsVerbatim (c : Char) : Prop := c ≠ '"' ∧ c ≠ '\\' ∧ 0x20 ≤ c.toNat

/-- The ways to write a unit inside a string: a character, or a code unit that may be half of a
pair. -/
inductive SpellsUnit : Nat → List Char → Prop where
  | verbatim {c : Char} (h : IsVerbatim c) : SpellsUnit c.toNat [c]
  | short {c letter : Char} (h : (letter, c) ∈ shortEscapes) : SpellsUnit c.toNat ['\\', letter]
  | escape {unit : Nat} {spelling : List Char} (h : SpellsEscape unit spelling) :
    SpellsUnit unit spelling

/-- The ways to write units inside a string. -/
inductive SpellsUnits : List Nat → List Char → Prop where
  | nil : SpellsUnits [] []
  | cons {unit : Nat} {units : List Nat} {spelling rest : List Char} (h : SpellsUnit unit spelling)
    (hrest : SpellsUnits units rest) : SpellsUnits (unit :: units) (spelling ++ rest)

/-- The ways to write a character inside a string. -/
inductive SpellsChar : Char → List Char → Prop where
  | unit {c : Char} {spelling : List Char} (h : SpellsUnit c.toNat spelling) :
    SpellsChar c spelling
  | pair {c : Char} {high low : Nat} {first second : List Char} (hfirst : SpellsEscape high first)
    (hsecond : SpellsEscape low second) (hhigh : 0xD800 ≤ high ∧ high ≤ 0xDBFF)
    (hlow : 0xDC00 ≤ low ∧ low ≤ 0xDFFF)
    (h : c.toNat = 0x10000 + (high - 0xD800) * 0x400 + (low - 0xDC00)) :
    SpellsChar c (first ++ second)

/-- The ways to write a text inside a string. -/
inductive SpellsText : List Char → List Char → Prop where
  | nil : SpellsText [] []
  | cons {c : Char} {cs spelling rest : List Char} (h : SpellsChar c spelling)
    (hrest : SpellsText cs rest) : SpellsText (c :: cs) (spelling ++ rest)

/-! ## Numbers

A number has a whole part without leading zeros, and then perhaps a fraction and an exponent. -/

def AreDigits (cs : List Char) : Prop := ∀ c ∈ cs, c.isDigit = true

/-- `0`, or digits that do not begin with a zero. -/
inductive IsWhole : List Char → Prop where
  | zero : IsWhole ['0']
  | digits {d : Char} {ds : List Char} (hd : d.isDigit = true) (hzero : d ≠ '0')
    (hds : AreDigits ds) : IsWhole (d :: ds)

/-- Nothing, or a point and some digits. -/
inductive IsFraction : List Char → Prop where
  | none : IsFraction []
  | digits {ds : List Char} (hne : ds ≠ []) (hds : AreDigits ds) : IsFraction ('.' :: ds)

/-- Some digits, with a sign or without. -/
inductive IsPower : List Char → Prop where
  | unsigned {ds : List Char} (hne : ds ≠ []) (hds : AreDigits ds) : IsPower ds
  | signed {sign : Char} {ds : List Char} (hsign : sign = '+' ∨ sign = '-') (hne : ds ≠ [])
    (hds : AreDigits ds) : IsPower (sign :: ds)

/-- Nothing, or the power of ten behind its mark. -/
inductive IsExponent : List Char → Prop where
  | none : IsExponent []
  | power {mark : Char} {cs : List Char} (hmark : mark = 'e' ∨ mark = 'E') (h : IsPower cs) :
    IsExponent (mark :: cs)

inductive IsUnsignedNumber : List Char → Prop where
  | intro {whole fraction exponent : List Char} (hwhole : IsWhole whole)
    (hfraction : IsFraction fraction) (hexponent : IsExponent exponent) :
    IsUnsignedNumber (whole ++ (fraction ++ exponent))

inductive IsNumber : List Char → Prop where
  | positive {cs : List Char} (h : IsUnsignedNumber cs) : IsNumber cs
  | negative {cs : List Char} (h : IsUnsignedNumber cs) : IsNumber ('-' :: cs)

/-! ## Tokens

Each token has its own spellings, and blanks may stand around tokens. -/

/-- The ways to write a token. -/
inductive Lexeme : Token → List Char → Prop where
  | openArray : Lexeme .openArray ['[']
  | closeArray : Lexeme .closeArray [']']
  | openObject : Lexeme .openObject ['\x7b']
  | closeObject : Lexeme .closeObject ['\x7d']
  | comma : Lexeme .comma [',']
  | colon : Lexeme .colon [':']
  | null : Lexeme .null "null".toList
  | true : Lexeme (.bool true) "true".toList
  | false : Lexeme (.bool false) "false".toList
  | number {cs : List Char} (h : IsNumber cs) : Lexeme (.number (String.ofList cs)) cs
  | text {s : String} {inside : List Char} (h : SpellsText s.toList inside) :
    Lexeme (.string (some s)) ('"' :: (inside ++ ['"']))
  | noText {units : List Nat} {inside : List Char} (h : SpellsUnits units inside)
    (hnone : ∀ cs, ¬ SpellsText cs inside) : Lexeme (.string none) ('"' :: (inside ++ ['"']))

/-- What may stand between two tokens. -/
def blanks : List Char := [' ', '\n', '\t', '\r']

/-- The text consists of the tokens, with blanks around them. -/
inductive Lexes : List Token → List Char → Prop where
  | nil {cs : List Char} (h : cs ⊆ blanks) : Lexes [] cs
  | cons {token : Token} {tokens : List Token} {before lexeme rest : List Char}
    (hbefore : before ⊆ blanks) (hlexeme : Lexeme token lexeme) (hrest : Lexes tokens rest) :
    Lexes (token :: tokens) (before ++ (lexeme ++ rest))

/-! ## Trees

The tokens of a tree, and what it means that a text spells one: the tree is complete and its tokens
are those of the text. -/

mutual
/-- The tokens of a tree. -/
def tokens : Json → List Token
  | .null => [.null]
  | .bool b => [.bool b]
  | .number lexeme => [.number lexeme]
  | .string text => [.string text]
  | .array items _ => .openArray :: itemTokens items ++ [.closeArray]
  | .object members _ => .openObject :: memberTokens members ++ [.closeObject]
  | .broken => [.stray]

/-- The tokens of items with commas between them. -/
def itemTokens : List Json → List Token
  | [] => []
  | [item] => item.tokens
  | item :: items => item.tokens ++ .comma :: itemTokens items

/-- The tokens of members with commas between them. -/
def memberTokens : List (Option String × Json) → List Token
  | [] => []
  | [(key, value)] => .string key :: .colon :: value.tokens
  | (key, value) :: members =>
    .string key :: .colon :: value.tokens ++ .comma :: memberTokens members
end

/-- The text is a JSON text that says what the tree does: the tree has no part missing, and the text
consists of its tokens. -/
def SpelledBy (tree : Json) (text : String) : Prop :=
  tree.complete = true ∧ Lexes tree.tokens text.toList

end ODataQuery.Json
