import ODataQuery.Filter.Render
import ODataQuery.Proofs.Text.Delimiters

/-!
# The grammar of filter expressions

How a reader takes a filter expression, once it is percent-decoded:

* `expr := conj {' or ' conj}`
* `conj := unary {' and ' unary}`
* `unary := ['not '] primary`
* `primary := '(' expr ')' | call | comparison | path '/any(i: ' expr ')'
  | path '/all(i: ' expr ')'`

The relations `ReadsExpr` to `ReadsPrimary` have one rule for each alternative. They are relations
between texts and syntax trees and say nothing of how a text comes about: whether a text has
a reading, and whether it has one only, is to be proved.
-/

namespace ODataQuery.Expression

/-! ## Syntax trees

What an expression says, without its spelling: operands, primaries and how they are joined. -/

/-- A field, as it is or in lower case. -/
inductive Operand where
  | path (name : String)
  | lowered (name : String)
deriving DecidableEq, Repr

/-- What a field is compared with: text, or anything that is written without quotes. -/
inductive Value where
  | literal (text : String)
  | word (word : String)
deriving DecidableEq, Repr

structure Unary (α : Type) where
  negated : Bool
  primary : α
deriving Repr

/-- A part of an expression that no operator takes apart. An expression is the list of what `or`
connects, each of which is the list of what `and` connects. -/
inductive Primary where
  | parenthesized (expr : List (List (Unary Primary)))
  | call (function : String) (operand : Operand) (text : String)
  | choice (function : String) (property : String) (values : List String)
  | comparison (operand : Operand) (operator : String) (value : Value)
  | quantified (path : String) (quantifier : Quantifier) (expr : List (List (Unary Primary)))

abbrev Conj := List (Unary Primary)

abbrev Expr := List Conj

/-! ## Words and literals

The tokens of the grammar. A word ends at the first delimiter, and a literal at the first quote that
is not doubled. -/

/-- Some characters, none of which is a delimiter. -/
def IsWord (word : String) : Prop := word ≠ "" ∧ Avoids word wordDelimiters

instance : DecidablePred IsWord := fun _ => inferInstanceAs (Decidable (_ ∧ _))

/-- The characters that end a value without quotes. A comma does not. -/
def valueDelimiters : List Char := [' ', '(', ')', '\'']

/-- Some characters that may be written as a value without quotes. -/
def IsUnquoted (word : String) : Prop := word ≠ "" ∧ Avoids word valueDelimiters

instance : DecidablePred IsUnquoted := fun _ => inferInstanceAs (Decidable (_ ∧ _))

/-- What stands between the quotes of a literal, and the text that it means: two quotes mean one,
any other character means itself. -/
inductive ReadsInside : List Char → List Char → Prop where
  | nil : ReadsInside [] []
  | quote {t v : List Char} (h : ReadsInside t v) : ReadsInside ('\'' :: '\'' :: t) ('\'' :: v)
  | other {c : Char} {t v : List Char} (hne : c ≠ '\'') (h : ReadsInside t v) :
    ReadsInside (c :: t) (c :: v)

/-- A literal and the text that it means. -/
inductive ReadsLiteral : List Char → String → Prop where
  | intro {t : List Char} {value : String} (h : ReadsInside t value.toList) :
    ReadsLiteral ('\'' :: t ++ ['\'']) value

/-- Literals with commas between them. -/
inductive ReadsLiterals : List Char → List String → Prop where
  | nil : ReadsLiterals [] []
  | single {t : List Char} {value : String} (h : ReadsLiteral t value) : ReadsLiterals t [value]
  | cons {t ts : List Char} {value : String} {values : List String} (h : ReadsLiteral t value)
    (hs : ReadsLiterals ts values) (hne : values ≠ []) :
    ReadsLiterals (t ++ ',' :: ts) (value :: values)

def Operand.text : Operand → List Char
  | .path name => name.toList
  | .lowered name => "tolower(".toList ++ name.toList ++ [')']

/-- A path is spelled as its name. -/
@[simp] theorem Operand.text_path (name : String) : (Operand.path name).text = name.toList := rfl

/-- The name in an operand is a word. -/
def Operand.WellFormed : Operand → Prop
  | .path name | .lowered name => IsWord name

def comparisonOperators : List String := ["eq", "ne", "gt", "ge", "lt", "le"]

inductive ReadsValue : List Char → Value → Prop where
  | literal {t : List Char} {text : String} (h : ReadsLiteral t text) : ReadsValue t (.literal text)
  | word {word : String} (h : IsUnquoted word) : ReadsValue word.toList (.word word)

/-! ## Expressions

The relation of a text and the tree that it can be read as. Every rule says where its parts end, and
nothing here computes. -/

mutual
/-- `expr := conj {' or ' conj}` -/
inductive ReadsExpr : List Char → Expr → Prop where
  | conj {t : List Char} {conj : Conj} (h : ReadsConj t conj) : ReadsExpr t [conj]
  | or {t t' : List Char} {conj : Conj} {expr : Expr} (h : ReadsConj t conj)
    (h' : ReadsExpr t' expr) : ReadsExpr (t ++ " or ".toList ++ t') (conj :: expr)

/-- `conj := unary {' and ' unary}` -/
inductive ReadsConj : List Char → Conj → Prop where
  | unary {t : List Char} {unary : Unary Primary} (h : ReadsUnary t unary) : ReadsConj t [unary]
  | and {t t' : List Char} {unary : Unary Primary} {conj : Conj} (h : ReadsUnary t unary)
    (h' : ReadsConj t' conj) : ReadsConj (t ++ " and ".toList ++ t') (unary :: conj)

/-- `unary := ['not '] primary` -/
inductive ReadsUnary : List Char → Unary Primary → Prop where
  | primary {t : List Char} {primary : Primary} (h : ReadsPrimary t primary) :
    ReadsUnary t ⟨false, primary⟩
  | not {t : List Char} {primary : Primary} (h : ReadsPrimary t primary) :
    ReadsUnary ("not ".toList ++ t) ⟨true, primary⟩

/-- `primary := '(' expr ')' | call | comparison | path '/any(i: ' expr ')'
| path '/all(i: ' expr ')'`. A call is either a function of an operand and a literal, or a test of
the values chosen in a multi-select field. -/
inductive ReadsPrimary : List Char → Primary → Prop where
  | parenthesized {t : List Char} {expr : Expr} (h : ReadsExpr t expr) :
    ReadsPrimary ('(' :: t ++ [')']) (.parenthesized expr)
  | call {t : List Char} {function text : String} {operand : Operand} (hfunction : IsWord function)
    (hoperand : operand.WellFormed) (htext : ReadsLiteral t text) :
    ReadsPrimary (function.toList ++ '(' :: operand.text ++ ',' :: t ++ [')'])
      (.call function operand text)
  | choice {t ts : List Char} {function property : String} {values : List String}
    (hfunction : IsWord function) (hproperty : ReadsLiteral t property)
    (hvalues : ReadsLiterals ts values) :
    ReadsPrimary (function.toList ++ "(PropertyName=".toList ++ t ++ ",PropertyValues=[".toList
      ++ ts ++ "])".toList) (.choice function property values)
  | comparison {t : List Char} {operand : Operand} {operator : String} {value : Value}
    (hoperand : operand.WellFormed) (hoperator : operator ∈ comparisonOperators)
    (hvalue : ReadsValue t value) :
    ReadsPrimary (operand.text ++ ' ' :: operator.toList ++ ' ' :: t)
      (.comparison operand operator value)
  | quantified {t : List Char} {path : String} {quantifier : Quantifier} {expr : Expr}
    (hpath : IsWord path) (h : ReadsExpr t expr) :
    ReadsPrimary (path.toList ++ '/' :: quantifier.token.toList ++ "(i: ".toList ++ t ++ [')'])
      (.quantified path quantifier expr)
end

/-- Every primary has a text. -/
theorem ReadsPrimary.ne_nil {t : List Char} {primary : Primary} (h : ReadsPrimary t primary) :
    t ≠ [] := by
  cases h <;> simp

/-! ## The syntax tree of a filter tree

Sibling filters are split by `or`, and what lies between by `and`. A filter that stands first is
never negated, the others are if their combinator says so. -/

end Expression

namespace Combinator

/-- Whether the filter begins what comes after `or`. -/
def startsConj : Combinator → Bool
  | .or | .orNot => true
  | .none | .and | .not | .andNot => false

def negates : Combinator → Bool
  | .not | .andNot | .orNot => true
  | .none | .and | .or => false

end Combinator

open Expression

/-- Puts a unary before what follows it, which `c` attaches to it. -/
def Expression.attach (unary : Unary Primary) (c : Combinator) : Expr → Expr
  | [] => [[unary]]
  | conj :: expr => if c.startsConj then [unary] :: conj :: expr else (unary :: conj) :: expr

/-- The operand of a condition that reads text. -/
def Condition.textOperand (qualifier : String) (condition : Condition) : Operand :=
  if condition.caseInsensitive then .lowered (qualifier ++ condition.field)
  else .path (qualifier ++ condition.field)

/-- The syntax tree of a condition whose literal means `text`. -/
def Condition.primaryOf (text : String) (qualifier : String) (condition : Condition) : Primary :=
  let path := qualifier ++ condition.field
  match condition.comparator.operation with
  | .call function => .call function (condition.textOperand qualifier) text
  | .text operator => .comparison (condition.textOperand qualifier) operator (.literal text)
  | .verbatim operator => .comparison (.path path) operator (.word condition.value)
  | .null operator => .comparison (.path path) operator (.word "null")
  | .choice negated =>
    .choice (vendorNamespace ++ "." ++ if negated then "DoesNotContainValues" else "ContainValues")
      path condition.multiSelectValues

def Expression.wrapped (primary : Primary) : Primary := .parenthesized [[⟨false, primary⟩]]

/-- The syntax tree of a condition among its siblings, whose literal means `text`. -/
def Condition.leafOf (text : String) (qualifier : String) (condition : Condition) : Primary :=
  if condition.comparator.isSelfDelimited then condition.primaryOf text qualifier
  else wrapped (condition.primaryOf text qualifier)

mutual
/-- The syntax tree of a filter among its siblings. The literal of a condition means the value that
is compared. Text of an expression has no syntax tree of its own. -/
def Filter.primary (qualifier : String) : Filter → Primary
  | .raw _ _ => .parenthesized []
  | .leaf _ condition =>
    condition.leafOf (Literal.foldCase condition.value condition.caseInsensitive) qualifier
  | .quantified _ field quantifier children =>
    wrapped (.quantified field quantifier (siblingsExpr iteratorQualifier children))
  | .group _ children => .parenthesized (siblingsExpr qualifier children)

def siblingsExpr (qualifier : String) : List Filter → Expr
  | [] => []
  | filter :: siblings => attachedExpr qualifier ⟨false, filter.primary qualifier⟩ siblings

/-- The syntax tree of a unary and the siblings that follow it. -/
def attachedExpr (qualifier : String) (unary : Unary Primary) : List Filter → Expr
  | [] => [[unary]]
  | filter :: siblings =>
    attach unary filter.combinator
      (attachedExpr qualifier ⟨filter.combinator.negates, filter.primary qualifier⟩ siblings)
end

end ODataQuery
