import ODataQuery.Proofs.Filter.Tokens

/-!
# Taking a filter expression apart

What a reader can do at the beginning of a text, whatever follows. A primary begins with
a parenthesis, with a word and a parenthesis (an application), or with an operand and a space
(a comparison), and no text begins in two of these ways. Each way has an inversion lemma, from
which the rest of the reading is known up to where it goes on (`ReadsPrimary.of_parenthesis`,
`ReadsPrimary.of_application`, `ReadsPrimary.of_comparison`).

Every statement speaks of a text that goes on with an arbitrary rest, so that they can be used one
after another along a text.
-/

namespace ODataQuery.Expression

/-! ## The three ways in which a primary begins

The texts of calls, choices and quantifiers are brought into one form first: a word, an opening
parenthesis, an operand and the character that ends it, which tells the three apart. -/

/-- The word in front of the parenthesis of a quantifier. -/
def quantifierWord (path : String) (quantifier : Quantifier) : String :=
  path ++ "/" ++ quantifier.token

/-- The path of a quantifier is a word with a word and a slash in front. -/
theorem isWord_quantifierWord {path : String} (quantifier : Quantifier) (h : IsWord path) :
    IsWord (quantifierWord path quantifier) := by
  have hslash : Avoids "/" wordDelimiters := by decide
  have htoken : Avoids quantifier.token wordDelimiters := by cases quantifier <;> decide
  refine ⟨fun hempty => ?_, (h.2.append hslash).append htoken⟩
  exact h.1 (String.append_eq_empty_iff.mp (String.append_eq_empty_iff.mp hempty).1).1

/-- The words for the two quantifiers have one length, so the path before them is known. -/
theorem quantifierWord_inj {path path' : String} {quantifier quantifier' : Quantifier}
    (h : quantifierWord path quantifier = quantifierWord path' quantifier') :
    path = path' ∧ quantifier = quantifier' := by
  have hlen : quantifier.token.toList.length = quantifier'.token.toList.length := by
    cases quantifier <;> cases quantifier' <;> decide
  have hlist : (path ++ "/").toList ++ quantifier.token.toList
      = (path' ++ "/").toList ++ quantifier'.token.toList := by
    rw [← String.toList_append, ← String.toList_append]
    exact congrArg String.toList h
  obtain ⟨hpath, htoken⟩ := List.append_inj' hlist hlen
  refine ⟨(String.append_left_inj "/").mp (String.toList_injective hpath), ?_⟩
  cases quantifier <;> cases quantifier' <;> first | rfl | exact absurd htoken (by decide)

theorem append_call (function : String) (operand : Operand) (t r : List Char) :
    function.toList ++ '(' :: operand.text ++ ',' :: t ++ [')'] ++ r
      = function.toList ++ '(' :: (operand.text ++ ',' :: (t ++ ')' :: r)) := by
  simp only [List.append_assoc, List.cons_append, List.nil_append]

theorem append_choice (function : String) (t ts r : List Char) :
    function.toList ++ "(PropertyName=".toList ++ '\'' :: t ++ ",PropertyValues=[".toList ++ ts
        ++ "])".toList ++ r
      = function.toList ++ '(' :: ((Operand.path "PropertyName=").text
        ++ '\'' :: (t ++ ",PropertyValues=[".toList ++ ts ++ "])".toList ++ r)) := by
  rw [show "(PropertyName=".toList = '(' :: (Operand.path "PropertyName=").text from by decide]
  simp only [List.append_assoc, List.cons_append]

theorem append_comparison (operand : Operand) (operator : String) (t r : List Char) :
    operand.text ++ ' ' :: operator.toList ++ ' ' :: t ++ r
      = operand.text ++ ' ' :: (operator.toList ++ ' ' :: (t ++ r)) := by
  simp only [List.append_assoc, List.cons_append]

theorem append_quantified (path : String) (quantifier : Quantifier) (t r : List Char) :
    path.toList ++ '/' :: quantifier.token.toList ++ "(i: ".toList ++ t ++ [')'] ++ r
      = (quantifierWord path quantifier).toList
        ++ '(' :: ((Operand.path "i:").text ++ ' ' :: (t ++ ')' :: r)) := by
  rw [show "(i: ".toList = '(' :: ((Operand.path "i:").text ++ [' ']) from by decide,
    quantifierWord, String.toList_append, String.toList_append,
    show "/".toList = ['/'] from by decide]
  simp only [List.append_assoc, List.cons_append, List.nil_append]

theorem wellFormed_propertyName : (Operand.path "PropertyName=").WellFormed :=
  show IsWord "PropertyName=" from by decide

theorem wellFormed_iterator : (Operand.path "i:").WellFormed :=
  show IsWord "i:" from by decide

/-- Only a parenthesized expression begins with a parenthesis. -/
theorem ReadsPrimary.of_parenthesis {t r rest : List Char} {primary : Primary}
    (h : ReadsPrimary t primary) (heq : t ++ r = '(' :: rest) :
    ∃ t' expr, primary = .parenthesized expr ∧ ReadsExpr t' expr ∧ t' ++ ')' :: r = rest := by
  -- Every other rule begins with a word.
  cases h with
  | @parenthesized t expr h =>
    refine ⟨t, expr, rfl, h, ?_⟩
    simpa using heq
  | call hfunction =>
    rw [append_call] at heq
    exact absurd heq (hfunction.append_ne_cons (by decide))
  | choice hfunction hproperty =>
    obtain ⟨_, rfl⟩ := hproperty.exists_cons
    rw [append_choice] at heq
    exact absurd heq (hfunction.append_ne_cons (by decide))
  | comparison hoperand =>
    rw [append_comparison] at heq
    exact absurd heq (Operand.append_ne_cons hoperand (by decide))
  | quantified hpath =>
    rw [append_quantified] at heq
    exact absurd heq ((isWord_quantifierWord _ hpath).append_ne_cons (by decide))

/-- Only a comparison begins with an operand and a space. -/
theorem ReadsPrimary.of_comparison {t r rest : List Char} {primary : Primary} {operand : Operand}
    (h : ReadsPrimary t primary) (hoperand : operand.WellFormed)
    (heq : t ++ r = operand.text ++ ' ' :: rest) :
    ∃ t' operator value, primary = .comparison operand operator value ∧
      operator ∈ comparisonOperators ∧ ReadsValue t' value ∧
      operator.toList ++ ' ' :: (t' ++ r) = rest := by
  -- Every other rule begins with a parenthesis or with a function and its argument.
  cases h with
  | parenthesized h =>
    exact absurd heq.symm (Operand.append_ne_cons hoperand (by decide))
  | call hfunction hoperand' =>
    rw [append_call] at heq
    exact absurd heq.symm (Operand.append_ne_application hoperand hfunction hoperand' (by decide)
      (by decide) (by decide))
  | choice hfunction hproperty =>
    obtain ⟨_, rfl⟩ := hproperty.exists_cons
    rw [append_choice] at heq
    exact absurd heq.symm (Operand.append_ne_application hoperand hfunction
      wellFormed_propertyName (by decide) (by decide) (by decide))
  | @comparison t operand' operator value hoperand' hoperator hvalue =>
    rw [append_comparison] at heq
    obtain ⟨rfl, _, hrest⟩ := Operand.append_inj hoperand' hoperand (by decide) (by decide) heq
    exact ⟨t, operator, value, rfl, hoperator, hvalue, hrest⟩
  | quantified hpath =>
    rw [append_quantified] at heq
    exact absurd heq.symm (Operand.append_ne_application hoperand (isWord_quantifierWord _ hpath)
      wellFormed_iterator (by decide) (by decide) (by decide))

/-- What a primary that begins with an application is, by the character that ends its operand. -/
inductive AppliedReading (function : String) (operand : Operand) (r : List Char) :
    Char → List Char → Primary → Prop where
  | call {t : List Char} {text : String} (htext : ReadsLiteral t text) :
    AppliedReading function operand r ',' (t ++ ')' :: r) (.call function operand text)
  | choice {t ts : List Char} {property : String} {values : List String}
    (hproperty : ReadsLiteral ('\'' :: t) property) (hvalues : ReadsLiterals ts values) :
    AppliedReading function operand r '\''
      (t ++ ",PropertyValues=[".toList ++ ts ++ "])".toList ++ r)
      (.choice function property values)
  | quantified {t : List Char} {path : String} {quantifier : Quantifier} {expr : Expr}
    (hfunction : function = quantifierWord path quantifier) (h : ReadsExpr t expr) :
    AppliedReading function operand r ' ' (t ++ ')' :: r) (.quantified path quantifier expr)

/-- Only calls, choices and quantifiers begin with an application. -/
theorem ReadsPrimary.of_application {t r rest : List Char} {primary : Primary} {function : String}
    {operand : Operand} {d : Char} (h : ReadsPrimary t primary) (hfunction : IsWord function)
    (hoperand : operand.WellFormed) (hd : d ∈ operandEnds) (hclose : d ≠ ')')
    (heq : t ++ r = function.toList ++ '(' :: (operand.text ++ d :: rest)) :
    AppliedReading function operand r d rest primary := by
  have hopen : '(' ∈ wordDelimiters := by decide
  -- Three rules are applications, and the function and the first argument can be compared.
  cases h with
  | parenthesized h =>
    exact absurd heq.symm (hfunction.append_ne_cons (by decide))
  | call hfunction' hoperand' htext =>
    rw [append_call] at heq
    obtain ⟨rfl, _, heq⟩ := hfunction'.append_inj hfunction hopen hopen heq
    obtain ⟨rfl, rfl, rfl⟩ := Operand.append_inj hoperand' hoperand (by decide) hd heq
    exact .call htext
  | choice hfunction' hproperty hvalues =>
    obtain ⟨t', rfl⟩ := hproperty.exists_cons
    rw [append_choice] at heq
    obtain ⟨rfl, _, heq⟩ := hfunction'.append_inj hfunction hopen hopen heq
    obtain ⟨rfl, rfl, rfl⟩ :=
      Operand.append_inj wellFormed_propertyName hoperand (by decide) hd heq
    exact .choice hproperty hvalues
  | comparison hoperand' _ _ =>
    rw [append_comparison] at heq
    exact absurd heq
      (Operand.append_ne_application hoperand' hfunction hoperand (by decide) hd hclose)
  | quantified hpath h =>
    rw [append_quantified] at heq
    obtain ⟨hword, _, heq⟩ := (isWord_quantifierWord _ hpath).append_inj hfunction hopen hopen heq
    obtain ⟨rfl, rfl, rfl⟩ := Operand.append_inj wellFormed_iterator hoperand (by decide) hd heq
    exact .quantified hword.symm h

/-! ## Negation

The word `not` in front of a primary could also be the name of a field. Which one it is follows from
what stands behind: no primary that begins with an operator opens a parenthesis. -/

/-- The text begins with a word, which may be empty, and an opening parenthesis. -/
def Opens (text : List Char) : Prop :=
  ∃ (word : String) (rest : List Char),
    Avoids word wordDelimiters ∧ text = word.toList ++ '(' :: rest

/-- What is written before a primary that is negated or not. -/
def negation (negated : Bool) : List Char := if negated then "not ".toList else []

theorem not_append (r : List Char) :
    "not ".toList ++ r = (Operand.path "not").text ++ ' ' :: r := by
  rw [show "not ".toList = (Operand.path "not").text ++ [' '] from by decide, List.append_assoc,
    List.singleton_append]

theorem wellFormed_not : (Operand.path "not").WellFormed := show IsWord "not" from by decide

/-- In front of a parenthesis, `not` and a space are a negation: they could only be the first
operand of a comparison otherwise, and a parenthesis is no operator. -/
theorem ReadsUnary.of_opens {t r rest : List Char} {unary : Unary Primary} {negated : Bool}
    (h : ReadsUnary t unary) (hrest : Opens rest) (heq : t ++ r = negation negated ++ rest) :
    ∃ t' primary, unary = ⟨negated, primary⟩ ∧ ReadsPrimary t' primary ∧ t' ++ r = rest := by
  obtain ⟨word, rest, hword, rfl⟩ := hrest
  cases h with
  | @primary t primary h =>
    cases negated with
    | false => exact ⟨t, primary, rfl, h, heq⟩
    | true =>
      -- Without a negation, `not` is an operand and the text behind it begins with an operator.
      rw [negation, if_pos rfl, not_append] at heq
      obtain ⟨_, operator, _, _, hoperator, _, hoperator_eq⟩ :=
        h.of_comparison wellFormed_not heq
      have hword' : Avoids operator wordDelimiters :=
        (by decide : ∀ o ∈ comparisonOperators, Avoids o wordDelimiters) operator hoperator
      exact absurd hoperator_eq
        (hword'.append_ne hword (by decide) (by decide) (by decide))
  | @not t primary h =>
    rw [List.append_assoc] at heq
    cases negated with
    | true => exact ⟨t, primary, rfl, h, List.append_cancel_left heq⟩
    | false =>
      -- With a negation, the first word of the text is `not`, and a space follows it.
      rw [not_append] at heq
      exact absurd heq (wellFormed_not.2.append_ne hword (by decide) (by decide) (by decide))

/-- What opens a parenthesis is not negated. -/
theorem ReadsUnary.of_opens_plain {t r rest : List Char} {unary : Unary Primary}
    (h : ReadsUnary t unary) (hrest : Opens rest) (heq : t ++ r = rest) :
    ∃ t' primary, unary = ⟨false, primary⟩ ∧ ReadsPrimary t' primary ∧ t' ++ r = rest :=
  h.of_opens hrest (show t ++ r = negation false ++ rest from heq)

/-- A comparison that ends at a parenthesis is read as such. It may begin with the word `not`, but
then what follows has too few words for a negated comparison. -/
theorem ReadsUnary.of_comparison {t v r s : List Char} {unary : Unary Primary} {operand : Operand}
    {operator : String} {value : Value} {d : Char} (h : ReadsUnary t unary)
    (hoperand : operand.WellFormed) (hoperator : operator ∈ comparisonOperators)
    (hvalue : ReadsValue v value) (hd : d ∈ comparisonEnds)
    (heq : t ++ d :: r = operand.text ++ ' ' :: (operator.toList ++ ' ' :: (v ++ ')' :: s))) :
    unary = ⟨false, .comparison operand operator value⟩ ∧ d :: r = ')' :: s := by
  have hwords : ∀ o ∈ comparisonOperators, IsWord o := by decide
  -- If it were negated, `not` would be the operand and the operator that of the negated comparison.
  cases h with
  | primary h =>
    obtain ⟨t', operator', value', rfl, hoperator', hvalue', hrest⟩ :=
      h.of_comparison hoperand heq
    obtain ⟨rfl, _, hrest⟩ := (hwords _ hoperator').append_inj (hwords _ hoperator) (by decide)
      (by decide) hrest
    obtain ⟨rfl, rfl, rfl⟩ := hvalue'.append_inj hvalue hd (by decide) hrest
    exact ⟨rfl, rfl⟩
  | @not t primary h =>
    rw [List.append_assoc, not_append] at heq
    obtain ⟨_, _, hrest⟩ := Operand.append_inj wellFormed_not hoperand (by decide) (by decide) heq
    have hpath : (Operand.path operator).WellFormed := hwords _ hoperator
    obtain ⟨t', operator', value', _, hoperator', _, hvalue_eq⟩ := h.of_comparison hpath hrest
    -- The value stands where the negated comparison has its operator, but ends the comparison.
    exfalso
    cases hvalue with
    | literal hl =>
      obtain ⟨_, rfl⟩ := hl.exists_cons
      exact (hwords _ hoperator').append_ne_cons (by decide) hvalue_eq
    | word hword =>
      have hoperator'' : Avoids operator' valueDelimiters :=
        (hwords _ hoperator').2.mono (by decide)
      exact hoperator''.append_ne hword.2 (by decide) (by decide) (by decide) hvalue_eq

/-! ## What follows a unary

An expression is taken apart at its first unary. Behind it comes the end or a connective, and which
one determines whether the next unary belongs to the same conjunction. -/

/-- The rest of an expression after its first unary. -/
inductive Continues (unary : Unary Primary) : List Char → Expr → Prop where
  | done : Continues unary [] [[unary]]
  | and {t : List Char} {conj : Conj} {expr : Expr} (h : ReadsExpr t (conj :: expr)) :
    Continues unary (" and ".toList ++ t) ((unary :: conj) :: expr)
  | or {t : List Char} {expr : Expr} (h : ReadsExpr t expr) :
    Continues unary (" or ".toList ++ t) ([unary] :: expr)

/-- Every expression is a unary and what follows it. -/
theorem ReadsExpr.exists_continues {t : List Char} {expr : Expr} (h : ReadsExpr t expr) :
    ∃ t₁ t₂ unary, t = t₁ ++ t₂ ∧ ReadsUnary t₁ unary ∧ Continues unary t₂ expr := by
  cases h with
  | conj h =>
    cases h with
    | @unary t unary h => exact ⟨t, [], unary, by simp, h, .done⟩
    | @and t t' unary conj h h' =>
      exact ⟨t, " and ".toList ++ t', unary, List.append_assoc .., h, .and (.conj h')⟩
  | @or t t' _ expr h h' =>
    cases h with
    | @unary t unary h =>
      exact ⟨t, " or ".toList ++ t', unary, List.append_assoc .., h, .or h'⟩
    | @and t₁ t₂ unary conj h h'' =>
      refine ⟨t₁, " and ".toList ++ (t₂ ++ " or ".toList ++ t'), unary, ?_, h, .and (.or h'' h')⟩
      simp only [List.append_assoc]

/-- With `or`, what follows is a conjunction of its own. -/
theorem attach_of_startsConj {c : Combinator} (hc : c.startsConj = true) (unary : Unary Primary)
    (expr : Expr) : attach unary c expr = [unary] :: expr := by
  cases expr <;> simp [attach, hc]

/-- With `and`, what follows joins the first conjunction. -/
theorem attach_of_not_startsConj {c : Combinator} (hc : c.startsConj = false)
    (unary : Unary Primary) (conj : Conj) (expr : Expr) :
    attach unary c (conj :: expr) = (unary :: conj) :: expr := by
  simp [attach, hc]

/-- What is written between two siblings, the negation of the second one left aside. -/
def connective (c : Combinator) : List Char :=
  if c.startsConj then " or ".toList else " and ".toList

/-- A unary before an expression. -/
theorem ReadsUnary.attach {t t' : List Char} {unary : Unary Primary} {expr : Expr} (c : Combinator)
    (h : ReadsUnary t unary) (h' : ReadsExpr t' expr) :
    ReadsExpr (t ++ connective c ++ t') (attach unary c expr) := by
  cases hc : c.startsConj with
  | true =>
    rw [attach_of_startsConj hc, connective, if_pos hc]
    exact .or (.unary h) h'
  | false =>
    rw [connective, if_neg (by simp [hc])]
    cases h' with
    | conj hconj =>
      rw [attach_of_not_startsConj hc]
      exact .conj (.and h hconj)
    | or hconj hexpr =>
      rw [attach_of_not_startsConj hc, ← List.append_assoc, ← List.append_assoc]
      exact .or (.and h hconj) hexpr

/-- An expression ends here: nothing follows, or a closing parenthesis. -/
def Closes (rest : List Char) : Prop := rest = [] ∨ ∃ rest', rest = ')' :: rest'

/-- No space follows an expression that ends here. -/
theorem Closes.ne_space {rest rest' : List Char} (h : Closes rest) : rest ≠ ' ' :: rest' := by
  rintro rfl
  rcases h with hnil | ⟨rest', hclose⟩
  · exact absurd hnil (by simp)
  · exact absurd (List.cons.inj hclose).1 (by decide)

/-- Where an expression ends, its last unary ends too. -/
theorem Continues.of_closes {t r s : List Char} {unary : Unary Primary} {expr : Expr}
    (h : Continues unary t expr) (hs : Closes s) (heq : t ++ r = s) :
    expr = [[unary]] ∧ r = s := by
  cases h with
  | done => exact ⟨rfl, heq⟩
  | and h => exact absurd heq.symm hs.ne_space
  | or h => exact absurd heq.symm hs.ne_space

/-- The combinators that an expression has a word for. -/
def attachable : List Combinator := [.and, .or, .andNot, .orNot]

/-- What a combinator writes is a connective and a negation. -/
theorem toList_token : ∀ c ∈ attachable,
    c.token.toList = connective c ++ negation c.negates := by decide

/-- Where a combinator is written, the expression goes on with what it attaches. -/
theorem Continues.of_token {t r rest : List Char} {unary : Unary Primary} {expr : Expr}
    {c : Combinator} (h : Continues unary t expr) (hc : c ∈ attachable) (hr : Closes r)
    (heq : t ++ r = c.token.toList ++ rest) :
    ∃ t' expr', expr = attach unary c expr' ∧ ReadsExpr t' expr' ∧
      t' ++ r = negation c.negates ++ rest := by
  rw [toList_token c hc, List.append_assoc] at heq
  cases h with
  | done =>
    -- Nothing is left of the expression, but what follows it does not begin with a space.
    have hspace : ∃ rest', r = ' ' :: rest' := by
      refine ⟨(connective c).tail ++ (negation c.negates ++ rest), ?_⟩
      rw [← List.cons_append, show ' ' :: (connective c).tail = connective c from by
        cases c <;> decide]
      exact heq
    obtain ⟨_, hspace⟩ := hspace
    exact absurd hspace hr.ne_space
  | @and t conj expr h =>
    rw [List.append_assoc] at heq
    cases hstarts : c.startsConj with
    | true =>
      rw [connective, if_pos hstarts] at heq
      exact absurd heq (by simp)
    | false =>
      rw [connective, if_neg (by simp [hstarts])] at heq
      exact ⟨t, conj :: expr, (attach_of_not_startsConj hstarts ..).symm, h,
        List.append_cancel_left heq⟩
  | @or t expr h =>
    rw [List.append_assoc] at heq
    cases hstarts : c.startsConj with
    | true =>
      rw [connective, if_pos hstarts] at heq
      exact ⟨t, expr, (attach_of_startsConj hstarts ..).symm, h, List.append_cancel_left heq⟩
    | false =>
      rw [connective, if_neg (by simp [hstarts])] at heq
      exact absurd heq (by simp)

/-- In front of a closing parenthesis stands a single primary, if the text before it can be read as
the first unary of an expression in one way only. -/
theorem ReadsPrimary.of_wrapped {t r s rest : List Char} {primary inner : Primary}
    (h : ReadsPrimary t primary) (heq : t ++ r = '(' :: rest)
    (hinner : ∀ {t d r unary}, ReadsUnary t unary → d ∈ comparisonEnds → t ++ d :: r = rest →
      unary = ⟨false, inner⟩ ∧ d :: r = ')' :: s) :
    primary = wrapped inner ∧ r = s := by
  obtain ⟨t', expr, rfl, hexpr, heq⟩ := h.of_parenthesis heq
  obtain ⟨t₁, t₂, unary, rfl, hunary, hcontinues⟩ := hexpr.exists_continues
  -- Behind the first unary stands a space or the closing parenthesis.
  obtain ⟨d, rest', hd, hrest⟩ :
      ∃ d rest', d ∈ comparisonEnds ∧ t₂ ++ ')' :: r = d :: rest' := by
    cases hcontinues with
    | done => exact ⟨')', r, by decide, rfl⟩
    | @and t _ _ _ => exact ⟨' ', "and ".toList ++ t ++ ')' :: r, by decide, by simp⟩
    | @or t _ _ => exact ⟨' ', "or ".toList ++ t ++ ')' :: r, by decide, by simp⟩
  rw [List.append_assoc, hrest] at heq
  obtain ⟨rfl, hclose⟩ := hinner hunary hd heq
  obtain ⟨rfl, hrs⟩ := hcontinues.of_closes (.inr ⟨s, rfl⟩) (hrest.trans hclose)
  exact ⟨rfl, (List.cons.inj hrs).2⟩

/-! ## Primaries that have one reading

Each kind of text that a filter writes is now compared with all readings of a primary; the rules
that begin differently are excluded first. -/

/-- A call has no other reading, whatever follows. -/
theorem ReadsPrimary.eq_call {t t' r s : List Char} {primary : Primary} {function text : String}
    {operand : Operand} (h : ReadsPrimary t primary)
    (hcall : ReadsPrimary t' (.call function operand text)) (heq : t ++ r = t' ++ s) :
    primary = .call function operand text ∧ r = s := by
  cases hcall with
  | @call t' _ _ _ hfunction hoperand htext =>
    rw [append_call] at heq
    -- The rest is named, so that the cases of the reading can be matched against it.
    obtain ⟨rest, hrest⟩ : ∃ rest, rest = t' ++ ')' :: s := ⟨_, rfl⟩
    rw [← hrest] at heq
    have hreading := h.of_application hfunction hoperand (by decide) (by decide) heq
    cases hreading with
    | call htext' =>
      obtain ⟨rfl, hclose⟩ := htext'.append_inj htext (by simp) (by simp) hrest
      exact ⟨rfl, (List.cons.inj hclose).2⟩

/-- A choice has no other reading, whatever follows. -/
theorem ReadsPrimary.eq_choice {t t' r s : List Char} {primary : Primary}
    {function property : String} {values : List String} (h : ReadsPrimary t primary)
    (hchoice : ReadsPrimary t' (.choice function property values)) (heq : t ++ r = t' ++ s) :
    primary = .choice function property values ∧ r = s := by
  cases hchoice with
  | @choice t' ts _ _ _ hfunction hproperty hvalues =>
    obtain ⟨t', rfl⟩ := hproperty.exists_cons
    rw [append_choice] at heq
    obtain ⟨rest, hrest⟩ : ∃ rest, rest
        = t' ++ ",PropertyValues=[".toList ++ ts ++ "])".toList ++ s := ⟨_, rfl⟩
    rw [← hrest] at heq
    have hreading := h.of_application hfunction wellFormed_propertyName (by decide) (by decide) heq
    cases hreading with
    | @choice u us property' values' hproperty' hvalues' =>
      -- The property is a literal that ends at a comma, the values end at a bracket.
      have hlist : ('\'' :: u) ++ (",PropertyValues=[".toList ++ (us ++ ("])".toList ++ r)))
          = ('\'' :: t') ++ (",PropertyValues=[".toList ++ (ts ++ ("])".toList ++ s))) := by
        simpa only [List.cons_append, List.append_assoc, List.cons.injEq, true_and] using hrest
      have hcomma : ∀ rest : List Char,
          (",PropertyValues=[".toList ++ rest).head? ≠ some '\'' := by simp
      obtain ⟨rfl, htail⟩ := hproperty'.append_inj hproperty (hcomma _) (hcomma _) hlist
      have hbracket : "])".toList = [']', ')'] := by decide
      rw [hbracket] at htail
      obtain ⟨rfl, hend⟩ := hvalues'.append_inj hvalues (List.append_cancel_left htail)
      exact ⟨rfl, (List.cons.inj hend).2⟩

/-- A comparison in parentheses has no other reading, whatever follows. -/
theorem ReadsPrimary.eq_wrapped_comparison {t t' r s : List Char} {primary : Primary}
    {operand : Operand} {operator : String} {value : Value} (h : ReadsPrimary t primary)
    (hcomparison : ReadsPrimary t' (.comparison operand operator value))
    (heq : t ++ r = '(' :: (t' ++ ')' :: s)) :
    primary = wrapped (.comparison operand operator value) ∧ r = s := by
  cases hcomparison with
  | comparison hoperand hoperator hvalue =>
    rw [append_comparison] at heq
    exact h.of_wrapped heq fun hunary hd hrest =>
      hunary.of_comparison hoperand hoperator hvalue hd hrest

/-- A quantifier in parentheses has no other reading, whatever follows, if its expression has none
in front of a closing parenthesis. -/
theorem ReadsPrimary.eq_wrapped_quantified {t t' r s : List Char} {primary : Primary}
    {path : String} {quantifier : Quantifier} {expr : Expr} (h : ReadsPrimary t primary)
    (hpath : IsWord path)
    (heq : t ++ r = '(' :: (path.toList ++ '/' :: quantifier.token.toList ++ "(i: ".toList ++ t'
      ++ [')'] ++ ')' :: s))
    (hunique : ∀ {u expr' r'}, ReadsExpr u expr' → u ++ ')' :: r' = t' ++ ')' :: ')' :: s →
      expr' = expr ∧ r' = ')' :: s) :
    primary = wrapped (.quantified path quantifier expr) ∧ r = s := by
  rw [append_quantified] at heq
  refine h.of_wrapped heq fun {u d r' unary} hunary hd hrest => ?_
  have hword := isWord_quantifierWord quantifier hpath
  -- The word of the quantifier opens a parenthesis, so there is no negation.
  obtain ⟨u', primary', rfl, hprimary, hrest⟩ :=
    hunary.of_opens_plain ⟨_, _, hword.2, rfl⟩ hrest
  obtain ⟨rest, hrest'⟩ : ∃ rest, rest = t' ++ ')' :: ')' :: s := ⟨_, rfl⟩
  rw [← hrest'] at hrest
  have hreading := hprimary.of_application hword wellFormed_iterator (by decide) (by decide) hrest
  cases hreading with
  | quantified hfunction hexpr =>
    obtain ⟨rfl, rfl⟩ := quantifierWord_inj hfunction
    obtain ⟨rfl, hend⟩ := hunique hexpr hrest'
    exact ⟨rfl, hend⟩

end ODataQuery.Expression
