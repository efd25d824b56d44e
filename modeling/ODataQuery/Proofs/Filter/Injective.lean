import ODataQuery.Proofs.Filter.Conditions
import ODataQuery.Proofs.Filter.Erasure
import ODataQuery.Proofs.Filter.NormalForm

/-!
# Different queries have different texts

Two lists of filters compile to the same text if and only if they have the same normal form
(`compile_eq_iff_normalForm_eq`), whatever their combinators are. The step is that the text of
a filter determines the normal form of the filter and where the text ends, whatever follows
(`Filter.append_inj`); the run over siblings then takes one filter and one combinator after another
(`siblings_append_inj`, `attached_append_inj`).
-/

namespace ODataQuery

open Expression

/-! ## Trees whose texts can be told apart

The result is about trees that pass the check, where what a condition writes as it is is not empty
either. Both together are the rules of the induction. -/

/-- What a condition writes as it is ends where its surroundings end it, and no value looks like
the missing one. -/
structure Condition.IsDistinct (condition : Condition) : Prop where
  field : Avoids condition.field wordDelimiters
  value : condition.comparator ∈ Comparator.verbatims →
    Avoids condition.value valueDelimiters ∧ condition.value ≠ "null"
  multiSelectValues : condition.comparator ∈ Comparator.choices →
    ∀ value ∈ condition.multiSelectValues, '\'' ∉ value.toList

instance (condition : Condition) : Decidable condition.IsDistinct :=
  decidable_of_iff (_ ∧ _ ∧ _)
    ⟨fun ⟨hfield, hvalue, hvalues⟩ => ⟨hfield, hvalue, hvalues⟩,
      fun h => ⟨h.field, h.value, h.multiSelectValues⟩⟩

/-- There is no text of an expression, and names and values can be told from what surrounds them.
Combinators are free. -/
def distinctRules : TreeRules where
  raw _ := False
  condition := Condition.IsDistinct
  collection field := Avoids field wordDelimiters

/-- No value that is written as it is looks like the missing one. -/
def Condition.IsNotNull (condition : Condition) : Prop :=
  condition.comparator ∈ Comparator.verbatims → condition.value ≠ "null"

/-- Writable parts, none of which looks like the missing value. -/
def injectiveRules : TreeRules :=
  { writableRules with condition := fun c => c.IsWritable ∧ c.IsNotNull }

/-- What is kept for the induction is enough to read the text back. -/
theorem writableRules_impliedBy_injectiveRules : writableRules.ImpliedBy injectiveRules where
  raw h := h
  condition h := h.1
  collection h := h
  children h := h
  attachment h := h

/-- What passes the check and is distinct fulfils the rules of the induction. -/
theorem injectiveRules_impliedBy : injectiveRules.ImpliedBy (distinctRules.both checkedRules) where
  raw h := h.1
  condition := by
    rintro condition ⟨hdistinct, hne, hvalue⟩
    -- A value that is copied is required, so the check has found it.
    have hrequires := fun hmem : condition.comparator ∈ Comparator.verbatims =>
      Comparator.requiresValue_iff_mem.mpr (.inr hmem)
    have hwritable : condition.IsWritable :=
      { field := ⟨hne, hdistinct.field⟩
        value := fun hmem => ⟨hvalue (hrequires hmem), (hdistinct.value hmem).1⟩
        multiSelectValues := hdistinct.multiSelectValues }
    exact ⟨hwritable, fun hmem => (hdistinct.value hmem).2⟩
  collection h := ⟨h.2, h.1⟩
  children h := h.2
  attachment _ := trivial

/-! ## Conditions

The syntax tree of a condition determines what its comparator reads. Two comparators that
write the same are no exception, since the normal form has one name for both. -/

/-- A literal is read as what stands between its quotes, which holds no quote. -/
theorem readsLiteral_literal (condition : Condition) :
    ReadsLiteral condition.literal.toList condition.literalInside := by
  rw [condition.literal_eq_inQuotes]
  refine readsLiteral_of_no_quote fun hquote => ?_
  -- What is encoded has only plain characters and percent signs.
  rcases condition.isInert_literalInside _ hquote with hplain | hpercent
  · exact absurd hplain (by decide)
  · exact absurd hpercent (by decide)

/-- A literal determines the value that is compared. -/
theorem foldCase_eq_of_literalInside_eq {c c' : Condition}
    (h : c.literalInside = c'.literalInside) :
    Literal.foldCase c.value c.caseInsensitive = Literal.foldCase c'.value c'.caseInsensitive := by
  -- Decoding undoes the encoding, and what is left are doubled quotes.
  have hdecoded := congrArg Percent.decode? h
  rw [Condition.literalInside, Condition.literalInside, Percent.decode?_encode,
    Percent.decode?_encode] at hdecoded
  have hdoubled := String.ofList_injective (Option.some.inj hdecoded)
  exact String.toList_injective (Literal.doubleQuotes_injective hdoubled)

/-- An operand determines the field and whether letter case counts. -/
theorem textOperand_inj {qualifier : String} {c c' : Condition}
    (h : c.textOperand qualifier = c'.textOperand qualifier) :
    c.field = c'.field ∧ c.caseInsensitive = c'.caseInsensitive := by
  unfold Condition.textOperand at h
  cases hc : c.caseInsensitive <;> cases hc' : c'.caseInsensitive <;>
    simp only [hc, hc', if_true, if_false, Bool.false_eq_true, Operand.path.injEq,
      Operand.lowered.injEq, reduceCtorEq] at h
  · exact ⟨(String.append_right_inj qualifier).mp h, rfl⟩
  · exact ⟨(String.append_right_inj qualifier).mp h, rfl⟩

/-- The normal form of a condition is made of what its comparator reads. -/
theorem Condition.normal_eq {c c' : Condition}
    (hoperation : c.comparator.operation = c'.comparator.operation) (hfield : c.field = c'.field)
    (htext : c.comparator ∈ Comparator.texts →
      c.caseInsensitive = c'.caseInsensitive ∧
        Literal.foldCase c.value c.caseInsensitive = Literal.foldCase c'.value c'.caseInsensitive)
    (hverbatim : c.comparator ∈ Comparator.verbatims → c.value = c'.value)
    (hchoice : c.comparator ∈ Comparator.choices → c.multiSelectValues = c'.multiSelectValues) :
    c.normal = c'.normal := by
  have hcomparator := Comparator.normal_eq_iff.mpr hoperation
  unfold Condition.normal
  rw [hfield, hcomparator]
  -- Comparators that do the same are in the same lists.
  cases hop : c.comparator.operation with
  | call _ | text _ =>
    have hop' := hoperation ▸ hop
    obtain ⟨hcase, hvalue⟩ := htext (by simp [Comparator.mem_texts_iff, hop])
    rw [Literal.foldCase, Literal.foldCase, hcase] at hvalue
    simp [Comparator.mem_texts_iff, Comparator.mem_nulls_iff, Comparator.mem_choices_iff, hop, hop',
      hcase, hvalue]
  | verbatim _ =>
    have hop' := hoperation ▸ hop
    have hvalue := hverbatim (by simp [Comparator.mem_verbatims_iff, hop])
    simp [Comparator.mem_texts_iff, Comparator.mem_nulls_iff, Comparator.mem_choices_iff, hop, hop',
      hvalue]
  | null _ =>
    have hop' := hoperation ▸ hop
    simp [Comparator.mem_texts_iff, Comparator.mem_nulls_iff, Comparator.mem_choices_iff, hop, hop']
  | choice _ =>
    have hop' := hoperation ▸ hop
    have hvalues := hchoice (by simp [Comparator.mem_choices_iff, hop])
    simp [Comparator.mem_texts_iff, Comparator.mem_nulls_iff, Comparator.mem_choices_iff, hop, hop',
      hvalues]

theorem choiceFunction_inj {negated negated' : Bool}
    (h : vendorNamespace ++ "." ++ (if negated then "DoesNotContainValues" else "ContainValues")
      = vendorNamespace ++ "." ++ if negated' then "DoesNotContainValues" else "ContainValues") :
    negated = negated' := by
  have hname := (String.append_right_inj _).mp h
  cases negated <;> cases negated' <;> first | rfl | exact absurd hname (by decide)

/-- Conditions with the same syntax tree have the same normal form. -/
theorem Condition.normal_eq_of_primaryOf_eq {qualifier : String} {c c' : Condition}
    (hc : c.IsNotNull) (hc' : c'.IsNotNull)
    (h : c.primaryOf c.literalInside qualifier = c'.primaryOf c'.literalInside qualifier) :
    c.normal = c'.normal := by
  unfold Condition.primaryOf at h
  unfold Condition.IsNotNull at hc hc'
  -- Different kinds of primaries are never equal, so most pairs of operations are excluded at once.
  cases hop : c.comparator.operation <;> cases hop' : c'.comparator.operation <;>
    simp only [hop, hop', Primary.call.injEq, Primary.choice.injEq, Primary.comparison.injEq,
      Operand.path.injEq, Value.literal.injEq, Value.word.injEq, reduceCtorEq,
      and_false] at h
  -- What is left are the pairs of operations whose syntax trees have one shape.
  case call.call =>
    obtain ⟨rfl, hoperand, hinside⟩ := h
    obtain ⟨hfield, hcase⟩ := textOperand_inj hoperand
    exact Condition.normal_eq (hop.trans hop'.symm) hfield
      (fun _ => ⟨hcase, foldCase_eq_of_literalInside_eq hinside⟩)
      (by simp [Comparator.mem_verbatims_iff, hop]) (by simp [Comparator.mem_choices_iff, hop])
  case text.text =>
    obtain ⟨hoperand, rfl, hinside⟩ := h
    obtain ⟨hfield, hcase⟩ := textOperand_inj hoperand
    exact Condition.normal_eq (hop.trans hop'.symm) hfield
      (fun _ => ⟨hcase, foldCase_eq_of_literalInside_eq hinside⟩)
      (by simp [Comparator.mem_verbatims_iff, hop]) (by simp [Comparator.mem_choices_iff, hop])
  case verbatim.verbatim =>
    obtain ⟨hpath, rfl, hvalue⟩ := h
    exact Condition.normal_eq (hop.trans hop'.symm) ((String.append_right_inj qualifier).mp hpath)
      (by simp [Comparator.mem_texts_iff, hop]) (fun _ => hvalue)
      (by simp [Comparator.mem_choices_iff, hop])
  -- The missing value is written as a word, which no value is.
  case verbatim.null => exact absurd h.2.2 (hc (by simp [Comparator.mem_verbatims_iff, hop]))
  case null.verbatim =>
    exact absurd h.2.2.symm (hc' (by simp [Comparator.mem_verbatims_iff, hop']))
  case null.null =>
    obtain ⟨hpath, rfl, _⟩ := h
    exact Condition.normal_eq (hop.trans hop'.symm) ((String.append_right_inj qualifier).mp hpath)
      (by simp [Comparator.mem_texts_iff, hop]) (by simp [Comparator.mem_verbatims_iff, hop])
      (by simp [Comparator.mem_choices_iff, hop])
  case choice.choice =>
    obtain ⟨hfunction, hpath, hvalues⟩ := h
    obtain rfl := choiceFunction_inj hfunction
    exact Condition.normal_eq (hop.trans hop'.symm) ((String.append_right_inj qualifier).mp hpath)
      (by simp [Comparator.mem_texts_iff, hop]) (by simp [Comparator.mem_verbatims_iff, hop])
      (fun _ => hvalues)

/-- No condition is read as something in parentheses. -/
theorem Condition.primaryOf_ne_wrapped {text qualifier : String} {condition : Condition}
    {primary : Primary} : condition.primaryOf text qualifier ≠ wrapped primary := by
  unfold Condition.primaryOf wrapped
  split <;> simp

/-- The parentheses around a comparison do not hide which condition it was. -/
theorem Condition.primaryOf_eq_of_leafOf_eq {text text' qualifier : String} {c c' : Condition}
    (h : c.leafOf text qualifier = c'.leafOf text' qualifier) :
    c.primaryOf text qualifier = c'.primaryOf text' qualifier := by
  unfold Condition.leafOf at h
  split at h <;> split at h
  · exact h
  · exact absurd h Condition.primaryOf_ne_wrapped
  · exact absurd h.symm Condition.primaryOf_ne_wrapped
  · simpa [wrapped] using h

/-! ## How texts begin

Where a filter begins there is a parenthesis or a call, and what comes behind the parenthesis tells
conditions, quantified filters and groups apart. -/

section Beginnings

variable {qualifier : String} (hqualifier : Avoids qualifier wordDelimiters)

include hqualifier

/-- What is written for a filter begins as a filter does, if its literals are encoded. -/
theorem Filter.starts_literal {filter : Filter} (h : filter.Keeps injectiveRules)
    (rest : List Char) :
    Starts ((filter.written Condition.literal qualifier).toList ++ rest) :=
  Filter.starts_written hqualifier (fun c => ⟨_, readsLiteral_literal c⟩)
    (h.mono writableRules_impliedBy_injectiveRules) rest

/-- A condition that begins with a parenthesis is a comparison. -/
theorem Filter.leaf_of_parenthesis {c : Combinator} {condition : Condition} {r rest : List Char}
    (h : condition.IsWritable)
    (heq : ((Filter.leaf c condition).written Condition.literal qualifier).toList ++ r
      = '(' :: rest) :
    ∃ (operand : Operand) (rest' : List Char),
      operand.WellFormed ∧ rest = operand.text ++ ' ' :: rest' := by
  have hreads := Condition.reads hqualifier h (readsLiteral_literal condition)
  generalize htext : (condition.written Condition.literal qualifier).toList = text at hreads
  rw [Filter.written_leaf] at heq
  unfold Condition.primaryOf at hreads
  -- Calls and multiple choices begin with a name, and only comparisons stand in parentheses.
  cases hop : condition.comparator.operation with
  | call _ =>
    simp only [hop, Comparator.isSelfDelimited_eq, if_true, htext] at hreads heq
    obtain ⟨_, _, hprimary, _⟩ := hreads.of_parenthesis heq
    simp at hprimary
  | choice _ =>
    simp only [hop, Comparator.isSelfDelimited_eq, if_true, htext] at hreads heq
    obtain ⟨_, _, hprimary, _⟩ := hreads.of_parenthesis heq
    simp at hprimary
  | text _ | verbatim _ | null _ =>
    simp only [hop, Comparator.isSelfDelimited_eq, Bool.false_eq_true, if_false] at hreads heq
    simp only [toList_parenthesized, htext, List.cons_append, List.append_assoc, List.cons.injEq,
      true_and] at heq
    cases hreads with
    | comparison hoperand =>
      rw [append_comparison] at heq
      exact ⟨_, _, hoperand, heq.symm⟩

omit hqualifier in
/-- What a quantified filter writes, brought into the form of an application. -/
theorem Filter.toList_quantified (c : Combinator) (field : String) (quantifier : Quantifier)
    (children : List Filter) (r : List Char) :
    ((Filter.quantified c field quantifier children).written Condition.literal qualifier).toList
        ++ r
      = '(' :: ((quantifierWord field quantifier).toList ++ '(' :: ((Operand.path "i:").text
        ++ ' ' :: ((writtenSiblings Condition.literal iteratorQualifier children).toList
          ++ ')' :: ')' :: r))) := by
  rw [Filter.written_quantified, toList_parenthesized, toList_quantify, List.append_assoc,
    ← append_quantified]
  rfl

omit hqualifier in
theorem Filter.toList_group (c : Combinator) (children : List Filter) (r : List Char) :
    ((Filter.group c children).written Condition.literal qualifier).toList ++ r
      = '(' :: ((writtenSiblings Condition.literal qualifier children).toList ++ ')' :: r) := by
  rw [Filter.written_group, toList_parenthesized, List.append_assoc]
  rfl

/-- A run that is not empty begins like its first filter. -/
theorem starts_siblings {filters : List Filter} (hne : filters ≠ [])
    (h : SiblingsKeep injectiveRules filters) (rest : List Char) :
    Starts ((writtenSiblings Condition.literal qualifier filters).toList ++ rest) := by
  cases filters with
  | nil => exact absurd rfl hne
  | cons filter siblings =>
    rw [writtenSiblings_cons, String.toList_append, List.append_assoc]
    exact Filter.starts_literal hqualifier h.1 _

/-- A condition does not begin like a quantified filter. -/
theorem Filter.leaf_ne_quantified {c c' : Combinator} {condition : Condition} {field : String}
    {quantifier : Quantifier} {children : List Filter} {r s : List Char}
    (h : condition.IsWritable) (hfield : IsWord field) :
    ((Filter.leaf c condition).written Condition.literal qualifier).toList ++ r
      ≠ ((Filter.quantified c' field quantifier children).written Condition.literal
          qualifier).toList ++ s := by
  intro heq
  -- Behind the parenthesis there is an operand on the left and a call of a quantifier on the right.
  rw [Filter.toList_quantified] at heq
  obtain ⟨_, _, hoperand, hrest⟩ := Filter.leaf_of_parenthesis hqualifier h heq
  exact Operand.append_ne_application hoperand (isWord_quantifierWord quantifier hfield)
    wellFormed_iterator (by decide) (by decide) (by decide) hrest.symm

/-- A condition does not begin like a group. -/
theorem Filter.leaf_ne_group {c c' : Combinator} {condition : Condition} {children : List Filter}
    {r s : List Char} (h : condition.IsWritable) (hne : children ≠ [])
    (hchildren : SiblingsKeep injectiveRules children) :
    ((Filter.leaf c condition).written Condition.literal qualifier).toList ++ r
      ≠ ((Filter.group c' children).written Condition.literal qualifier).toList ++ s := by
  intro heq
  rw [Filter.toList_group] at heq
  obtain ⟨_, _, hoperand, hrest⟩ := Filter.leaf_of_parenthesis hqualifier h heq
  exact (starts_siblings hqualifier hne hchildren _).ne_comparison hoperand hrest

/-- A quantified filter does not begin like a group. -/
theorem Filter.quantified_ne_group {c c' : Combinator} {field : String} {quantifier : Quantifier}
    {children children' : List Filter} {r s : List Char} (hfield : IsWord field)
    (hne : children' ≠ []) (hchildren : SiblingsKeep injectiveRules children') :
    ((Filter.quantified c field quantifier children).written Condition.literal qualifier).toList
        ++ r
      ≠ ((Filter.group c' children').written Condition.literal qualifier).toList ++ s := by
  intro heq
  rw [Filter.toList_quantified, Filter.toList_group] at heq
  exact (starts_siblings hqualifier hne hchildren _).ne_quantified
    (isWord_quantifierWord quantifier hfield) (List.cons.inj heq).2.symm

end Beginnings

/-! ## Combinators

Behind a filter comes the next token or the end, and in front of a filter no token can be mistaken
for another one. -/

/-- What opens a primary does not begin with what ends an operand. -/
theorem Expression.Opens.ne_cons {text rest : List Char} {d : Char} (h : Opens text)
    (hd : d ∈ operandEnds) : text ≠ d :: rest := by
  rintro rfl
  obtain ⟨word, rest', hword, htext⟩ := h
  have hempty : Avoids "" wordDelimiters := by decide
  exact hempty.append_ne hword (operandEnds_subset hd) (by decide) (ne_open_of_end hd)
    (show "".toList ++ d :: rest = _ from htext)

/-- What opens a primary does not begin with the word `not` and a space. -/
theorem Expression.Opens.ne_not {text rest : List Char} (h : Opens text) :
    text ≠ "not ".toList ++ rest := by
  rintro rfl
  obtain ⟨word, rest', hword, htext⟩ := h
  rw [not_append] at htext
  exact wellFormed_not.2.append_ne hword (by decide) (by decide) (by decide) htext

/-- A combinator is known from what is written for it in front of a filter. Where the text for one
combinator continues that for another, it goes on with a space or with `not`, and no filter begins
like that. -/
theorem Combinator.token_append_inj {c c' : Combinator} {text text' : List Char}
    (h : Opens text) (h' : Opens text')
    (heq : c.token.toList ++ text = c'.token.toList ++ text') : c = c' ∧ text = text' := by
  have hspace : ∀ {rest}, text ≠ ' ' :: rest := h.ne_cons (by decide)
  have hspace' : ∀ {rest}, text' ≠ ' ' :: rest := h'.ne_cons (by decide)
  have hnot : ∀ {rest}, text ≠ 'n' :: 'o' :: 't' :: ' ' :: rest := h.ne_not
  have hnot' : ∀ {rest}, text' ≠ 'n' :: 'o' :: 't' :: ' ' :: rest := h'.ne_not
  cases c <;> cases c' <;> simp [token] at heq ⊢
  -- Equal combinators leave the texts behind them; of the others, pairs without a common
  -- beginning are gone already.
  all_goals first
    | exact heq
    | exact hspace heq
    | exact hspace' heq.symm
    | exact hnot heq
    | exact hnot' heq.symm

/-- Where siblings end, no further one is attached. -/
theorem Expression.Closes.ne_token {r text : List Char} {c : Combinator} (hr : Closes r)
    (h : Opens text) : r ≠ c.token.toList ++ text := by
  intro heq
  have hempty : text ≠ [] := by
    obtain ⟨word, rest, _, rfl⟩ := h
    simp
  rcases hr with rfl | ⟨rest, rfl⟩
  · exact hempty (List.append_eq_nil_iff.mp heq.symm).2
  · cases c with
    | none => exact h.ne_cons (by decide) heq.symm
    | _ => simp [Combinator.token] at heq

/-! ## Filters and siblings

The induction is on the first tree, and the text behind it is arbitrary, since the end of a filter
is only known once the filter is read. -/

mutual
/-- The text of a filter determines its normal form and where the text ends, whatever follows. -/
theorem Filter.append_inj {qualifier : String} (hqualifier : Avoids qualifier wordDelimiters) :
    ∀ {f g : Filter} {r s : List Char}, f.Keeps injectiveRules → g.Keeps injectiveRules →
      (f.written Condition.literal qualifier).toList ++ r
        = (g.written Condition.literal qualifier).toList ++ s →
      f.normal.withCombinator .none = g.normal.withCombinator .none ∧ r = s
  | .raw _ _, _, _, _, hf, _, _ => hf.elim
  | .leaf c condition, g, r, s, hf, hg, heq => by
    cases g with
    | raw _ _ => exact hg.elim
    | leaf c' condition' =>
      -- The second text has a reading, and the first text has one reading only.
      have hread := Filter.reads_leaf hqualifier hg.1 (readsLiteral_literal condition') c'
      obtain ⟨hleaf, hend⟩ :=
        Filter.leaf_unique hqualifier hf.1 (readsLiteral_literal condition) hread heq.symm
      have hprimary := Condition.primaryOf_eq_of_leafOf_eq hleaf
      have hnormal := Condition.normal_eq_of_primaryOf_eq hg.2 hf.2 hprimary
      simp only [Filter.normal, Filter.withCombinator, hnormal]
      exact ⟨trivial, hend.symm⟩
    | quantified _ _ _ _ =>
      exact absurd heq (Filter.leaf_ne_quantified hqualifier hf.1 hg.1)
    | group _ _ => exact absurd heq (Filter.leaf_ne_group hqualifier hf.1 hg.1 hg.2)
  | .quantified c field quantifier children, g, r, s, hf, hg, heq => by
    cases g with
    | raw _ _ => exact hg.elim
    | leaf _ _ =>
      exact absurd heq.symm (Filter.leaf_ne_quantified hqualifier hg.1 hf.1)
    | quantified c' field' quantifier' children' =>
      -- The words in front of the inner parenthesis agree, then the children, which it closes.
      rw [Filter.toList_quantified, Filter.toList_quantified] at heq
      obtain ⟨hword, _, hrest⟩ := (isWord_quantifierWord quantifier hf.1).append_inj
        (isWord_quantifierWord quantifier' hg.1) (by decide) (by decide) (List.cons.inj heq).2
      obtain ⟨rfl, rfl⟩ := quantifierWord_inj hword
      have hiterator : Avoids iteratorQualifier wordDelimiters := by decide
      obtain ⟨hchildren, hend⟩ := siblings_append_inj hiterator hf.2.2 hg.2.2 (.inr ⟨_, rfl⟩)
        (.inr ⟨_, rfl⟩) (List.cons.inj (List.append_cancel_left hrest)).2
      simp only [Filter.normal, Filter.withCombinator, hchildren]
      exact ⟨trivial, (List.cons.inj (List.cons.inj hend).2).2⟩
    | group _ _ => exact absurd heq (Filter.quantified_ne_group hqualifier hf.1 hg.1 hg.2)
  | .group c children, g, r, s, hf, hg, heq => by
    cases g with
    | raw _ _ => exact hg.elim
    | leaf _ _ => exact absurd heq.symm (Filter.leaf_ne_group hqualifier hg.1 hf.1 hf.2)
    | quantified _ _ _ _ =>
      exact absurd heq.symm (Filter.quantified_ne_group hqualifier hg.1 hf.1 hf.2)
    | group c' children' =>
      rw [Filter.toList_group, Filter.toList_group] at heq
      obtain ⟨hchildren, hend⟩ := siblings_append_inj hqualifier hf.2 hg.2 (.inr ⟨_, rfl⟩)
        (.inr ⟨_, rfl⟩) (List.cons.inj heq).2
      simp only [Filter.normal, Filter.withCombinator, hchildren]
      exact ⟨trivial, (List.cons.inj hend).2⟩

/-- The text of siblings determines their normal form, where it ends. -/
theorem siblings_append_inj {qualifier : String} (hqualifier : Avoids qualifier wordDelimiters) :
    ∀ {xs ys : List Filter} {r s : List Char}, SiblingsKeep injectiveRules xs →
      SiblingsKeep injectiveRules ys → Closes r → Closes s →
      (writtenSiblings Condition.literal qualifier xs).toList ++ r
        = (writtenSiblings Condition.literal qualifier ys).toList ++ s →
      normalForm xs = normalForm ys ∧ r = s
  | [], ys, r, s, _, hys, hr, _, heq => by
    cases ys with
    | nil => exact ⟨rfl, heq⟩
    | cons g ys =>
      have hstarts := starts_siblings hqualifier (by simp) hys s
      exact absurd heq (hr.ne_token (c := .none) hstarts.opens)
  | f :: xs, ys, r, s, hxs, hys, hr, hs, heq => by
    cases ys with
    | nil =>
      have hstarts := starts_siblings hqualifier (by simp) hxs r
      exact absurd heq.symm (hs.ne_token (c := .none) hstarts.opens)
    | cons g ys =>
      rw [writtenSiblings_cons, writtenSiblings_cons, String.toList_append, String.toList_append,
        List.append_assoc, List.append_assoc] at heq
      -- The combinator of the first filter is not written, so nothing is said of it.
      obtain ⟨hfilter, heq⟩ := Filter.append_inj hqualifier hxs.1 hys.1 heq
      obtain ⟨hattached, hend⟩ := attached_append_inj hqualifier hxs.2 hys.2 hr hs heq
      exact ⟨by rw [normalForm, normalForm, hfilter, hattached], hend⟩

/-- The text of what is attached determines its normal form, where it ends. Here the combinators
count. -/
theorem attached_append_inj {qualifier : String} (hqualifier : Avoids qualifier wordDelimiters) :
    ∀ {xs ys : List Filter} {r s : List Char}, AttachedKeep injectiveRules xs →
      AttachedKeep injectiveRules ys → Closes r → Closes s →
      (writtenAttached Condition.literal qualifier xs).toList ++ r
        = (writtenAttached Condition.literal qualifier ys).toList ++ s →
      normalAttached xs = normalAttached ys ∧ r = s
  | [], ys, r, s, _, hys, hr, _, heq => by
    cases ys with
    | nil => exact ⟨rfl, heq⟩
    | cons g ys =>
      rw [writtenAttached_cons, String.toList_append, String.toList_append, List.append_assoc,
        List.append_assoc] at heq
      exact absurd heq (hr.ne_token (Filter.starts_literal hqualifier hys.2.1 _).opens)
  | f :: xs, ys, r, s, hxs, hys, hr, hs, heq => by
    rw [writtenAttached_cons, String.toList_append, String.toList_append, List.append_assoc,
      List.append_assoc] at heq
    -- Behind each combinator a filter begins, so the combinators can be compared.
    have hopens := (Filter.starts_literal hqualifier hxs.2.1
      ((writtenAttached Condition.literal qualifier xs).toList ++ r)).opens
    cases ys with
    | nil => exact absurd heq.symm (hs.ne_token hopens)
    | cons g ys =>
      rw [writtenAttached_cons, String.toList_append, String.toList_append, List.append_assoc,
        List.append_assoc] at heq
      have hopens' := (Filter.starts_literal hqualifier hys.2.1
        ((writtenAttached Condition.literal qualifier ys).toList ++ s)).opens
      obtain ⟨hcombinator, heq⟩ := Combinator.token_append_inj hopens hopens' heq
      obtain ⟨hfilter, heq⟩ := Filter.append_inj hqualifier hxs.2.1 hys.2.1 heq
      obtain ⟨hattached, hend⟩ := attached_append_inj hqualifier hxs.2.2 hys.2.2 hr hs heq
      have hnormal : f.normal = g.normal := Filter.eq_of_withCombinator_eq
        (by rw [Filter.combinator_normal, Filter.combinator_normal, hcombinator]) hfilter
      exact ⟨by rw [normalAttached, normalAttached, hnormal, hattached], hend⟩
end

/-! ## Compiled texts

For whole queries the texts behind both runs are empty, and the check provides the rules that are
not assumed. -/

/-- Two queries that pass the check compile to the same text if and only if they have the same
normal form. -/
theorem compile_eq_iff_normalForm_eq (options options' : CompileOptions) {xs ys : List Filter}
    (hxs : (validate options xs).result = .ok ()) (hys : (validate options' ys).result = .ok ())
    (hxsDistinct : SiblingsKeep distinctRules xs) (hysDistinct : SiblingsKeep distinctRules ys) :
    ∃ text text', (compile options xs).result = .ok text ∧
      (compile options' ys).result = .ok text' ∧
      (text = text' ↔ normalForm xs = normalForm ys) := by
  refine ⟨_, _, result_compile hxs, result_compile hys, ?_, renderSiblings_eq_of_normalForm_eq ""⟩
  intro htext
  have hqualifier : Avoids "" wordDelimiters := by decide
  -- What is assumed of the trees and what the check says of them make up the rules of the
  -- induction.
  have hxsKeep := (hxsDistinct.both (siblingsKeep_checkedRules hxs)).mono injectiveRules_impliedBy
  have hysKeep := (hysDistinct.both (siblingsKeep_checkedRules hys)).mono injectiveRules_impliedBy
  rw [renderSiblings_eq_written, renderSiblings_eq_written] at htext
  have hlist := congrArg (fun text => String.toList text ++ []) htext
  exact (siblings_append_inj hqualifier hxsKeep hysKeep (.inl rfl) (.inl rfl) hlist).1

/-- Two spellings of one query: the first combinator, the letter case of a value, the comparator of
a date and an input that is not read differ. -/
theorem compile_eq_iff_normalForm_eq_spellings :
    let xs : List Filter :=
      [.leaf .or { field := "name", value := "Ada", caseInsensitive := true },
       .group .not [.leaf .and { field := "born", comparator := .dateTimeEquals, value := "1815" }]]
    let ys : List Filter :=
      [.leaf .none { field := "name", value := "ADA", caseInsensitive := true },
       .group .not [.leaf .none { field := "born", comparator := .numericEquals, value := "1815",
                                  multiSelectValues := ["1"] }]]
    ∃ text text', (compile {} xs).result = .ok text ∧ (compile {} ys).result = .ok text' ∧
      (text = text' ↔ normalForm xs = normalForm ys) := by
  have hname : Condition.IsDistinct
      { field := "name", value := "Ada", caseInsensitive := true } := by decide
  have hupper : Condition.IsDistinct
      { field := "name", value := "ADA", caseInsensitive := true } := by decide
  have hdate : Condition.IsDistinct
      { field := "born", comparator := .dateTimeEquals, value := "1815" } := by decide
  have hnumber : Condition.IsDistinct
      { field := "born", comparator := .numericEquals, value := "1815",
        multiSelectValues := ["1"] } := by decide
  exact compile_eq_iff_normalForm_eq {} {} rfl rfl
    ⟨hname, trivial, ⟨trivial, hdate, trivial⟩, trivial⟩
    ⟨hupper, trivial, ⟨trivial, hnumber, trivial⟩, trivial⟩

end ODataQuery
