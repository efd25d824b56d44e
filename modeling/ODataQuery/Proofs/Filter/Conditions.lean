import ODataQuery.Proofs.Filter.Rules
import ODataQuery.Proofs.Filter.Template
import ODataQuery.Proofs.Filter.Unambiguous

/-!
# Conditions in filter expressions

The text of a condition is a primary of the grammar, and has no other reading, whatever text follows
(`Filter.reads_leaf`, `Filter.leaf_unique`). This holds however its value is written, as long as
a reader takes what is written for a literal.
-/

namespace ODataQuery

open Expression

/-! ## What may be written

A tree can be read back if its fields are words and what it writes without quotes holds nothing of
the syntax. Values between quotes may hold anything but quotes in a multiple choice, where they are
not encoded. -/

/-- The field is a word, and what is written as it is ends where its surroundings end it. Values
that are compared as text are free. -/
structure Condition.IsWritable (condition : Condition) : Prop where
  field : IsWord condition.field
  value : condition.comparator ∈ Comparator.verbatims → IsUnquoted condition.value
  multiSelectValues : condition.comparator ∈ Comparator.choices →
    ∀ value ∈ condition.multiSelectValues, '\'' ∉ value.toList

/-- There is no text of an expression, what is written is writable, and no list inside another
filter is empty. -/
def writableRules : TreeRules where
  raw _ := False
  condition := Condition.IsWritable
  collection := IsWord
  children filters := filters ≠ []

/-- A qualifier in front of a field leaves it a word. -/
theorem isWord_append {qualifier field : String} (hqualifier : Avoids qualifier wordDelimiters)
    (hfield : IsWord field) : IsWord (qualifier ++ field) :=
  ⟨fun hempty => hfield.1 (String.append_eq_empty_iff.mp hempty).2, hqualifier.append hfield.2⟩

/-- The characters of a text in parentheses. -/
theorem toList_parenthesized (text : String) :
    (parenthesized text).toList = '(' :: text.toList ++ [')'] := by
  simp [parenthesized]

/-- The characters of a quantified filter, up to the conditions on the iterator. -/
theorem toList_quantify (field : String) (quantifier : Quantifier) (conditions : String) :
    (quantify field quantifier conditions).toList
      = field.toList ++ '/' :: quantifier.token.toList ++ "(i: ".toList ++ conditions.toList
        ++ [')'] := by
  have hopen : "(i: ".toList = "(".toList ++ (iterator.toList ++ ": ".toList) := by decide
  rw [quantify, hopen]
  simp only [String.toList_append, List.append_assoc]
  rw [show "/".toList = ['/'] from by decide, show ")".toList = [')'] from by decide]
  rfl

/-! ## Reading a condition

Each operation writes one primary of the grammar, and the primary tells which operation it was. The
literal of a condition is a parameter, so what is proved here holds of the encoded and of the
decoded text. -/

section Condition

variable {qualifier text : String} {literal : Condition → String} {condition : Condition}

/-- The first operand of a comparison is written as it is read. -/
theorem toList_fieldRef (qualifier : String) (condition : Condition) :
    (Literal.fieldRef qualifier condition.field condition.caseInsensitive).toList
      = (condition.textOperand qualifier).text := by
  unfold Literal.fieldRef Condition.textOperand
  split
  · rw [String.append_assoc, String.append_assoc, String.toList_append, ← String.append_assoc,
      String.toList_append, ← List.append_assoc]
    rfl
  · rfl

/-- With or without `tolower`, the operand is well-formed if the name is a word. -/
theorem wellFormed_textOperand
    (h : IsWord (qualifier ++ condition.field)) :
    (condition.textOperand qualifier).WellFormed := by
  unfold Condition.textOperand
  split <;> exact h

/-- A text without quotes is a literal once it stands between quotes. -/
theorem readsLiteral_of_no_quote {value : String} (h : '\'' ∉ value.toList) :
    ReadsLiteral ("'" ++ value ++ "'").toList value := by
  rw [readsLiteral_iff, Literal.quoted, Literal.doubleQuotes_of_no_quote h]
  simp

/-- Values without quotes are read back from between their quotes. -/
theorem readsLiterals_intercalate {values : List String}
    (h : ∀ value ∈ values, '\'' ∉ value.toList) :
    ReadsLiterals (String.intercalate "," (values.map fun v => "'" ++ v ++ "'")).toList values := by
  induction values with
  | nil => exact .nil
  | cons value values ih =>
    have hliteral := readsLiteral_of_no_quote (h value List.mem_cons_self)
    have hliterals := ih fun v hv => h v (List.mem_cons_of_mem _ hv)
    cases values with
    | nil =>
      rw [List.map_singleton, String.intercalate_singleton]
      exact .single hliteral
    | cons value' values =>
      rw [List.map_cons, List.map_cons, String.intercalate_cons_cons, String.toList_append,
        String.toList_append, show ",".toList = [','] from by decide, List.append_assoc]
      exact .cons hliteral hliterals (by simp)

/-- A multiple choice is read with its function, its field and its values. -/
theorem readsPrimary_renderMultiSelect {field : String} {values : List String} (negated : Bool)
    (hfield : '\'' ∉ field.toList) (hvalues : ∀ value ∈ values, '\'' ∉ value.toList) :
    ReadsPrimary (renderMultiSelect negated field values).toList
      (.choice (vendorNamespace ++ "." ++ if negated then "DoesNotContainValues"
        else "ContainValues") field values) := by
  have hfunction : IsWord (vendorNamespace ++ "."
      ++ if negated then "DoesNotContainValues" else "ContainValues") := by
    cases negated <;> decide
  have hchoice := ReadsPrimary.choice hfunction (readsLiteral_of_no_quote hfield)
    (readsLiterals_intercalate hvalues)
  -- The quotes belong to the literals, and not to what stands around them.
  have htext : (renderMultiSelect negated field values).toList
      = (vendorNamespace ++ "." ++ if negated then "DoesNotContainValues"
          else "ContainValues").toList ++ "(PropertyName=".toList ++ ("'" ++ field ++ "'").toList
        ++ ",PropertyValues=[".toList
        ++ (String.intercalate "," (values.map fun v => "'" ++ v ++ "'")).toList
        ++ "])".toList := by
    rw [renderMultiSelect, show "(PropertyName='" = "(PropertyName=" ++ "'" from by decide,
      show "',PropertyValues=[" = "'" ++ ",PropertyValues=[" from by decide]
    simp only [String.toList_append, List.append_assoc]
  rw [htext]
  exact hchoice

/-- The text of a condition has its syntax tree as a reading. -/
theorem Condition.reads (hqualifier : Avoids qualifier wordDelimiters) (h : condition.IsWritable)
    (hliteral : ReadsLiteral (literal condition).toList text) :
    ReadsPrimary (condition.written literal qualifier).toList
      (condition.primaryOf text qualifier) := by
  have hpath := isWord_append hqualifier h.field
  have hoperandPath : (Operand.path (qualifier ++ condition.field)).WellFormed := hpath
  have hoperand := wellFormed_textOperand hpath
  have hspace : " ".toList = [' '] := by decide
  unfold Condition.written Condition.template Condition.primaryOf
  cases hop : condition.comparator.operation with
  | call function =>
    have hfunction : ∀ f ∈ ["contains", "startswith", "endswith"], IsWord f := by decide
    have hcall := ReadsPrimary.call (hfunction _ (Comparator.function_mem hop)) hoperand hliteral
    simp only [Template.fill, String.toList_append, toList_fieldRef]
    rw [show "(".toList = ['('] from by decide, show ",".toList = [','] from by decide,
      show ")".toList = [')'] from by decide]
    simpa only [List.append_assoc, List.cons_append, List.nil_append] using hcall
  | text operator =>
    have hcomparison := ReadsPrimary.comparison hoperand (Comparator.operator_mem (.inl hop))
      (.literal hliteral)
    simp only [Template.fill, String.toList_append, toList_fieldRef, hspace]
    simpa only [List.append_assoc, List.cons_append, List.nil_append, String.toList_empty,
      List.append_nil] using hcomparison
  | verbatim operator =>
    -- The value is written without quotes, so it has to be a word of its own.
    have hvalue := h.value (by simp [Comparator.mem_verbatims_iff, hop])
    have hcomparison := ReadsPrimary.comparison hoperandPath
      (Comparator.operator_mem (.inr (.inl hop))) (.word hvalue)
    simp only [Template.fill, Condition.render, hop, String.toList_append, hspace]
    simpa only [Operand.text_path, String.toList_append, List.append_assoc, List.cons_append,
      List.nil_append] using hcomparison
  | null operator =>
    have hnull : IsUnquoted "null" := by decide
    have hcomparison := ReadsPrimary.comparison hoperandPath
      (Comparator.operator_mem (.inr (.inr hop))) (.word hnull)
    simp only [Template.fill, Condition.render, hop, String.toList_append, hspace]
    rw [show " null".toList = ' ' :: "null".toList from by decide]
    simpa only [Operand.text_path, String.toList_append, List.append_assoc, List.cons_append,
      List.nil_append] using hcomparison
  | choice negated =>
    have hvalues := h.multiSelectValues (by simp [Comparator.mem_choices_iff, hop])
    have hquote := hpath.2.not_mem (d := '\'') (by decide)
    simp only [Template.fill, Condition.render, hop]
    exact readsPrimary_renderMultiSelect negated hquote hvalues

/-- What is in parentheses is read as what it holds. -/
theorem readsPrimary_wrapped {inner : String} {primary : Primary}
    (h : ReadsPrimary inner.toList primary) :
    ReadsPrimary (parenthesized inner).toList (wrapped primary) := by
  rw [toList_parenthesized]
  exact .parenthesized (.conj (.unary (.primary h)))

/-- The text of a condition among its siblings has its syntax tree as a reading. -/
theorem Filter.reads_leaf (hqualifier : Avoids qualifier wordDelimiters) (h : condition.IsWritable)
    (hliteral : ReadsLiteral (literal condition).toList text) (c : Combinator) :
    ReadsPrimary ((Filter.leaf c condition).written literal qualifier).toList
      (condition.leafOf text qualifier) := by
  have hcondition := Condition.reads hqualifier h hliteral
  rw [Filter.written_leaf, Condition.leafOf]
  split
  · exact hcondition
  · exact readsPrimary_wrapped hcondition

/-- The text of a condition among its siblings has no other reading, whatever follows. -/
theorem Filter.leaf_unique {c : Combinator} {t r s : List Char} {primary : Primary}
    (hqualifier : Avoids qualifier wordDelimiters) (h : condition.IsWritable)
    (hliteral : ReadsLiteral (literal condition).toList text) (hread : ReadsPrimary t primary)
    (heq : t ++ r = ((Filter.leaf c condition).written literal qualifier).toList ++ s) :
    primary = condition.leafOf text qualifier ∧ r = s := by
  have hreads := Condition.reads hqualifier h hliteral
  rw [Filter.written_leaf] at heq
  unfold Condition.leafOf
  unfold Condition.primaryOf at hreads ⊢
  cases hop : condition.comparator.operation with
  | call _ =>
    simp only [hop, Comparator.isSelfDelimited_eq, if_true] at hreads heq ⊢
    exact hread.eq_call hreads heq
  | choice _ =>
    simp only [hop, Comparator.isSelfDelimited_eq, if_true] at hreads heq ⊢
    exact hread.eq_choice hreads heq
  | text _ | verbatim _ | null _ =>
    simp only [hop, Comparator.isSelfDelimited_eq, Bool.false_eq_true, if_false] at hreads heq ⊢
    -- Comparisons stand in parentheses, so the reading of these is taken apart first.
    rw [toList_parenthesized, List.append_assoc] at heq
    exact hread.eq_wrapped_comparison hreads heq

end Condition

/-! ## How the text of a filter begins

A filter begins with a parenthesis or with a word and what ends a word, and never with a space. So a
token in front of it cannot be mistaken for a part of it. -/

/-- Where the operand of an application ends with which a filter begins. -/
def startEnds : List Char := [',', '\'']

/-- What ends the word at the beginning also ends an operand. -/
theorem startEnds_subset : startEnds ⊆ operandEnds := by decide

/-- The text begins with a parenthesis, or with an application whose operand does not end at
a space. -/
inductive Starts : List Char → Prop where
  | parenthesis (rest : List Char) : Starts ('(' :: rest)
  | application {function : String} {operand : Operand} {d : Char} (rest : List Char)
    (hfunction : IsWord function) (hoperand : operand.WellFormed) (hd : d ∈ startEnds) :
    Starts (function.toList ++ '(' :: (operand.text ++ d :: rest))

/-- The beginning of a filter opens a primary. -/
theorem Starts.opens {text : List Char} (h : Starts text) : Opens text := by
  cases h with
  | parenthesis rest => exact ⟨"", rest, by decide, rfl⟩
  | application rest hfunction => exact ⟨_, _, hfunction.2, rfl⟩

/-- A comparison does not begin like a filter. -/
theorem Starts.ne_comparison {text rest : List Char} {operand : Operand} (h : Starts text)
    (hoperand : operand.WellFormed) : text ≠ operand.text ++ ' ' :: rest := by
  rintro rfl
  generalize htext : operand.text ++ ' ' :: rest = text at h
  cases h with
  | parenthesis => exact Operand.append_ne_cons hoperand (by decide) htext
  | application _ hfunction hoperand' hd =>
    exact Operand.append_ne_application hoperand hfunction hoperand' (by decide)
      (startEnds_subset hd) (ne_of_mem_of_not_mem hd (by decide)) htext

/-- A quantifier does not begin like a filter. -/
theorem Starts.ne_quantified {text rest : List Char} {word : String} (h : Starts text)
    (hword : IsWord word) :
    text ≠ word.toList ++ '(' :: ((Operand.path "i:").text ++ ' ' :: rest) := by
  intro htext
  cases h with
  | parenthesis => exact hword.append_ne_cons (by decide) htext.symm
  | application _ hfunction hoperand hd =>
    obtain ⟨_, _, htext⟩ := hfunction.append_inj hword (by decide) (by decide) htext
    have hspace := (Operand.append_inj hoperand wellFormed_iterator (startEnds_subset hd)
      (by decide) htext).2.1
    exact absurd (hspace ▸ hd) (by decide)

/-- A call or a choice, as a filter begins. -/
theorem Expression.ReadsPrimary.starts {t rest : List Char} {primary : Primary}
    (h : ReadsPrimary t primary)
    (hprimary : (∃ function operand text, primary = .call function operand text) ∨
      ∃ function property values, primary = .choice function property values) :
    Starts (t ++ rest) := by
  cases h with
  | call hfunction hoperand =>
    rw [append_call]
    exact .application _ hfunction hoperand (by decide)
  | choice hfunction hproperty =>
    obtain ⟨_, rfl⟩ := hproperty.exists_cons
    rw [append_choice]
    exact .application _ hfunction wellFormed_propertyName (by decide)
  | parenthesized | comparison | quantified => simp at hprimary

/-- What is written for a filter begins in this way, whatever follows it. -/
theorem Filter.starts_written {qualifier : String} {literal : Condition → String}
    (hqualifier : Avoids qualifier wordDelimiters)
    (hliteral : ∀ condition, ∃ text, ReadsLiteral (literal condition).toList text)
    {filter : Filter} (h : filter.Keeps writableRules) (rest : List Char) :
    Starts ((filter.written literal qualifier).toList ++ rest) := by
  have hparenthesized : ∀ text : String, Starts ((parenthesized text).toList ++ rest) := by
    intro text
    rw [toList_parenthesized]
    exact .parenthesis _
  cases filter with
  | raw _ _ => exact h.elim
  | leaf _ condition =>
    obtain ⟨text, hliteral⟩ := hliteral condition
    have hreads := Condition.reads hqualifier h hliteral
    rw [Filter.written_leaf]
    split
    · next hself =>
      -- What needs no parentheses is a call or a choice.
      refine hreads.starts ?_
      rw [Comparator.isSelfDelimited_eq] at hself
      unfold Condition.primaryOf
      cases hop : condition.comparator.operation with
      | call _ => exact .inl ⟨_, _, _, rfl⟩
      | choice _ => exact .inr ⟨_, _, _, rfl⟩
      | text _ | verbatim _ | null _ => simp [hop] at hself
    · exact hparenthesized _
  | quantified _ _ _ _ =>
    rw [Filter.written_quantified]
    exact hparenthesized _
  | group _ _ =>
    rw [Filter.written_group]
    exact hparenthesized _

end ODataQuery
