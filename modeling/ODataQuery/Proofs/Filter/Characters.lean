import ODataQuery.Proofs.Filter.Erasure
import ODataQuery.Proofs.Filter.Rules
import ODataQuery.Proofs.Text.Delimiters

/-!
# Characters in the text of a tree

A character that no fixed part of a filter expression has comes into the text of a tree only through
names and values that are written as they are. The trees whose names and values do not hold such
characters keep the `plainRules`. Their templates do not hold them either
(`avoids_siblingsTemplate`), and nor do their texts, as literals are inert
(`avoids_renderSiblings`).
-/

namespace ODataQuery

/-! ## Characters of filter expressions

Everything that rendering adds of its own, from operators to parentheses, is made of a few
characters. Delimiters that are not among them can only come from the tree (`IsForeign.avoids`). -/

/-- The characters of the fixed parts of a filter expression: letters of its words, and
punctuation. -/
def isSyntaxCharacter (c : Char) : Bool :=
  c.isAlpha || " ().,:/='[]".toList.contains c

/-- No fixed part of a filter expression has one of the characters. -/
def IsForeign (delimiters : List Char) : Prop := ∀ d ∈ delimiters, isSyntaxCharacter d = false

instance (delimiters : List Char) : Decidable (IsForeign delimiters) :=
  List.decidableBAll (fun d => isSyntaxCharacter d = false) delimiters

/-- A text of syntax characters has no foreign delimiter. -/
theorem IsForeign.avoids {delimiters : List Char} (h : IsForeign delimiters) {s : String}
    (hs : s.toList.all isSyntaxCharacter = true) : Avoids s delimiters := by
  intro c hc hmem
  have hsyntax : isSyntaxCharacter c = true := List.all_eq_true.mp hs c hc
  simp [h c hmem] at hsyntax

/-! ## Plain trees

A tree is plain if the texts that rendering copies hold no delimiter. Values that are encoded may
hold anything. -/

/-- What a condition writes as it is holds none of the characters. Values that are compared as text
are free. -/
structure Condition.IsPlain (delimiters : List Char) (condition : Condition) : Prop where
  field : Avoids condition.field delimiters
  value : condition.comparator ∈ Comparator.verbatims → Avoids condition.value delimiters
  multiSelectValues : condition.comparator ∈ Comparator.choices →
    ∀ value ∈ condition.multiSelectValues, Avoids value delimiters

instance (delimiters : List Char) (condition : Condition) :
    Decidable (condition.IsPlain delimiters) :=
  decidable_of_iff (_ ∧ _ ∧ _)
    ⟨fun ⟨hfield, hvalue, hvalues⟩ => ⟨hfield, hvalue, hvalues⟩,
      fun h => ⟨h.field, h.value, h.multiSelectValues⟩⟩

/-- What a tree writes as it is holds none of the characters. -/
def plainRules (delimiters : List Char) : TreeRules where
  raw text := Avoids text delimiters
  condition := Condition.IsPlain delimiters
  collection field := Avoids field delimiters

/-! ## Texts of templates

A template avoids delimiters if its texts do, whatever is filled in. -/

/-- The text around the gaps holds none of the given characters. -/
def Template.Avoids (delimiters : List Char) : Template → Prop
  | .text s => ODataQuery.Avoids s delimiters
  | .gap before after => ODataQuery.Avoids before delimiters ∧ after.Avoids delimiters

/-- Templates that avoid delimiters can be put one after the other. -/
theorem Template.Avoids.append {delimiters : List Char} {s t : Template}
    (hs : s.Avoids delimiters) (ht : t.Avoids delimiters) : (s ++ t).Avoids delimiters := by
  induction s with
  | text s =>
    cases t with
    | text t => exact ODataQuery.Avoids.append hs ht
    | gap before after => exact ⟨ODataQuery.Avoids.append hs ht.1, ht.2⟩
  | gap before after ih => exact ⟨hs.1, ih hs.2⟩

/-! ## Templates of plain trees

Induction over the tree: names and copied values avoid the delimiters since the tree is plain, and
the rest since it is syntax. -/

section Plain

variable {delimiters : List Char} (hforeign : IsForeign delimiters)

include hforeign

/-- The name of a field may stand in `tolower`, which is syntax. -/
theorem avoids_fieldRef {qualifier field : String} (hqualifier : Avoids qualifier delimiters)
    (hfield : Avoids field delimiters) (caseInsensitive : Bool) :
    Avoids (Literal.fieldRef qualifier field caseInsensitive) delimiters := by
  unfold Literal.fieldRef
  split
  · simp only [Avoids.append_iff]
    exact ⟨⟨⟨hforeign.avoids (by decide), hqualifier⟩, hfield⟩, hforeign.avoids (by decide)⟩
  · exact hqualifier.append hfield

/-- The choices of a condition are copied between quotes. -/
theorem avoids_renderMultiSelect {field : String} {values : List String} (negated : Bool)
    (hfield : Avoids field delimiters) (hvalues : ∀ value ∈ values, Avoids value delimiters) :
    Avoids (renderMultiSelect negated field values) delimiters := by
  have hname : Avoids (if negated then "DoesNotContainValues" else "ContainValues") delimiters := by
    cases negated <;> exact hforeign.avoids (by decide)
  have hquote : Avoids "'" delimiters := hforeign.avoids (by decide)
  have hlist :
      Avoids (String.intercalate "," (values.map fun v => "'" ++ v ++ "'")) delimiters := by
    refine Avoids.intercalate (hforeign.avoids (by decide)) fun t ht => ?_
    obtain ⟨value, hvalue, rfl⟩ := List.mem_map.mp ht
    exact (hquote.append (hvalues value hvalue)).append hquote
  simp only [renderMultiSelect, Avoids.append_iff]
  exact ⟨⟨⟨⟨⟨⟨⟨hforeign.avoids (by decide), hforeign.avoids (by decide)⟩, hname⟩,
    hforeign.avoids (by decide)⟩, hfield⟩, hforeign.avoids (by decide)⟩, hlist⟩,
    hforeign.avoids (by decide)⟩

/-- A condition copies its field always, and its values where its comparator writes them as they
are. -/
theorem Condition.avoids_template {qualifier : String} {condition : Condition}
    (hqualifier : Avoids qualifier delimiters) (h : condition.IsPlain delimiters) :
    (condition.template qualifier).Avoids delimiters := by
  have htextField := avoids_fieldRef hforeign hqualifier h.field condition.caseInsensitive
  have hspace : Avoids " " delimiters := hforeign.avoids (by decide)
  have hoperator : ∀ o ∈ ["eq", "ne", "gt", "ge", "lt", "le"], Avoids o delimiters := by
    have hletters : ∀ o ∈ ["eq", "ne", "gt", "ge", "lt", "le"],
        o.toList.all isSyntaxCharacter = true := by decide
    exact fun o ho => hforeign.avoids (hletters o ho)
  unfold Condition.template
  cases hop : condition.comparator.operation with
  | call function =>
    have hletters : ∀ f ∈ ["contains", "startswith", "endswith"],
        f.toList.all isSyntaxCharacter = true := by decide
    have hfunction : Avoids function delimiters :=
      hforeign.avoids (hletters _ (Comparator.function_mem hop))
    simp only [Template.Avoids, Avoids.append_iff]
    exact ⟨⟨⟨⟨hfunction, hforeign.avoids (by decide)⟩, htextField⟩, hforeign.avoids (by decide)⟩,
      hforeign.avoids (by decide)⟩
  | text operator =>
    have hoperator := hoperator _ (Comparator.operator_mem (.inl hop))
    simp only [Template.Avoids, Avoids.append_iff]
    exact ⟨⟨⟨⟨htextField, hspace⟩, hoperator⟩, hspace⟩, hforeign.avoids (by decide)⟩
  | verbatim operator =>
    -- This is the one operation that copies the value.
    have hvalue := h.value (by simp [Comparator.mem_verbatims_iff, hop])
    have hoperator := hoperator _ (Comparator.operator_mem (.inr (.inl hop)))
    simp only [Template.Avoids, Condition.render, hop, Avoids.append_iff]
    exact ⟨⟨⟨⟨⟨hqualifier, h.field⟩, hspace⟩, hoperator⟩, hspace⟩, hvalue⟩
  | null operator =>
    have hoperator := hoperator _ (Comparator.operator_mem (.inr (.inr hop)))
    simp only [Template.Avoids, Condition.render, hop, Avoids.append_iff]
    exact ⟨⟨⟨⟨hqualifier, h.field⟩, hspace⟩, hoperator⟩, hforeign.avoids (by decide)⟩
  | choice negated =>
    have hvalues := h.multiSelectValues (by simp [Comparator.mem_choices_iff, hop])
    simp only [Template.Avoids, Condition.render, hop]
    exact avoids_renderMultiSelect hforeign negated (hqualifier.append h.field) hvalues

/-- Quantifiers are syntax. -/
theorem Quantifier.avoids_token (quantifier : Quantifier) :
    Avoids quantifier.token delimiters := by
  cases quantifier <;> exact hforeign.avoids (by decide)

/-- Tokens between filters are syntax. -/
theorem Combinator.avoids_token (c : Combinator) : Avoids c.token delimiters := by
  cases c <;> exact hforeign.avoids (by decide)

/-- Parentheses are syntax. -/
theorem Template.Avoids.parenthesized {t : Template} (ht : t.Avoids delimiters) :
    t.parenthesized.Avoids delimiters := by
  have hopen : Template.Avoids delimiters (.text "(") := hforeign.avoids (by decide)
  have hclose : Template.Avoids delimiters (.text ")") := hforeign.avoids (by decide)
  exact (hopen.append ht).append hclose

mutual
/-- Induction over the tree. Below a quantified filter the qualifier is that of the iterator, which
is syntax. -/
theorem Filter.avoids_template {qualifier : String} (hqualifier : Avoids qualifier delimiters) :
    ∀ {filter : Filter}, filter.Keeps (plainRules delimiters) →
      (filter.template qualifier).Avoids delimiters
  | .raw _ _, h => h
  | .leaf _ condition, h => by
    have hcondition := Condition.avoids_template hforeign hqualifier h
    rw [Filter.template]
    split
    · exact hcondition
    · exact hcondition.parenthesized hforeign
  | .quantified _ field quantifier children, h => by
    have hquantifier := Quantifier.avoids_token hforeign quantifier
    -- The parts of the quantifier are fixed but for its field, which is plain.
    have hbefore : Avoids (field ++ "/" ++ quantifier.token ++ "(" ++ iterator ++ ": ")
        delimiters := by
      simp only [Avoids.append_iff]
      exact ⟨⟨⟨⟨⟨h.1, hforeign.avoids (by decide)⟩, hquantifier⟩, hforeign.avoids (by decide)⟩,
        hforeign.avoids (by decide)⟩, hforeign.avoids (by decide)⟩
    have hiterator : Avoids iteratorQualifier delimiters := hforeign.avoids (by decide)
    have hchildren := avoids_siblingsTemplate hiterator h.2.2
    have hafter : Template.Avoids delimiters (.text ")") := hforeign.avoids (by decide)
    have hinside := (Template.Avoids.append (s := .text _) hbefore hchildren).append hafter
    rw [Filter.template]
    exact hinside.parenthesized hforeign
  | .group _ children, h => by
    rw [Filter.template]
    exact (avoids_siblingsTemplate hqualifier h.2).parenthesized hforeign

theorem avoids_siblingsTemplate {qualifier : String} (hqualifier : Avoids qualifier delimiters) :
    ∀ {filters : List Filter}, SiblingsKeep (plainRules delimiters) filters →
      (siblingsTemplate qualifier filters).Avoids delimiters
  | [], _ => hforeign.avoids (by decide)
  | _ :: _, h => by
    rw [siblingsTemplate]
    exact (Filter.avoids_template hqualifier h.1).append (avoids_attachedTemplate hqualifier h.2)

theorem avoids_attachedTemplate {qualifier : String} (hqualifier : Avoids qualifier delimiters) :
    ∀ {filters : List Filter}, AttachedKeep (plainRules delimiters) filters →
      (attachedTemplate qualifier filters).Avoids delimiters
  | [], _ => hforeign.avoids (by decide)
  | filter :: _, h => by
    have htoken : Template.Avoids delimiters (.text filter.combinator.token) :=
      Combinator.avoids_token hforeign filter.combinator
    rw [attachedTemplate]
    exact (htoken.append (Filter.avoids_template hqualifier h.2.1)).append
      (avoids_attachedTemplate hqualifier h.2.2)
end

end Plain

/-! ## Texts of plain trees

Literals are plain characters, percent signs and quotes. So a text holds no ampersand if nothing
that is copied into it holds one. -/

/-- Filling in texts that avoid delimiters adds none. -/
theorem Template.Avoids.fill {delimiters : List Char} {t : Template} {fillings : List String}
    (ht : t.Avoids delimiters)
    (hfillings : ∀ filling ∈ fillings, ODataQuery.Avoids filling delimiters) :
    ODataQuery.Avoids (t.fill fillings) delimiters := by
  induction t generalizing fillings with
  | text s => exact ht
  | gap before after ih =>
    cases fillings with
    | nil => exact ht.1.append (ih ht.2 hfillings)
    | cons filling fillings =>
      rw [List.forall_mem_cons] at hfillings
      exact (ht.1.append hfillings.1).append (ih ht.2 hfillings.2)

/-- Literals are inert, so they hold no ampersand. -/
theorem Condition.avoids_literal (condition : Condition) : Avoids condition.literal ['&'] := by
  rw [condition.literal_eq_inQuotes, inQuotes, Avoids.append_iff, Avoids.append_iff]
  refine ⟨⟨by decide, fun c hc hmem => ?_⟩, by decide⟩
  obtain rfl := List.mem_singleton.mp hmem
  rcases condition.isInert_literalInside _ hc with hplain | hpercent
  · exact absurd hplain (by decide)
  · exact absurd hpercent (by decide)

/-- The text of a tree holds no ampersand if the names and values that it writes as they are hold
none. -/
theorem avoids_renderSiblings {filters : List Filter}
    (h : SiblingsKeep (plainRules ['&']) filters) :
    Avoids (renderSiblings "" filters) ['&'] := by
  rw [renderSiblings_eq_written, writtenSiblings]
  refine (avoids_siblingsTemplate (by decide) (by decide) h).fill fun filling hfilling => ?_
  obtain ⟨condition, _, rfl⟩ := List.mem_map.mp hfilling
  exact condition.avoids_literal

end ODataQuery
