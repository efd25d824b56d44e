import ODataQuery.Filter.Render
import ODataQuery.Proofs.Filter.Comparators
import ODataQuery.Proofs.Text.Percent

/-!
# Templates of filter expressions

The text of a filter tree is a template whose gaps are filled with the literals of its string
values, one for each condition that reads text. `Filter.written` and `writtenSiblings` fill the
template of a tree in any way; their equations follow the tree (`Filter.written_leaf` to
`writtenAttached_cons`), and rendering is the way that fills in encoded literals
(`renderSiblings_eq_written`).
-/

namespace ODataQuery

/-! ## Templates

A template is a text with gaps. Filling it is a homomorphism: fillings are used up from the left, so
those of two templates are put one after the other (`fill_append`). -/

/-- Text with gaps in it. -/
inductive Template where
  | text (s : String)
  | gap (before : String) (after : Template)

namespace Template

/-- One template after another. -/
def append : Template → Template → Template
  | .text s, .text t => .text (s ++ t)
  | .text s, .gap before after => .gap (s ++ before) after
  | .gap before after, t => .gap before (after.append t)

instance : Append Template := ⟨append⟩

/-- A template in parentheses. -/
def parenthesized (t : Template) : Template := .text "(" ++ t ++ .text ")"

/-- The number of gaps. -/
def gaps : Template → Nat
  | .text _ => 0
  | .gap _ after => after.gaps + 1

/-- The text with its gaps filled, from the left. -/
def fill : Template → List String → String
  | .text s, _ => s
  | .gap before after, [] => before ++ after.fill []
  | .gap before after, filling :: fillings => before ++ filling ++ after.fill fillings

/-- What follows a template goes behind its last text. -/
theorem gap_append (before : String) (after t : Template) :
    Template.gap before after ++ t = .gap before (after ++ t) := rfl

/-- Templates one after the other have the gaps of both. -/
@[simp] theorem gaps_append (s t : Template) : (s ++ t).gaps = s.gaps + t.gaps := by
  induction s with
  | text s =>
    cases t with
    | text t => rfl
    | gap before after =>
      show after.gaps + 1 = 0 + (after.gaps + 1)
      omega
  | gap before after ih =>
    rw [gap_append, gaps, ih, gaps]
    omega

/-- Parentheses have no gaps. -/
@[simp] theorem gaps_parenthesized (t : Template) : t.parenthesized.gaps = t.gaps := by
  simp [parenthesized, gaps]

/-- A text in front uses no filling. -/
theorem fill_text_append (s : String) (t : Template) (fillings : List String) :
    (Template.text s ++ t).fill fillings = s ++ t.fill fillings := by
  cases t with
  | text t => rfl
  | gap before after =>
    show (Template.gap (s ++ before) after).fill fillings = _
    cases fillings <;> simp [fill, String.append_assoc]

/-- Filling goes on in the second template where the first one ends. -/
theorem fill_append (s t : Template) {fillings : List String} (rest : List String)
    (h : fillings.length = s.gaps) :
    (s ++ t).fill (fillings ++ rest) = s.fill fillings ++ t.fill rest := by
  induction s generalizing fillings with
  | text s =>
    -- There is nothing to fill in before the second template begins.
    rw [List.eq_nil_of_length_eq_zero h, List.nil_append, fill_text_append, fill]
  | gap before after ih =>
    cases fillings with
    | nil => simp [gaps] at h
    | cons filling fillings =>
      have hlen : fillings.length = after.gaps := by simpa [gaps] using h
      rw [gap_append, List.cons_append, fill, ih hlen, fill]
      simp only [String.append_assoc]

/-- A text behind uses no filling, once there is one for each gap. -/
theorem fill_append_text (t : Template) (s : String) {fillings : List String}
    (h : fillings.length = t.gaps) :
    (t ++ .text s).fill fillings = t.fill fillings ++ s := by
  have happend := fill_append t (.text s) [] h
  rwa [List.append_nil] at happend

/-- Filling goes on inside of parentheses. -/
theorem fill_parenthesized (t : Template) {fillings : List String}
    (h : fillings.length = t.gaps) :
    t.parenthesized.fill fillings = ODataQuery.parenthesized (t.fill fillings) := by
  rw [parenthesized, fill_append_text _ _ (by simpa [gaps] using h), fill_text_append]
  rfl

end Template

/-! ## The template of a tree

A condition whose comparator reads text leaves a gap for its literal; everything else of a tree is
text of the template. Which conditions these are is said twice: the template has a gap where the
rendering of a comparator writes a literal, and `textConditions` collects the conditions whose
comparator is in the list `Comparator.texts`. That there are as many gaps as conditions
(`gaps_siblingsTemplate`) is what keeps the two together. -/

/-- The literal of a condition that reads text. -/
def Condition.literal (condition : Condition) : String :=
  Literal.encode condition.value condition.caseInsensitive

/-- The template of a condition. -/
def Condition.template (qualifier : String) (condition : Condition) : Template :=
  let textField := Literal.fieldRef qualifier condition.field condition.caseInsensitive
  match condition.comparator.operation with
  | .call function => .gap (function ++ "(" ++ textField ++ ",") (.text ")")
  | .text operator => .gap (textField ++ " " ++ operator ++ " ") (.text "")
  | .verbatim _ | .null _ | .choice _ => .text (condition.render qualifier)

mutual
/-- The template of a filter among its siblings. -/
def Filter.template (qualifier : String) : Filter → Template
  | .raw _ text => .text text
  | .leaf _ condition =>
    if condition.comparator.isSelfDelimited then condition.template qualifier
    else (condition.template qualifier).parenthesized
  | .quantified _ field quantifier children =>
    Template.parenthesized
      (.text (field ++ "/" ++ quantifier.token ++ "(" ++ iterator ++ ": ")
        ++ siblingsTemplate iteratorQualifier children ++ .text ")")
  | .group _ children => (siblingsTemplate qualifier children).parenthesized

/-- The template of siblings. -/
def siblingsTemplate (qualifier : String) : List Filter → Template
  | [] => .text ""
  | filter :: siblings => filter.template qualifier ++ attachedTemplate qualifier siblings

/-- The template of siblings that follow others. -/
def attachedTemplate (qualifier : String) : List Filter → Template
  | [] => .text ""
  | filter :: siblings =>
    .text filter.combinator.token ++ filter.template qualifier
      ++ attachedTemplate qualifier siblings
end

mutual
/-- The conditions of a filter, in the order in which they are written. -/
def Filter.conditions : Filter → List Condition
  | .raw _ _ => []
  | .leaf _ condition => [condition]
  | .quantified _ _ _ children | .group _ children => conditionsOf children

/-- The conditions of a list of filters. -/
def conditionsOf : List Filter → List Condition
  | [] => []
  | filter :: siblings => filter.conditions ++ conditionsOf siblings
end

/-- The conditions of a filter that read text. -/
def Filter.textConditions (filter : Filter) : List Condition :=
  filter.conditions.filter (·.comparator ∈ Comparator.texts)

/-- The conditions of a list of filters that read text. -/
def textConditions (filters : List Filter) : List Condition :=
  (conditionsOf filters).filter (·.comparator ∈ Comparator.texts)

/-- The conditions of a run come from left to right. -/
@[simp] theorem textConditions_cons (filter : Filter) (siblings : List Filter) :
    textConditions (filter :: siblings) = filter.textConditions ++ textConditions siblings := by
  simp [textConditions, Filter.textConditions, conditionsOf]

/-- A condition counts if its comparator compares text. -/
theorem textConditions_leaf (c : Combinator) (condition : Condition) :
    (Filter.leaf c condition).textConditions =
      if condition.comparator ∈ Comparator.texts then [condition] else [] := by
  simp [Filter.textConditions, Filter.conditions, List.filter_cons]

@[simp] theorem textConditions_quantified (c : Combinator) (field : String)
    (quantifier : Quantifier) (children : List Filter) :
    (Filter.quantified c field quantifier children).textConditions = textConditions children := rfl

@[simp] theorem textConditions_group (c : Combinator) (children : List Filter) :
    (Filter.group c children).textConditions = textConditions children := rfl

/-! ## As many gaps as literals

A condition that compares text leaves a gap, and no other node does. Induction over the tree, with
runs of siblings beside filters. -/

/-- One gap for the value of a condition that compares text, and none otherwise. -/
theorem Condition.gaps_template (qualifier : String) (condition : Condition) :
    (condition.template qualifier).gaps
      = if condition.comparator ∈ Comparator.texts then 1 else 0 := by
  cases hop : condition.comparator.operation <;>
    simp [Condition.template, Comparator.mem_texts_iff, hop, Template.gaps]

mutual
/-- The gaps of a tree are the places of its literals. -/
theorem Filter.gaps_template (qualifier : String) : ∀ filter : Filter,
    (filter.template qualifier).gaps = filter.textConditions.length
  | .raw _ _ => rfl
  | .leaf c condition => by
    have hleaf := condition.gaps_template qualifier
    rw [textConditions_leaf, Filter.template]
    split
    · rw [hleaf]
      split <;> rfl
    · rw [Template.gaps_parenthesized, hleaf]
      split <;> rfl
  | .quantified _ _ _ children => by
    rw [Filter.template, Template.gaps_parenthesized, Template.gaps_append, Template.gaps_append,
      gaps_siblingsTemplate iteratorQualifier children, textConditions_quantified]
    simp [Template.gaps]
  | .group _ children => by
    rw [Filter.template, Template.gaps_parenthesized, gaps_siblingsTemplate qualifier children,
      textConditions_group]

/-- The first sibling has no token in front of it. -/
theorem gaps_siblingsTemplate (qualifier : String) : ∀ filters : List Filter,
    (siblingsTemplate qualifier filters).gaps = (textConditions filters).length
  | [] => rfl
  | filter :: siblings => by
    rw [siblingsTemplate, Template.gaps_append, filter.gaps_template qualifier,
      gaps_attachedTemplate qualifier siblings, textConditions_cons, List.length_append]

/-- Tokens have no gaps. -/
theorem gaps_attachedTemplate (qualifier : String) : ∀ filters : List Filter,
    (attachedTemplate qualifier filters).gaps = (textConditions filters).length
  | [] => rfl
  | filter :: siblings => by
    rw [attachedTemplate, Template.gaps_append, Template.gaps_append,
      filter.gaps_template qualifier, gaps_attachedTemplate qualifier siblings,
      textConditions_cons, List.length_append]
    simp [Template.gaps]
end

/-! ## Writing a tree with other literals

`Filter.written` fills the template of a tree with any text for each condition that reads text. Its
equations follow the tree, so what is made of the literals (decoding them, say) can be followed
through a whole tree. -/

section Written

variable (literal : Condition → String) (qualifier : String)

/-- The text of a filter whose literals are written by `literal`. -/
def Filter.written (filter : Filter) : String :=
  (filter.template qualifier).fill (filter.textConditions.map literal)

/-- The text of siblings whose literals are written by `literal`. -/
def writtenSiblings (filters : List Filter) : String :=
  (siblingsTemplate qualifier filters).fill ((textConditions filters).map literal)

/-- The text of siblings that follow others, whose literals are written by `literal`. -/
def writtenAttached (filters : List Filter) : String :=
  (attachedTemplate qualifier filters).fill ((textConditions filters).map literal)

/-- The text of a condition whose literal is written by `literal`. -/
def Condition.written (condition : Condition) : String :=
  (condition.template qualifier).fill [literal condition]

/-- One filling for each gap, whatever is written for the values. -/
theorem Filter.length_literals (filter : Filter) :
    (filter.textConditions.map literal).length = (filter.template qualifier).gaps := by
  rw [List.length_map, filter.gaps_template qualifier]

/-- One filling for each gap of a run. -/
theorem length_siblingLiterals (filters : List Filter) :
    ((textConditions filters).map literal).length = (siblingsTemplate qualifier filters).gaps := by
  rw [List.length_map, gaps_siblingsTemplate]

/-- A condition is written as rendering writes it, with its own parentheses or without. -/
theorem Filter.written_leaf (c : Combinator) (condition : Condition) :
    (Filter.leaf c condition).written literal qualifier =
      if condition.comparator.isSelfDelimited then condition.written literal qualifier
      else parenthesized (condition.written literal qualifier) := by
  have hgaps := condition.gaps_template qualifier
  have hfill : ((Filter.leaf c condition).textConditions.map literal).length
      = (condition.template qualifier).gaps := by
    rw [textConditions_leaf, hgaps]
    split <;> rfl
  -- Without a gap nothing is filled in, so the literal that is left over does not matter.
  have hwritten : (condition.template qualifier).fill
      ((Filter.leaf c condition).textConditions.map literal)
      = condition.written literal qualifier := by
    rw [textConditions_leaf, Condition.written]
    cases htemplate : condition.template qualifier with
    | text s => rfl
    | gap before after =>
      rw [htemplate, Template.gaps] at hgaps
      split at hgaps
      · next hreads => rw [if_pos hreads, List.map_singleton]
      · exact absurd hgaps (Nat.succ_ne_zero _)
  rw [Filter.written, Filter.template]
  split
  · exact hwritten
  · rw [Template.fill_parenthesized _ hfill, hwritten]

/-- A quantified filter is written around its children, whose fields belong to the iterator. -/
theorem Filter.written_quantified (c : Combinator) (field : String) (quantifier : Quantifier)
    (children : List Filter) :
    (Filter.quantified c field quantifier children).written literal qualifier =
      parenthesized (quantify field quantifier
        (writtenSiblings literal iteratorQualifier children)) := by
  have hlen := length_siblingLiterals literal iteratorQualifier children
  rw [Filter.written, Filter.template, textConditions_quantified,
    Template.fill_parenthesized _ (by simpa [Template.gaps] using hlen),
    Template.fill_append_text _ _ (by simpa [Template.gaps] using hlen),
    Template.fill_text_append, quantify, writtenSiblings]

/-- A group is a run in parentheses. -/
theorem Filter.written_group (c : Combinator) (children : List Filter) :
    (Filter.group c children).written literal qualifier =
      parenthesized (writtenSiblings literal qualifier children) := by
  rw [Filter.written, Filter.template, textConditions_group,
    Template.fill_parenthesized _ (length_siblingLiterals literal qualifier children),
    writtenSiblings]

/-- A run is its first filter and what is attached to it. -/
theorem writtenSiblings_cons (filter : Filter) (siblings : List Filter) :
    writtenSiblings literal qualifier (filter :: siblings) =
      filter.written literal qualifier ++ writtenAttached literal qualifier siblings := by
  rw [writtenSiblings, siblingsTemplate, textConditions_cons, List.map_append,
    Template.fill_append _ _ _ (filter.length_literals literal qualifier), Filter.written,
    writtenAttached]

theorem writtenAttached_nil : writtenAttached literal qualifier [] = "" := rfl

/-- What is attached has a token in front of each filter. -/
theorem writtenAttached_cons (filter : Filter) (siblings : List Filter) :
    writtenAttached literal qualifier (filter :: siblings) =
      filter.combinator.token ++ filter.written literal qualifier
        ++ writtenAttached literal qualifier siblings := by
  have hlen := filter.length_literals literal qualifier
  rw [writtenAttached, attachedTemplate, textConditions_cons, List.map_append,
    Template.fill_append _ _ _ (by simpa [Template.gaps] using hlen), Template.fill_text_append,
    Filter.written, writtenAttached]

end Written

/-! ## Rendering fills in the literals

With the literals that rendering uses, the written text is the rendered one. -/

/-- Case by case over the operations: each writes the same parts in the same order. -/
theorem Condition.render_eq_written (qualifier : String) (condition : Condition) :
    condition.render qualifier = condition.written Condition.literal qualifier := by
  rw [Condition.written, Condition.template]
  cases hop : condition.comparator.operation <;>
    simp [Condition.render, Condition.literal, hop, Template.fill, String.append_assoc]

mutual
/-- Induction over the tree, together with its siblings. -/
theorem Filter.render_eq_written (qualifier : String) : ∀ filter : Filter,
    filter.render qualifier = filter.written Condition.literal qualifier
  | .raw _ _ => rfl
  | .leaf c condition => by
    rw [Filter.written_leaf, Filter.render, condition.render_eq_written qualifier]
  | .quantified _ _ _ children => by
    rw [Filter.written_quantified, Filter.render,
      renderSiblings_eq_written iteratorQualifier children]
  | .group _ children => by
    rw [Filter.written_group, Filter.render, renderSiblings_eq_written qualifier children]

theorem renderSiblings_eq_written (qualifier : String) : ∀ filters : List Filter,
    renderSiblings qualifier filters = writtenSiblings Condition.literal qualifier filters
  | [] => rfl
  | filter :: siblings => by
    rw [writtenSiblings_cons, renderSiblings, filter.render_eq_written qualifier,
      renderAttached_eq_written qualifier siblings]

theorem renderAttached_eq_written (qualifier : String) : ∀ filters : List Filter,
    renderAttached qualifier filters = writtenAttached Condition.literal qualifier filters
  | [] => rfl
  | filter :: siblings => by
    rw [writtenAttached_cons, renderAttached, filter.render_eq_written qualifier,
      renderAttached_eq_written qualifier siblings]
end

end ODataQuery
