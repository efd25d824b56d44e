import ODataQuery.Proofs.Filter.Template

/-!
# Values and structure

A value that is compared as text has no influence on a filter expression outside its own literal.
`eraseTexts` forgets these values. The template of a tree does not depend on them
(`siblingsTemplate_eraseTexts`), and a literal has quotes at its two ends only
(`literal_eq_inQuotes`), so two trees that agree up to such values have the same text outside their
literals. The main statement is `renderSiblings_eq_fill`.
-/

namespace ODataQuery

/-! ## Erased values

The template of a tree reads neither the value of a condition that compares text nor anything else
of it that erasing takes away. So trees with the same erased form have the same template. -/

/-- The condition without its value, if that is read as text. -/
def Condition.eraseText (condition : Condition) : Condition :=
  if condition.comparator ∈ Comparator.texts then { condition with value := "" } else condition

mutual
/-- The filter without the values that are read as text. -/
def Filter.eraseText : Filter → Filter
  | .raw c text => .raw c text
  | .leaf c condition => .leaf c condition.eraseText
  | .quantified c field quantifier children => .quantified c field quantifier (eraseTexts children)
  | .group c children => .group c (eraseTexts children)

/-- The filters without the values that are read as text. -/
def eraseTexts : List Filter → List Filter
  | [] => []
  | filter :: siblings => filter.eraseText :: eraseTexts siblings
end

/-- Erasing leaves the comparator, by which it decides. -/
@[simp] theorem Condition.comparator_eraseText (condition : Condition) :
    condition.eraseText.comparator = condition.comparator := by
  unfold Condition.eraseText
  split <;> rfl

/-- Erasing changes nothing about how a filter is attached. -/
@[simp] theorem Filter.combinator_eraseText (filter : Filter) :
    filter.eraseText.combinator = filter.combinator := by
  cases filter <;> rfl

/-- In a condition that compares text the value stands in the gap; in the others nothing is erased.
-/
theorem Condition.template_eraseText (qualifier : String) (condition : Condition) :
    condition.eraseText.template qualifier = condition.template qualifier := by
  unfold Condition.eraseText
  split
  · next hreads =>
    -- A comparator that reads text leaves a gap where its value would be.
    cases hop : condition.comparator.operation with
    | call _ | text _ => simp [Condition.template, hop]
    | verbatim _ | null _ | choice _ => simp [Comparator.mem_texts_iff, hop] at hreads
  · rfl

mutual
/-- Induction over the tree, together with its siblings. -/
theorem Filter.template_eraseText (qualifier : String) : ∀ filter : Filter,
    filter.eraseText.template qualifier = filter.template qualifier
  | .raw _ _ => rfl
  | .leaf _ condition => by
    rw [Filter.eraseText, Filter.template, Filter.template, Condition.comparator_eraseText,
      condition.template_eraseText qualifier]
  | .quantified _ _ _ children => by
    rw [Filter.eraseText, Filter.template, Filter.template,
      siblingsTemplate_eraseTexts iteratorQualifier children]
  | .group _ children => by
    rw [Filter.eraseText, Filter.template, Filter.template,
      siblingsTemplate_eraseTexts qualifier children]

theorem siblingsTemplate_eraseTexts (qualifier : String) : ∀ filters : List Filter,
    siblingsTemplate qualifier (eraseTexts filters) = siblingsTemplate qualifier filters
  | [] => rfl
  | filter :: siblings => by
    rw [eraseTexts, siblingsTemplate, siblingsTemplate, filter.template_eraseText qualifier,
      attachedTemplate_eraseTexts qualifier siblings]

theorem attachedTemplate_eraseTexts (qualifier : String) : ∀ filters : List Filter,
    attachedTemplate qualifier (eraseTexts filters) = attachedTemplate qualifier filters
  | [] => rfl
  | filter :: siblings => by
    rw [eraseTexts, attachedTemplate, attachedTemplate, Filter.combinator_eraseText,
      filter.template_eraseText qualifier, attachedTemplate_eraseTexts qualifier siblings]
end

/-! ## What stands in a literal

A literal is what stands in it between quotes, and that is inert: quotes come in pairs, and nothing
in it can end the literal. -/

/-- Text between two quotes. -/
def inQuotes (inside : String) : String := "'" ++ inside ++ "'"

/-- ASCII letters and digits, `-`, `_`, `.`, `~` and `%`: no quote, and nothing else that delimits
a part of an expression. -/
def IsInert (inside : String) : Prop :=
  ∀ c ∈ inside.toList, Percent.isPlain c = true ∨ c = '%'

/-- What stands between the quotes of a condition's literal. -/
def Condition.literalInside (condition : Condition) : String :=
  Percent.encode (String.ofList
    (Literal.doubleQuotes (Literal.foldCase condition.value condition.caseInsensitive).toList))

/-- The literal of a condition is its inside between quotes. -/
theorem Condition.literal_eq_inQuotes (condition : Condition) :
    condition.literal = inQuotes condition.literalInside := rfl

/-- Whatever the value is, what is written of it is inert. -/
theorem Condition.isInert_literalInside (condition : Condition) :
    IsInert condition.literalInside :=
  fun _ hc => Percent.isPlain_or_percent_of_mem_encode hc

/-- The text of a tree with the quotes of its literals set apart from what stands in them. -/
theorem renderSiblings_eq_fill_inQuotes (qualifier : String) (filters : List Filter) :
    renderSiblings qualifier filters =
      (siblingsTemplate qualifier (eraseTexts filters)).fill
        (((textConditions filters).map Condition.literalInside).map inQuotes) := by
  rw [renderSiblings_eq_written, writtenSiblings, siblingsTemplate_eraseTexts, List.map_map]
  rfl

/-- One inside for each gap of the template of the erased tree. -/
theorem length_insides (qualifier : String) (filters : List Filter) :
    ((textConditions filters).map Condition.literalInside).length =
      (siblingsTemplate qualifier (eraseTexts filters)).gaps := by
  rw [List.length_map, siblingsTemplate_eraseTexts, gaps_siblingsTemplate]

/-- Everything that is filled in is inert. -/
theorem isInert_insides (filters : List Filter) :
    ∀ inside ∈ (textConditions filters).map Condition.literalInside, IsInert inside := by
  intro inside hinside
  obtain ⟨condition, _, rfl⟩ := List.mem_map.mp hinside
  exact condition.isInert_literalInside

/-! ## The text of a tree around its literals

The template is that of the erased tree, and the fillings are the literals of the conditions that
compare text, from left to right. For two trees with the same erased form only the fillings differ.
-/

/-- The text of a tree is a template, made from the tree without the values that are read as text,
filled in with the literals of these values in their order. Each literal is inert text between two
quotes. Trees that differ in such values only have texts that differ between those quotes only. -/
theorem renderSiblings_eq_fill (qualifier : String) (filters : List Filter) :
    let template := siblingsTemplate qualifier (eraseTexts filters)
    let literals := (textConditions filters).map fun condition =>
      Literal.encode condition.value condition.caseInsensitive
    template.gaps = literals.length ∧
    renderSiblings qualifier filters = template.fill literals ∧
    (∀ literal ∈ literals, ∃ inside, IsInert inside ∧ literal = inQuotes inside) ∧
    ∀ others, eraseTexts others = eraseTexts filters →
      ∃ insides otherInsides : List String,
        insides.length = template.gaps ∧ otherInsides.length = template.gaps ∧
        (∀ inside ∈ insides ++ otherInsides, IsInert inside) ∧
        renderSiblings qualifier filters = template.fill (insides.map inQuotes) ∧
        renderSiblings qualifier others = template.fill (otherInsides.map inQuotes) := by
  refine ⟨?_, ?_, ?_, ?_⟩
  · rw [List.length_map, siblingsTemplate_eraseTexts, gaps_siblingsTemplate]
  · rw [siblingsTemplate_eraseTexts]
    exact renderSiblings_eq_written qualifier filters
  · intro literal hliteral
    obtain ⟨condition, _, rfl⟩ := List.mem_map.mp hliteral
    exact ⟨condition.literalInside, condition.isInert_literalInside, rfl⟩
  · intro others hothers
    -- Both trees fill the template of the same erased tree.
    refine ⟨(textConditions filters).map Condition.literalInside,
      (textConditions others).map Condition.literalInside, length_insides qualifier filters, ?_, ?_,
      renderSiblings_eq_fill_inQuotes qualifier filters, ?_⟩
    · rw [← hothers]
      exact length_insides qualifier others
    · intro inside hinside
      rcases List.mem_append.mp hinside with h | h
      · exact isInert_insides filters inside h
      · exact isInert_insides others inside h
    · rw [← hothers]
      exact renderSiblings_eq_fill_inQuotes qualifier others

/-- A value that tries to close its literal and to add a condition stays inside its quotes. -/
theorem renderSiblings_eq_fill_injection :
    let tame := [Filter.ofText "a eq 1", .leaf .and { field := "Name", value := "Ada" }]
    let hostile :=
      [Filter.ofText "a eq 1", .leaf .and { field := "Name", value := "') or (1 eq 1" }]
    eraseTexts hostile = eraseTexts tame ∧
      ∃ insides otherInsides : List String,
        insides.length = (siblingsTemplate "" (eraseTexts tame)).gaps ∧
        otherInsides.length = (siblingsTemplate "" (eraseTexts tame)).gaps ∧
        (∀ inside ∈ insides ++ otherInsides, IsInert inside) ∧
        renderSiblings "" tame =
          (siblingsTemplate "" (eraseTexts tame)).fill (insides.map inQuotes) ∧
        renderSiblings "" hostile =
          (siblingsTemplate "" (eraseTexts tame)).fill (otherInsides.map inQuotes) :=
  ⟨rfl, (renderSiblings_eq_fill "" _).2.2.2 _ rfl⟩

end ODataQuery
