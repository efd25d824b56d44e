import ODataQuery.Proofs.Filter.Template

/-!
# The normal form of filter trees

A tree holds more than its text tells: the combinator of a filter that stands first, inputs that a
comparator does not read, the letter case of values that are compared without regard to it, and two
pairs of comparators that are written alike. The normal form forgets exactly this. Here it is shown
that the text depends on the normal form only (`renderSiblings_eq_of_normalForm_eq`).
-/

namespace ODataQuery

/-! ## Normal forms

A normal form is a tree of its own, so that two lists can be compared by their normal forms. What is
written for the normal form is what is rendered for the tree, if the literals of normal forms are
written without folding them once more. -/

/-- Dates are compared like numbers. -/
def Comparator.normal : Comparator → Comparator
  | .dateTimeEquals => .numericEquals
  | .dateTimeNotEquals => .numericNotEquals
  | c => c

/-- The condition with the inputs that its comparator reads. A string that is compared without
regard to letter case is in lower case. -/
def Condition.normal (condition : Condition) : Condition where
  field := condition.field
  comparator := condition.comparator.normal
  value :=
    if condition.comparator ∈ Comparator.nulls ++ Comparator.choices then ""
    else if condition.comparator ∈ Comparator.texts ∧ condition.caseInsensitive then
      LowerCase.lowerText condition.value
    else condition.value
  caseInsensitive :=
    if condition.comparator ∈ Comparator.texts then condition.caseInsensitive else false
  multiSelectValues :=
    if condition.comparator ∈ Comparator.choices then condition.multiSelectValues else []

mutual
/-- The normal form of a filter that follows a sibling. -/
def Filter.normal : Filter → Filter
  | .raw c text => .raw c text
  | .leaf c condition => .leaf c condition.normal
  | .quantified c field quantifier children =>
    .quantified c field quantifier (normalForm children)
  | .group c children => .group c (normalForm children)

/-- The normal form of siblings. The first one has nothing to attach to. -/
def normalForm : List Filter → List Filter
  | [] => []
  | filter :: siblings => filter.normal.withCombinator .none :: normalAttached siblings

/-- The normal form of siblings that follow others. -/
def normalAttached : List Filter → List Filter
  | [] => []
  | filter :: siblings => filter.normal :: normalAttached siblings
end

/-- Comparators with the same normal form are those that do the same. -/
theorem Comparator.operation_normal (c : Comparator) : c.normal.operation = c.operation := by
  cases c <;> rfl

/-- Two comparators have the same normal form if they do the same. -/
theorem Comparator.normal_eq_iff {c c' : Comparator} :
    c.normal = c'.normal ↔ c.operation = c'.operation := by
  constructor
  · intro h
    rw [← c.operation_normal, h, c'.operation_normal]
  · intro h
    -- A comparator in normal form is the first one with its operation.
    have hfirst : ∀ c : Comparator, some c.normal = all.find? (·.operation = c.operation) := by
      intro c
      cases c <;> rfl
    have hsome : some c.normal = some c'.normal := by rw [hfirst, hfirst, h]
    exact Option.some.inj hsome

@[simp] theorem Comparator.isSelfDelimited_normal (c : Comparator) :
    c.normal.isSelfDelimited = c.isSelfDelimited := by
  cases c <;> rfl

@[simp] theorem Filter.combinator_normal (filter : Filter) :
    filter.normal.combinator = filter.combinator := by
  cases filter <;> rfl

theorem Filter.withCombinator_combinator (filter : Filter) (c : Combinator) :
    (filter.withCombinator c).withCombinator filter.combinator = filter := by
  cases filter <;> rfl

/-- Filters that attach alike and agree in all else are equal. -/
theorem Filter.eq_of_withCombinator_eq {f g : Filter} {c : Combinator}
    (hcombinator : f.combinator = g.combinator) (h : f.withCombinator c = g.withCombinator c) :
    f = g := by
  rw [← f.withCombinator_combinator c, h, hcombinator, g.withCombinator_combinator c]

/-! ## The text depends on the normal form

In a normal form letter case is already folded where it does not count, so its values are encoded as
they are. -/

/-- The literal of a condition in normal form. -/
def Condition.normalLiteral (condition : Condition) : String :=
  Literal.encode condition.value false

/-- The normal form of a condition writes the text of the condition. -/
theorem Condition.written_normal (qualifier : String) (condition : Condition) :
    condition.normal.written Condition.normalLiteral qualifier = condition.render qualifier := by
  have hoperation := condition.comparator.operation_normal
  rw [Condition.written, Condition.template, Condition.render]
  simp only [Condition.normal] at hoperation ⊢
  rw [hoperation]
  cases hop : condition.comparator.operation <;>
    simp [Template.fill, Condition.render, Condition.normalLiteral, Literal.encode,
      Literal.foldCase, Comparator.mem_texts_iff, Comparator.mem_nulls_iff,
      Comparator.mem_choices_iff, hop, String.append_assoc]

/-- The combinator of a filter is not part of its text. -/
theorem Filter.written_withCombinator (literal : Condition → String) (qualifier : String)
    (filter : Filter) (c : Combinator) :
    (filter.withCombinator c).written literal qualifier = filter.written literal qualifier := by
  cases filter <;> rfl

mutual
/-- The normal form of a filter writes the text of the filter. -/
theorem Filter.written_normal (qualifier : String) : ∀ filter : Filter,
    filter.normal.written Condition.normalLiteral qualifier = filter.render qualifier
  | .raw _ _ => rfl
  | .leaf c condition => by
    rw [Filter.normal, Filter.written_leaf, Filter.render, condition.written_normal qualifier]
    rw [show condition.normal.comparator = condition.comparator.normal from rfl,
      Comparator.isSelfDelimited_normal]
  | .quantified _ _ _ children => by
    rw [Filter.normal, Filter.written_quantified, Filter.render,
      written_normalForm iteratorQualifier children]
  | .group _ children => by
    rw [Filter.normal, Filter.written_group, Filter.render, written_normalForm qualifier children]

/-- The normal form of a list writes the text of the list. -/
theorem written_normalForm (qualifier : String) : ∀ filters : List Filter,
    writtenSiblings Condition.normalLiteral qualifier (normalForm filters)
      = renderSiblings qualifier filters
  | [] => rfl
  | filter :: siblings => by
    rw [normalForm, writtenSiblings_cons, renderSiblings, Filter.written_withCombinator,
      filter.written_normal qualifier, written_normalAttached qualifier siblings]

/-- The normal form of what is attached writes the same text. -/
theorem written_normalAttached (qualifier : String) : ∀ filters : List Filter,
    writtenAttached Condition.normalLiteral qualifier (normalAttached filters)
      = renderAttached qualifier filters
  | [] => rfl
  | filter :: siblings => by
    rw [normalAttached, writtenAttached_cons, renderAttached, Filter.combinator_normal,
      filter.written_normal qualifier, written_normalAttached qualifier siblings]
end

/-- Trees with the same normal form have the same text. -/
theorem renderSiblings_eq_of_normalForm_eq (qualifier : String) {xs ys : List Filter}
    (h : normalForm xs = normalForm ys) :
    renderSiblings qualifier xs = renderSiblings qualifier ys := by
  rw [← written_normalForm, h, written_normalForm]

end ODataQuery
