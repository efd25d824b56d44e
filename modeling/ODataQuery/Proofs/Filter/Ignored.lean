import ODataQuery.Filter.Compile

/-!
# Ignored inputs

A tree holds inputs that are never looked at: the combinator of a filter that stands first among its
siblings, and the inputs of a condition that its comparator does not read. `eraseIgnored` forgets
exactly these. Neither the check nor the text of a tree depends on them, so trees that differ in
nothing else have the same verdict, the same messages and the same text
(`ignored_inputs_reach_no_result`).
-/

namespace ODataQuery

/-! ## Trees without ignored inputs

Erasing keeps the shape of a tree, so counting and being empty are not changed by it. -/

/-- The condition without the inputs that its comparator ignores. -/
def Condition.eraseIgnored (condition : Condition) : Condition :=
  let texts : List Comparator :=
    [.contains, .startsWith, .endsWith, .stringEquals, .stringNotEquals]
  let choices : List Comparator := [.multiSelectContains, .multiSelectDoesNotContain]
  { condition with
    value := if condition.comparator ∈ [.isNull, .isNotNull] ++ choices then "" else condition.value
    caseInsensitive := if condition.comparator ∈ texts then condition.caseInsensitive else false
    multiSelectValues :=
      if condition.comparator ∈ choices then condition.multiSelectValues else [] }

mutual
/-- The filter, attached as it was, without ignored inputs. -/
def Filter.eraseIgnored : Filter → Filter
  | .raw c text => .raw c text
  | .leaf c condition => .leaf c condition.eraseIgnored
  | .quantified c field quantifier children =>
    .quantified c field quantifier (eraseIgnored children)
  | .group c children => .group c (eraseIgnored children)

/-- Siblings without ignored inputs, which include the combinator of the first one. -/
def eraseIgnored : List Filter → List Filter
  | [] => []
  | filter :: siblings =>
    filter.eraseIgnored.withCombinator .none :: eraseIgnoredAttached siblings

/-- Siblings that follow others, without ignored inputs. -/
def eraseIgnoredAttached : List Filter → List Filter
  | [] => []
  | filter :: siblings => filter.eraseIgnored :: eraseIgnoredAttached siblings
end

/-- Only the combinator of the first filter of a run is ignored, and that is not erased here. -/
@[simp] theorem Filter.combinator_eraseIgnored (filter : Filter) :
    filter.eraseIgnored.combinator = filter.combinator := by
  cases filter <;> rfl

/-- A run stays empty or not. -/
@[simp] theorem isEmpty_eraseIgnored (filters : List Filter) :
    (eraseIgnored filters).isEmpty = filters.isEmpty := by
  cases filters <;> rfl

/-- A run stays as long as it was. -/
@[simp] theorem length_eraseIgnored (filters : List Filter) :
    (eraseIgnored filters).length = filters.length := by
  have hattached : ∀ siblings : List Filter,
      (eraseIgnoredAttached siblings).length = siblings.length := by
    intro siblings
    induction siblings with
    | nil => rfl
    | cons filter siblings ih => rw [eraseIgnoredAttached, List.length_cons, ih, List.length_cons]
  cases filters with
  | nil => rfl
  | cons filter siblings =>
    rw [eraseIgnored, List.length_cons, hattached, List.length_cons]

/-! ## The text

Rendering reads none of what is erased: the combinator of the first filter of a run, values that an
operation does not write, and whether case counts where no text is compared. -/

-- The text and the check each have their own split over the comparators, so each comparator is
-- looked at for itself.
/-- Each operation writes only what erasing leaves. -/
theorem Condition.render_eraseIgnored (qualifier : String) (condition : Condition) :
    condition.eraseIgnored.render qualifier = condition.render qualifier := by
  obtain ⟨field, comparator, value, caseInsensitive, multiSelectValues⟩ := condition
  cases comparator <;> rfl

/-- A filter is rendered without its combinator, which belongs to the run. -/
theorem Filter.render_withCombinator (qualifier : String) (filter : Filter) (c : Combinator) :
    (filter.withCombinator c).render qualifier = filter.render qualifier := by
  cases filter <;> rfl

mutual
/-- Induction over the tree, together with its siblings. -/
theorem Filter.render_eraseIgnored (qualifier : String) : ∀ filter : Filter,
    filter.eraseIgnored.render qualifier = filter.render qualifier
  | .raw _ _ => rfl
  | .leaf _ condition => by
    rw [Filter.eraseIgnored, Filter.render, Filter.render,
      condition.render_eraseIgnored qualifier]
    rfl
  | .quantified _ _ _ children => by
    rw [Filter.eraseIgnored, Filter.render, Filter.render,
      renderSiblings_eraseIgnored iteratorQualifier children]
  | .group _ children => by
    rw [Filter.eraseIgnored, Filter.render, Filter.render,
      renderSiblings_eraseIgnored qualifier children]

theorem renderSiblings_eraseIgnored (qualifier : String) : ∀ filters : List Filter,
    renderSiblings qualifier (eraseIgnored filters) = renderSiblings qualifier filters
  | [] => rfl
  | filter :: siblings => by
    rw [eraseIgnored, renderSiblings, renderSiblings, Filter.render_withCombinator,
      filter.render_eraseIgnored qualifier, renderAttached_eraseIgnored qualifier siblings]

theorem renderAttached_eraseIgnored (qualifier : String) : ∀ filters : List Filter,
    renderAttached qualifier (eraseIgnoredAttached filters) = renderAttached qualifier filters
  | [] => rfl
  | filter :: siblings => by
    rw [eraseIgnoredAttached, renderAttached, renderAttached, Filter.combinator_eraseIgnored,
      filter.render_eraseIgnored qualifier, renderAttached_eraseIgnored qualifier siblings]
end

/-! ## The check

The check looks at a value only where it is needed, and at the values of a multiple choice only
there. The warning about a missing combinator is for filters behind the first one. -/

section Check

variable (options : CompileOptions)

/-- The comparator decides which of the values are looked at, and these are not erased. -/
theorem Condition.check_eraseIgnored (condition : Condition) :
    condition.eraseIgnored.check options = condition.check options := by
  obtain ⟨field, comparator, value, caseInsensitive, multiSelectValues⟩ := condition
  cases comparator <;> rfl

/-- A filter is checked without its combinator. -/
theorem Filter.check_withCombinator (enclosing : Option String) (filter : Filter)
    (c : Combinator) :
    (filter.withCombinator c).check options enclosing = filter.check options enclosing := by
  cases filter <;> rfl

/-- The check of the first of all siblings says nothing about how it attaches. -/
theorem checkSiblings_cons_zero (enclosing : Option String) (filter : Filter)
    (siblings : List Filter) :
    checkSiblings options enclosing 0 (filter :: siblings)
      = (filter.check options enclosing
          >>= fun _ => checkSiblings options enclosing 1 siblings) := by
  rw [checkSiblings, if_neg (by simp)]

mutual
/-- Induction over the tree, together with its siblings. -/
theorem Filter.check_eraseIgnored (enclosing : Option String) : ∀ filter : Filter,
    filter.eraseIgnored.check options enclosing = filter.check options enclosing
  | .raw _ _ => rfl
  | .leaf _ condition => condition.check_eraseIgnored options
  | .quantified _ field _ children => by
    have hself : checkQuantified enclosing field (eraseIgnored children)
        = checkQuantified enclosing field children := by
      unfold checkQuantified
      rw [isEmpty_eraseIgnored]
    rw [Filter.eraseIgnored, Filter.check, Filter.check, hself,
      checkSiblings_eraseIgnored (some field) children]
  | .group _ children => by
    rw [Filter.eraseIgnored, Filter.check, Filter.check, isEmpty_eraseIgnored,
      checkSiblings_eraseIgnored enclosing children]

theorem checkSiblings_eraseIgnored (enclosing : Option String) : ∀ filters : List Filter,
    checkSiblings options enclosing 0 (eraseIgnored filters)
      = checkSiblings options enclosing 0 filters
  | [] => rfl
  | filter :: siblings => by
    rw [eraseIgnored, checkSiblings_cons_zero, checkSiblings_cons_zero,
      Filter.check_withCombinator, filter.check_eraseIgnored enclosing,
      checkSiblings_eraseIgnoredAttached enclosing 1 siblings]

theorem checkSiblings_eraseIgnoredAttached (enclosing : Option String) (index : Nat) :
    ∀ filters : List Filter,
      checkSiblings options enclosing index (eraseIgnoredAttached filters)
        = checkSiblings options enclosing index filters
  | [] => rfl
  | filter :: siblings => by
    rw [eraseIgnoredAttached, checkSiblings, checkSiblings, Filter.combinator_eraseIgnored,
      filter.check_eraseIgnored enclosing,
      checkSiblings_eraseIgnoredAttached enclosing (index + 1) siblings]
end

end Check

/-! ## Results

All results of a tree are functions of its check and its text, so they are the same for trees that
agree up to ignored inputs. -/

/-- Compiling checks and renders, so it sees nothing of what is erased either. -/
theorem compile_eraseIgnored (options : CompileOptions) (filters : List Filter) :
    compile options (eraseIgnored filters) = compile options filters := by
  rw [compile, compile, validate, validate, checkSiblings_eraseIgnored,
    renderSiblings_eraseIgnored, length_eraseIgnored]

/-- Trees that agree up to ignored inputs, at whatever depth, pass or fail the check alike and with
the same messages, and have the same text under every qualifier. They compile to the same text or
fail with the same error, and log the same. -/
theorem ignored_inputs_reach_no_result (options : CompileOptions) {xs ys : List Filter}
    (h : eraseIgnored xs = eraseIgnored ys) :
    validate options xs = validate options ys ∧
    (∀ qualifier, renderSiblings qualifier xs = renderSiblings qualifier ys) ∧
    compile options xs = compile options ys := by
  refine ⟨?_, fun qualifier => ?_, ?_⟩
  · rw [validate, ← checkSiblings_eraseIgnored, h, checkSiblings_eraseIgnored, validate]
  · rw [← renderSiblings_eraseIgnored, h, renderSiblings_eraseIgnored]
  · rw [← compile_eraseIgnored, h, compile_eraseIgnored]

/-- Ignored inputs differ in the tree, in a group of it and in what its quantifier asks, where a
combinator and the chosen values are missing. -/
theorem ignored_inputs_reach_no_result_everywhere :
    let xs : List Filter :=
      [.leaf .or { field := "id", comparator := .isNull, value := "7" },
       .group .and [.leaf .orNot { field := "size", comparator := .lessThan, value := "3" }],
       .any "lines" [.leaf .not { field := "kind", comparator := .multiSelectContains }]]
    let ys : List Filter :=
      [.leaf .none { field := "id", comparator := .isNull, multiSelectValues := ["1"] },
       .group .and
        [.leaf .and
          { field := "size", comparator := .lessThan, value := "3", caseInsensitive := true }],
       .any "lines"
        [.leaf .or { field := "kind", comparator := .multiSelectContains, value := "A" }]]
    eraseIgnored xs = eraseIgnored ys ∧
      (validate {} ys).log
        = [.missingCombinator 2, .emptyMultiSelect .multiSelectContains "kind"] ∧
      validate {} xs = validate {} ys ∧
      (∀ qualifier, renderSiblings qualifier xs = renderSiblings qualifier ys) ∧
      compile {} xs = compile {} ys :=
  ⟨rfl, by decide, ignored_inputs_reach_no_result {} rfl⟩

end ODataQuery
