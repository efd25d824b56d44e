import ODataQuery.Proofs.Filter.Places
import ODataQuery.Proofs.Filter.Template

/-!
# Qualified fields

Writing a tree under a qualifier is the same as putting the qualifier in front of field names and
writing the tree without one (`renderSiblings_eq_qualifyFields`). The qualifier reaches through
groups and stops at quantified filters, which have a qualifier of their own. In the whole text of
a tree a field is therefore qualified once if it is inside a quantified filter, and not at all
otherwise: the text is a skeleton filled with the texts of such conditions
(`renderSiblings_eq_fill_skeleton`).
-/

namespace ODataQuery

/-! ## Qualified trees

Rendering under a qualifier is rendering a tree whose fields carry the qualifier. A quantified
filter begins anew, with the qualifier of its iterator, so its children are not touched. -/

/-- The condition with a qualifier in front of its field. -/
def Condition.qualify (qualifier : String) (condition : Condition) : Condition :=
  { condition with field := qualifier ++ condition.field }

mutual
/-- The filter with a qualifier in front of the fields of its conditions. Quantified filters stay as
they are. -/
def Filter.qualify (qualifier : String) : Filter → Filter
  | .raw c text => .raw c text
  | .leaf c condition => .leaf c (condition.qualify qualifier)
  | .quantified c field quantifier children => .quantified c field quantifier children
  | .group c children => .group c (qualifyFields qualifier children)

/-- The filters with a qualifier in front of the fields of their conditions. -/
def qualifyFields (qualifier : String) : List Filter → List Filter
  | [] => []
  | filter :: siblings => filter.qualify qualifier :: qualifyFields qualifier siblings
end

@[simp] theorem Filter.combinator_qualify (qualifier : String) (filter : Filter) :
    (filter.qualify qualifier).combinator = filter.combinator := by
  cases filter <;> rfl

/-- The qualifier stands in front of the name, within `tolower` if there is one. -/
theorem Literal.fieldRef_eq (qualifier name : String) (caseInsensitive : Bool) :
    fieldRef qualifier name caseInsensitive = fieldRef "" (qualifier ++ name) caseInsensitive := by
  unfold fieldRef
  split
  · rw [String.append_empty, ← String.append_assoc]
  · rw [String.empty_append]

/-- A condition under a qualifier is a condition on the qualified field. -/
theorem Condition.render_eq_qualify (qualifier : String) (condition : Condition) :
    condition.render qualifier = (condition.qualify qualifier).render "" := by
  simp only [Condition.render, Condition.qualify, String.empty_append,
    Literal.fieldRef_eq qualifier condition.field]

mutual
/-- Rendering a filter under a qualifier is rendering the qualified filter. -/
theorem Filter.render_eq_qualify (qualifier : String) : ∀ filter : Filter,
    filter.render qualifier = (filter.qualify qualifier).render ""
  | .raw _ _ => rfl
  | .leaf _ condition => by
    rw [Filter.qualify, Filter.render, Filter.render, condition.render_eq_qualify qualifier]
    rfl
  | .quantified _ _ _ _ => rfl
  | .group _ children => by
    rw [Filter.qualify, Filter.render, Filter.render,
      renderSiblings_eq_qualifyFields qualifier children]

/-- Siblings are written under a qualifier like qualified siblings without one. -/
theorem renderSiblings_eq_qualifyFields (qualifier : String) : ∀ filters : List Filter,
    renderSiblings qualifier filters = renderSiblings "" (qualifyFields qualifier filters)
  | [] => rfl
  | filter :: siblings => by
    rw [qualifyFields, renderSiblings, renderSiblings, filter.render_eq_qualify qualifier,
      renderAttached_eq_qualifyFields qualifier siblings]

/-- What is attached is rendered as if its fields had the qualifier. -/
theorem renderAttached_eq_qualifyFields (qualifier : String) : ∀ filters : List Filter,
    renderAttached qualifier filters = renderAttached "" (qualifyFields qualifier filters)
  | [] => rfl
  | filter :: siblings => by
    rw [qualifyFields, renderAttached, renderAttached, filter.render_eq_qualify qualifier,
      Filter.combinator_qualify, renderAttached_eq_qualifyFields qualifier siblings]
end

/-! ## Skeletons

The skeleton of a tree has a gap for the text of each of its conditions. -/

mutual
/-- The skeleton of a filter among its siblings. -/
def Filter.skeleton : Filter → Template
  | .raw _ text => .text text
  | .leaf _ condition =>
    if condition.comparator.isSelfDelimited then .gap "" (.text "") else .gap "(" (.text ")")
  | .quantified _ field quantifier children =>
    Template.parenthesized
      (.text (field ++ "/" ++ quantifier.token ++ "(i: ") ++ skeleton children ++ .text ")")
  | .group _ children => (skeleton children).parenthesized

/-- The skeleton of siblings. -/
def skeleton : List Filter → Template
  | [] => .text ""
  | filter :: siblings => filter.skeleton ++ attachedSkeleton siblings

/-- The skeleton of siblings that follow others. -/
def attachedSkeleton : List Filter → Template
  | [] => .text ""
  | filter :: siblings =>
    .text filter.combinator.token ++ filter.skeleton ++ attachedSkeleton siblings
end

/-- The qualifier of fields below the given collection, in a tree that is written under `outer`. -/
def qualifierBelow (outer : String) (enclosing : Option String) : String :=
  if enclosing.isSome then "i/" else outer

/-- The conditions at some places, each qualified by what it is below. -/
def qualifiedConditions (outer : String) (places : List Place) : List Condition :=
  places.filterMap fun place =>
    match place.filter with
    | .leaf _ condition => some (condition.qualify (qualifierBelow outer place.enclosing))
    | .raw _ _ | .quantified _ _ _ _ | .group _ _ => none

/-- The texts of the conditions at some places. -/
def conditionTexts (outer : String) (places : List Place) : List String :=
  (qualifiedConditions outer places).map (Condition.render "")

theorem conditionTexts_append (outer : String) (ps qs : List Place) :
    conditionTexts outer (ps ++ qs) = conditionTexts outer ps ++ conditionTexts outer qs := by
  rw [conditionTexts, qualifiedConditions, List.filterMap_append, List.map_append]
  rfl

/-- A quantified filter has the texts of what is inside it. -/
theorem conditionTexts_quantified (outer : String) (enclosing : Option String) (index : Nat)
    (c : Combinator) (field : String) (quantifier : Quantifier) (children : List Filter) :
    conditionTexts outer ((Filter.quantified c field quantifier children).places enclosing index)
      = conditionTexts outer (placesFrom (some field) 0 children) := rfl

/-- A group has the texts of what is inside it. -/
theorem conditionTexts_group (outer : String) (enclosing : Option String) (index : Nat)
    (c : Combinator) (children : List Filter) :
    conditionTexts outer ((Filter.group c children).places enclosing index)
      = conditionTexts outer (placesFrom enclosing 0 children) := rfl

/-- A condition has its own text. -/
theorem conditionTexts_leaf (outer : String) (enclosing : Option String) (index : Nat)
    (c : Combinator) (condition : Condition) :
    conditionTexts outer ((Filter.leaf c condition).places enclosing index)
      = [condition.render (qualifierBelow outer enclosing)] := by
  rw [condition.render_eq_qualify]
  rfl

/-- The text of a quantifier, whose variable is `i`. -/
theorem quantify_eq (field : String) (quantifier : Quantifier) (conditions : String) :
    quantify field quantifier conditions
      = field ++ "/" ++ quantifier.token ++ "(i: " ++ conditions ++ ")" := by
  have hvariable : "(i: " = "(" ++ iterator ++ ": " := by decide
  rw [quantify, hvariable]
  simp only [String.append_assoc]

section Skeleton

variable (outer : String)

mutual
/-- A filter has one gap for each of its conditions. -/
theorem Filter.length_conditionTexts (enclosing : Option String) (index : Nat) :
    ∀ filter : Filter,
      (conditionTexts outer (filter.places enclosing index)).length = filter.skeleton.gaps
  | .raw _ _ => rfl
  | .leaf _ condition => by
    rw [Filter.skeleton]
    split <;> rfl
  | .quantified _ field _ children => by
    rw [conditionTexts_quantified, Filter.skeleton, Template.gaps_parenthesized,
      Template.gaps_append, Template.gaps_append, length_conditionTexts (some field) 0 children]
    simp [Template.gaps]
  | .group _ children => by
    rw [conditionTexts_group, Filter.skeleton, Template.gaps_parenthesized,
      length_conditionTexts enclosing 0 children]

/-- A list has one gap for each of its conditions. -/
theorem length_conditionTexts (enclosing : Option String) (index : Nat) :
    ∀ filters : List Filter,
      (conditionTexts outer (placesFrom enclosing index filters)).length = (skeleton filters).gaps
  | [] => rfl
  | filter :: siblings => by
    rw [placesFrom, conditionTexts_append, List.length_append, skeleton, Template.gaps_append,
      filter.length_conditionTexts, length_attachedTexts]

/-- What is attached has one gap for each of its conditions. -/
theorem length_attachedTexts (enclosing : Option String) (index : Nat) :
    ∀ filters : List Filter,
      (conditionTexts outer (placesFrom enclosing index filters)).length
        = (attachedSkeleton filters).gaps
  | [] => rfl
  | filter :: siblings => by
    rw [placesFrom, conditionTexts_append, List.length_append, attachedSkeleton,
      Template.gaps_append, Template.gaps_append, filter.length_conditionTexts,
      length_attachedTexts]
    simp [Template.gaps]
end

mutual
/-- The text of a filter is its skeleton filled with the texts of its conditions. -/
theorem Filter.render_eq_fill_skeleton (enclosing : Option String) (index : Nat) :
    ∀ filter : Filter, filter.render (qualifierBelow outer enclosing)
      = filter.skeleton.fill (conditionTexts outer (filter.places enclosing index))
  | .raw _ _ => rfl
  | .leaf c condition => by
    rw [conditionTexts_leaf, Filter.render, Filter.skeleton]
    split
    · simp [Template.fill]
    · simp [Template.fill, parenthesized]
  | .quantified _ field quantifier children => by
    -- The gaps of the children come in the order of their places.
    have hlen := length_conditionTexts outer (some field) 0 children
    rw [conditionTexts_quantified, Filter.skeleton,
      Template.fill_parenthesized _ (by simpa [Template.gaps] using hlen),
      Template.fill_append_text _ _ (by simpa [Template.gaps] using hlen),
      Template.fill_text_append, ← renderSiblings_eq_fill_skeleton (some field) 0 children,
      ← quantify_eq, Filter.render]
    rfl
  | .group _ children => by
    rw [conditionTexts_group, Filter.skeleton,
      Template.fill_parenthesized _ (length_conditionTexts outer enclosing 0 children),
      ← renderSiblings_eq_fill_skeleton enclosing 0 children, Filter.render]

/-- The text of siblings is their skeleton filled with the texts of their conditions. -/
theorem renderSiblings_eq_fill_skeleton (enclosing : Option String) (index : Nat) :
    ∀ filters : List Filter, renderSiblings (qualifierBelow outer enclosing) filters
      = (skeleton filters).fill (conditionTexts outer (placesFrom enclosing index filters))
  | [] => rfl
  | filter :: siblings => by
    rw [placesFrom, conditionTexts_append, skeleton,
      Template.fill_append _ _ _ (filter.length_conditionTexts outer enclosing index),
      ← filter.render_eq_fill_skeleton, ← renderAttached_eq_fill_skeleton, renderSiblings]

/-- The text of what is attached is its skeleton, filled. -/
theorem renderAttached_eq_fill_skeleton (enclosing : Option String) (index : Nat) :
    ∀ filters : List Filter, renderAttached (qualifierBelow outer enclosing) filters
      = (attachedSkeleton filters).fill
          (conditionTexts outer (placesFrom enclosing index filters))
  | [] => rfl
  | filter :: siblings => by
    have hlen := filter.length_conditionTexts outer enclosing index
    rw [placesFrom, conditionTexts_append, attachedSkeleton,
      Template.fill_append _ _ _ (by simpa [Template.gaps] using hlen), Template.fill_text_append,
      ← filter.render_eq_fill_skeleton, ← renderAttached_eq_fill_skeleton, renderAttached]
end

end Skeleton

/-! ## Fields in the text of a tree

Where a field stands in the text of its condition is told by what is written in front of it: nothing,
the beginning of `tolower`, that of a call, or that of a test of chosen values. None of this names
a qualifier, so the one in a qualified field is the only one (`Condition.exists_render_eq`). -/

/-- What stands in front of the field in the text of a condition. -/
def Condition.beforeField (condition : Condition) : String :=
  let lowered := if condition.caseInsensitive then "tolower(" else ""
  match condition.comparator with
  | .contains => "contains(" ++ lowered
  | .startsWith => "startswith(" ++ lowered
  | .endsWith => "endswith(" ++ lowered
  | .stringEquals | .stringNotEquals => lowered
  | .multiSelectContains => "Microsoft.Dynamics.CRM.ContainValues(PropertyName='"
  | .multiSelectDoesNotContain => "Microsoft.Dynamics.CRM.DoesNotContainValues(PropertyName='"
  | .numericEquals | .numericNotEquals | .dateTimeEquals | .dateTimeNotEquals | .greaterThan
  | .greaterThanOrEqual | .lessThan | .lessThanOrEqual | .isNull | .isNotNull => ""

/-- The rendering splits the comparators by their operations, and so do the proofs about it. -/
theorem Condition.beforeField_eq (condition : Condition) : condition.beforeField =
    match condition.comparator.operation with
    | .call function => function ++ "(" ++ if condition.caseInsensitive then "tolower(" else ""
    | .text _ => if condition.caseInsensitive then "tolower(" else ""
    | .verbatim _ | .null _ => ""
    | .choice negated =>
      vendorNamespace ++ "." ++ (if negated then "DoesNotContainValues" else "ContainValues")
        ++ "(PropertyName='" := by
  unfold Condition.beforeField
  cases condition.comparator <;> cases condition.caseInsensitive <;> decide

/-- The text of a condition has the field in one place, behind the same beginning whatever the field
is. -/
theorem Condition.exists_render_eq (condition : Condition) : ∃ after : String,
    ∀ field, { condition with field }.render "" = condition.beforeField ++ field ++ after := by
  rw [condition.beforeField_eq]
  -- What is behind the field depends on the operation, and on whether `tolower` has to be closed.
  cases hop : condition.comparator.operation with
  | call function =>
    cases hcase : condition.caseInsensitive with
    | false =>
      refine ⟨"," ++ condition.literal ++ ")", fun field => ?_⟩
      simp [Condition.render, Condition.literal, Literal.fieldRef, hop, hcase, String.append_assoc]
    | true =>
      refine ⟨")" ++ "," ++ condition.literal ++ ")", fun field => ?_⟩
      simp only [Condition.render, Condition.literal, Literal.fieldRef, hop, hcase, if_true,
        String.append_assoc, String.empty_append]
  | text operator =>
    cases hcase : condition.caseInsensitive with
    | false =>
      refine ⟨" " ++ operator ++ " " ++ condition.literal, fun field => ?_⟩
      simp [Condition.render, Condition.literal, Literal.fieldRef, hop, hcase, String.append_assoc]
    | true =>
      refine ⟨")" ++ " " ++ operator ++ " " ++ condition.literal, fun field => ?_⟩
      simp only [Condition.render, Condition.literal, Literal.fieldRef, hop, hcase, if_true,
        String.append_assoc, String.empty_append]
  | verbatim operator =>
    refine ⟨" " ++ operator ++ " " ++ condition.value, fun field => ?_⟩
    simp [Condition.render, hop, String.append_assoc]
  | null operator =>
    refine ⟨" " ++ operator ++ " null", fun field => ?_⟩
    simp [Condition.render, hop, String.append_assoc]
  | choice negated =>
    refine ⟨"',PropertyValues=["
        ++ String.intercalate "," (condition.multiSelectValues.map fun v => "'" ++ v ++ "'")
        ++ "])", fun field => ?_⟩
    simp [Condition.render, renderMultiSelect, hop, String.append_assoc]

/-- To write siblings under a qualifier is to write them with the qualifier in front of the fields
that are reached through groups. So the conditions of a quantified filter are written with `i/` in
front of such fields. The text of a whole tree is its skeleton filled with the texts of its
conditions, with `i/` once in front of each field inside a quantified filter and nothing in front of
the others; the text of a condition holds the field behind `beforeField`, which has no part of it. -/
theorem renderSiblings_qualifier :
    (∀ qualifier filters,
      renderSiblings qualifier filters = renderSiblings "" (qualifyFields qualifier filters)) ∧
    (∀ field quantifier children, renderQuantified field quantifier children
      = field ++ "/" ++ quantifier.token ++ "(i: "
        ++ renderSiblings "" (qualifyFields "i/" children) ++ ")") ∧
    (∀ filters, (skeleton filters).gaps = (qualifiedConditions "" (places filters)).length ∧
      renderSiblings "" filters = (skeleton filters).fill
        ((qualifiedConditions "" (places filters)).map (Condition.render ""))) ∧
    ∀ condition : Condition, ∃ after : String,
      ∀ field, { condition with field }.render "" = condition.beforeField ++ field ++ after := by
  refine ⟨renderSiblings_eq_qualifyFields, fun field quantifier children => ?_,
    fun filters => ⟨?_, ?_⟩, Condition.exists_render_eq⟩
  · rw [renderQuantified, quantify_eq, renderSiblings_eq_qualifyFields]
    rfl
  · -- One gap for each condition, as there is one text for each of them.
    have hlen := length_conditionTexts "" none 0 filters
    rw [conditionTexts, List.length_map] at hlen
    exact hlen.symm
  · exact renderSiblings_eq_fill_skeleton "" none 0 filters

/-- A group inside a quantified filter keeps the one qualifier, and a group around it adds none. -/
theorem renderSiblings_qualifier_nested :
    let filters := [Filter.ofList [.compare "name" .stringEquals "Bob",
      .any "lines" [.ofList [.ignoringCase (.compare "name" .contains "Bob")]]]]
    renderSiblings "" filters
        = (skeleton filters).fill ["name eq 'Bob'", "contains(tolower(i/name),'bob')"] ∧
      renderSiblings "" filters
        = "((name eq 'Bob')(lines/any(i: (contains(tolower(i/name),'bob')))))" := by
  intro filters
  have htexts : (qualifiedConditions "" (places filters)).map (Condition.render "")
      = ["name eq 'Bob'", "contains(tolower(i/name),'bob')"] := by decide
  have hfill := (renderSiblings_qualifier.2.2.1 filters).2
  rw [htexts] at hfill
  exact ⟨hfill, hfill.trans (by decide)⟩

end ODataQuery
