import ODataQuery.Filter.Compile
import ODataQuery.Proofs.Filter.Comparators
import ODataQuery.Proofs.Log

/-!
# Rules on filter trees

`TreeRules` are conditions on the single parts of a tree: its texts, conditions, collections, lists
of children, and on how a filter attaches to the sibling before it. A tree keeps the rules if each
of its parts does (`Filter.Keeps` and `SiblingsKeep`). A tree that passes the check keeps the
rules in `checkedRules` (`siblingsKeep_checkedRules`).
-/

namespace ODataQuery

/-- Conditions on the parts of a tree. -/
structure TreeRules where
  /-- On text of an expression. -/
  raw : String → Prop := fun _ => True
  /-- On conditions on a field. -/
  condition : Condition → Prop := fun _ => True
  /-- On the collections of quantified filters. -/
  collection : String → Prop := fun _ => True
  /-- On the lists inside quantified filters and groups. -/
  children : List Filter → Prop := fun _ => True
  /-- On the combinators of filters that follow a sibling. -/
  attachment : Combinator → Prop := fun _ => True

mutual
/-- Every part of the filter keeps the rules, its own combinator left aside. -/
def Filter.Keeps (rules : TreeRules) : Filter → Prop
  | .raw _ text => rules.raw text
  | .leaf _ condition => rules.condition condition
  | .quantified _ field _ children =>
    rules.collection field ∧ rules.children children ∧ SiblingsKeep rules children
  | .group _ children => rules.children children ∧ SiblingsKeep rules children

/-- Every part of the siblings keeps the rules. -/
def SiblingsKeep (rules : TreeRules) : List Filter → Prop
  | [] => True
  | filter :: siblings => filter.Keeps rules ∧ AttachedKeep rules siblings

/-- Every part of siblings that follow others keeps the rules. -/
def AttachedKeep (rules : TreeRules) : List Filter → Prop
  | [] => True
  | filter :: siblings =>
    rules.attachment filter.combinator ∧ filter.Keeps rules ∧ AttachedKeep rules siblings
end

/-- The rules are kept by all that keeps the other rules. -/
structure TreeRules.ImpliedBy (rules others : TreeRules) : Prop where
  raw : ∀ {text}, others.raw text → rules.raw text
  condition : ∀ {condition}, others.condition condition → rules.condition condition
  collection : ∀ {field}, others.collection field → rules.collection field
  children : ∀ {filters}, others.children filters → rules.children filters
  attachment : ∀ {c}, others.attachment c → rules.attachment c

/-- Both of two sets of rules. -/
def TreeRules.both (rules others : TreeRules) : TreeRules where
  raw text := rules.raw text ∧ others.raw text
  condition condition := rules.condition condition ∧ others.condition condition
  collection field := rules.collection field ∧ others.collection field
  children filters := rules.children filters ∧ others.children filters
  attachment c := rules.attachment c ∧ others.attachment c

section Combined

variable {rules others : TreeRules}

mutual
/-- Rules that are kept one by one are kept together. -/
theorem Filter.Keeps.both : ∀ {filter : Filter}, filter.Keeps rules → filter.Keeps others →
    filter.Keeps (rules.both others)
  | .raw _ _, h, h' => ⟨h, h'⟩
  | .leaf _ _, h, h' => ⟨h, h'⟩
  | .quantified _ _ _ _, h, h' => ⟨⟨h.1, h'.1⟩, ⟨h.2.1, h'.2.1⟩, h.2.2.both h'.2.2⟩
  | .group _ _, h, h' => ⟨⟨h.1, h'.1⟩, h.2.both h'.2⟩

theorem SiblingsKeep.both : ∀ {filters : List Filter}, SiblingsKeep rules filters →
    SiblingsKeep others filters → SiblingsKeep (rules.both others) filters
  | [], _, _ => trivial
  | _ :: _, h, h' => ⟨h.1.both h'.1, h.2.both h'.2⟩

theorem AttachedKeep.both : ∀ {filters : List Filter}, AttachedKeep rules filters →
    AttachedKeep others filters → AttachedKeep (rules.both others) filters
  | [], _, _ => trivial
  | _ :: _, h, h' => ⟨⟨h.1, h'.1⟩, h.2.1.both h'.2.1, h.2.2.both h'.2.2⟩
end

mutual
/-- A tree that keeps rules also keeps those that follow from them. -/
theorem Filter.Keeps.mono (himplied : rules.ImpliedBy others) : ∀ {filter : Filter},
    filter.Keeps others → filter.Keeps rules
  | .raw _ _, h => himplied.raw h
  | .leaf _ _, h => himplied.condition h
  | .quantified _ _ _ _, h =>
    ⟨himplied.collection h.1, himplied.children h.2.1, h.2.2.mono himplied⟩
  | .group _ _, h => ⟨himplied.children h.1, h.2.mono himplied⟩

theorem SiblingsKeep.mono (himplied : rules.ImpliedBy others) : ∀ {filters : List Filter},
    SiblingsKeep others filters → SiblingsKeep rules filters
  | [], _ => trivial
  | _ :: _, h => ⟨h.1.mono himplied, h.2.mono himplied⟩

theorem AttachedKeep.mono (himplied : rules.ImpliedBy others) : ∀ {filters : List Filter},
    AttachedKeep others filters → AttachedKeep rules filters
  | [], _ => trivial
  | _ :: _, h => ⟨himplied.attachment h.1, h.2.1.mono himplied, h.2.2.mono himplied⟩
end

end Combined

/-! ## What passes the check

Compiling rejects whatever breaks `checkedRules`, so only trees that keep them have a text
(`of_result_compile`). The rules can be used in inductions over the tree, which the verdict of the
check cannot: it is that of a computation with a log. -/

/-- What the check asks of single parts, whatever the options: names are there, values that are
read are there, and no list inside another filter is empty. -/
def checkedRules : TreeRules where
  raw text := text ≠ ""
  condition condition := condition.field ≠ "" ∧
    (condition.comparator.requiresValue = true → condition.value ≠ "")
  collection field := field ≠ ""
  children filters := filters ≠ []

/-- A condition that passes has a field and the value that it needs. -/
theorem Condition.of_check {options : CompileOptions} {condition : Condition}
    (h : (condition.check options).result = .ok ()) : checkedRules.condition condition := by
  unfold Condition.check at h
  split at h
  · exact absurd h (by simp [Logged.fail])
  · next hfield =>
    refine ⟨hfield, fun hrequires hvalue => ?_⟩
    split at h
    · next hempty =>
      -- Comparators that test chosen values do not read the single value.
      have hchoice := Comparator.isMultiSelect_iff.mp hempty.1
      exact Comparator.requiresValue_iff.mp hrequires (List.mem_append_right _ hchoice)
    · rw [if_pos ⟨hrequires, hvalue⟩] at h
      exact absurd h (by simp [Logged.fail])

/-- A quantified filter that passes has a field and children. -/
theorem of_checkQuantified {enclosing : Option String} {field : String} {children : List Filter}
    (h : checkQuantified enclosing field children = .ok ()) : field ≠ "" ∧ children ≠ [] := by
  unfold checkQuantified at h
  split at h
  · exact absurd h (by simp)
  · split at h
    · exact absurd h (by simp)
    · next hfield =>
      split at h
      · exact absurd h (by simp)
      · next hchildren => exact ⟨hfield, by simpa using hchildren⟩

/-- Siblings keep rules that say nothing of combinators, if they do when they follow others. -/
theorem AttachedKeep.siblingsKeep {rules : TreeRules} {filters : List Filter}
    (h : AttachedKeep rules filters) : SiblingsKeep rules filters := by
  cases filters with
  | nil => trivial
  | cons filter siblings => exact ⟨h.2.1, h.2.2⟩

variable {options : CompileOptions}

/-- Siblings pass if the first one and those after it do; a warning changes nothing about that. -/
theorem checkSiblings_cons_eq_ok {enclosing : Option String} {index : Nat} {filter : Filter}
    {siblings : List Filter} :
    (checkSiblings options enclosing index (filter :: siblings)).result = .ok () ↔
      (filter.check options enclosing).result = .ok () ∧
        (checkSiblings options enclosing (index + 1) siblings).result = .ok () := by
  have hsequence : (do filter.check options enclosing
                       checkSiblings options enclosing (index + 1) siblings).result = .ok () ↔
      (filter.check options enclosing).result = .ok () ∧
        (checkSiblings options enclosing (index + 1) siblings).result = .ok () := by
    rw [Logged.result_bind_eq_ok]
    constructor
    · rintro ⟨_, h⟩
      exact h
    · exact fun h => ⟨(), h⟩
  -- The warning about a missing combinator has no say in the verdict.
  rw [checkSiblings, ← hsequence]
  split
  · rw [Logged.result_bind_eq_ok]
    constructor
    · rintro ⟨_, _, h⟩
      exact h
    · exact fun h => ⟨(), rfl, h⟩
  · rfl

mutual
/-- Induction over the tree: a run passes if all of its filters do. -/
theorem Filter.keeps_checkedRules {enclosing : Option String} : ∀ {filter : Filter},
    (filter.check options enclosing).result = .ok () → filter.Keeps checkedRules
  | .raw _ text, h => by
    rw [Filter.check] at h
    split at h
    · exact absurd h (by simp [Logged.fail])
    · next htext => exact htext
  | .leaf _ _, h => Condition.of_check h
  | .quantified _ field _ children, h => by
    rw [Filter.check, Logged.result_bind_eq_ok] at h
    obtain ⟨_, hnode, hchildren⟩ := h
    obtain ⟨hfield, hne⟩ := of_checkQuantified hnode
    -- Children are checked like filters that follow others, from index 0.
    exact ⟨hfield, hne, (attachedKeep_checkedRules hchildren).siblingsKeep⟩
  | .group _ children, h => by
    rw [Filter.check] at h
    split at h
    · exact absurd h (by simp [Logged.fail])
    · next hne =>
      have hchildren : children ≠ [] := by simpa using hne
      exact ⟨hchildren, (attachedKeep_checkedRules h).siblingsKeep⟩

/-- All filters of a run that passes keep the rules, whatever the numbers in the warnings are. -/
theorem attachedKeep_checkedRules {enclosing : Option String} {index : Nat} :
    ∀ {filters : List Filter}, (checkSiblings options enclosing index filters).result = .ok () →
      AttachedKeep checkedRules filters
  | [], _ => trivial
  | filter :: siblings, h => by
    obtain ⟨hfilter, hsiblings⟩ := checkSiblings_cons_eq_ok.mp h
    exact ⟨trivial, Filter.keeps_checkedRules hfilter, attachedKeep_checkedRules hsiblings⟩
end

/-- What passes the check keeps its rules. -/
theorem siblingsKeep_checkedRules {filters : List Filter}
    (h : (validate options filters).result = .ok ()) : SiblingsKeep checkedRules filters :=
  (attachedKeep_checkedRules h).siblingsKeep

/-- Filters that pass the check compile to their text. -/
theorem result_compile {filters : List Filter} (h : (validate options filters).result = .ok ()) :
    (compile options filters).result = .ok (renderSiblings "" filters) := by
  rw [compile, Logged.result_bind_eq_ok]
  refine ⟨(), h, ?_⟩
  rw [Logged.result_bind_eq_ok]
  exact ⟨(), rfl, rfl⟩

/-- Compiling gives the text of a tree that keeps the rules, or none. -/
theorem of_result_compile {filters : List Filter} {text : String}
    (h : (compile options filters).result = .ok text) :
    SiblingsKeep checkedRules filters ∧ text = renderSiblings "" filters := by
  obtain ⟨_, hvalid, htext⟩ := Logged.result_bind_eq_ok.mp h
  obtain ⟨_, _, hrendered⟩ := Logged.result_bind_eq_ok.mp htext
  exact ⟨siblingsKeep_checkedRules hvalid, (Except.ok.inj hrendered).symm⟩

/-! ## Texts of what passes the check

A text is empty only if there are no filters, since every filter that passes writes something. -/

/-- A condition has an operator or a function, and everything else is in parentheses. -/
theorem Filter.render_ne_empty {qualifier : String} {filter : Filter}
    (h : filter.Keeps checkedRules) : filter.render qualifier ≠ "" := by
  -- Everything but a text of an expression and some calls stands in parentheses.
  have hparenthesized : ∀ text, parenthesized text ≠ "" := by
    intro text hempty
    have := (String.append_eq_empty_iff.mp (String.append_eq_empty_iff.mp hempty).1).1
    exact absurd this (by decide)
  cases filter with
  | raw _ text => exact h
  | leaf _ condition =>
    rw [Filter.render]
    split
    · -- Every text of a condition has a fixed part.
      unfold Condition.render renderMultiSelect
      cases condition.comparator.operation <;> simp [String.append_eq_empty_iff]
    · exact hparenthesized _
  | quantified _ field quantifier children =>
    rw [Filter.render]
    exact hparenthesized _
  | group _ children =>
    rw [Filter.render]
    exact hparenthesized _

/-- Only the empty run has the empty text. -/
theorem renderSiblings_eq_empty_iff {qualifier : String} {filters : List Filter}
    (h : SiblingsKeep checkedRules filters) :
    renderSiblings qualifier filters = "" ↔ filters = [] := by
  cases filters with
  | nil => simp [renderSiblings]
  | cons filter siblings =>
    rw [renderSiblings, String.append_eq_empty_iff]
    have hfilter : filter.render qualifier ≠ "" := Filter.render_ne_empty h.1
    simp [hfilter]

end ODataQuery
