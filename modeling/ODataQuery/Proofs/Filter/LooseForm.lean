import ODataQuery.Filter.Loose
import ODataQuery.Proofs.Filter.Rules

/-!
# Loose forms of typed trees

A typed filter is written in loose form by filling the parts of its own kind and no others
(`Filter.toLoose`). Every name that is written is read as what it names, so a tree converts back to
itself, silently and whatever the options, unless it has an empty text of an expression: that one
counts as absent (`convertAll_toLooseAll_iff`).
-/

namespace ODataQuery

/-! ## Writing

Only the parts of its own kind are filled, and a leaf has all of its parts written, also the empty
ones. -/

/-- How a combinator is written in loose form: siblings without one say nothing. -/
def Combinator.written? : Combinator → Option String
  | .none => Option.none
  | c => some c.token

mutual
/-- The loose form of a filter. -/
def Filter.toLoose : Filter → LooseFilter
  | .raw c text => { combinator := c.written?, raw := some text }
  | .leaf c condition =>
    { combinator := c.written?
      field := some condition.field
      comparator := some condition.comparator.name
      value := some condition.value
      caseInsensitive := condition.caseInsensitive
      multiSelectValues := some condition.multiSelectValues }
  | .quantified c field quantifier children =>
    { combinator := c.written?
      field := some field
      quantifier := some quantifier.token
      group := some (toLooseAll children) }
  | .group c children => { combinator := c.written?, group := some (toLooseAll children) }

/-- The loose forms of the filters of a list. -/
def toLooseAll : List Filter → List LooseFilter
  | [] => []
  | filter :: filters => filter.toLoose :: toLooseAll filters
end

/-- No text of an expression is empty. -/
def spelledRules : TreeRules where
  raw text := text ≠ ""

/-! ## Names are read as what they name

The parsers go through the listed names, so each of these facts is a finite check. -/

/-- The display name of a comparator is read as that comparator. -/
theorem Comparator.ofName?_name (c : Comparator) : ofName? c.name = some c := by
  cases c <;> decide +kernel

/-- The token of a combinator is read as that combinator. -/
theorem Combinator.ofName?_token (c : Combinator) : ofName? c.token = some c := by
  cases c <;> decide +kernel

/-- The token of a quantifier is read as that quantifier. -/
theorem Quantifier.ofName?_token (q : Quantifier) : ofName? q.token = some q := by
  cases q <;> decide +kernel

namespace LooseFilter

/-- A combinator that is not written is read as none. -/
theorem readCombinator_written? (c : Combinator) : readCombinator c.written? = .ok c := by
  cases c with
  | none => rfl
  | and | or | not | andNot | orNot =>
    show readCombinator (some (Combinator.token _)) = _
    rw [readCombinator, Combinator.ofName?_token]

/-- A quantifier in loose form is known. -/
theorem readQuantifier_token (q : Quantifier) : readQuantifier q.token = .ok q := by
  rw [readQuantifier, Quantifier.ofName?_token]

/-- A comparator in loose form is known, so the fallback has nothing to do and nothing is logged. -/
theorem readComparator_name (options : CompileOptions) (c : Comparator) :
    readComparator options (some c.name) = pure c := by
  rw [readComparator, Comparator.ofName?_name]

/-! ## Converting back

One lemma for each kind of filter takes the conversion of its loose form to the conversions of its
children; both directions of the result are then inductions over the tree. -/

section Convert

variable (options : CompileOptions)

/-- The text of an expression counts as absent if it is empty, and then nothing is left that makes a
filter. -/
theorem convert_toLoose_raw (c : Combinator) (text : String) :
    (Filter.raw c text).toLoose.convert options
      = if text = "" then Logged.fail (.invalidShape .shapeless) else pure (.raw c text) := by
  rw [Filter.toLoose, convert, readCombinator_written?, Logged.ofExcept_ok, pure_bind]
  by_cases h : text = ""
  · have hraw : rawText? (some text) = none := by simp [rawText?, h]
    rw [hraw, if_pos h]
  · have hraw : rawText? (some text) = some text := by simp [rawText?, h]
    rw [hraw, if_neg h]
    rfl

/-- A comparison converts back to itself, even with an empty field or value. -/
theorem convert_toLoose_leaf (c : Combinator) (condition : Condition) :
    (Filter.leaf c condition).toLoose.convert options = pure (.leaf c condition) := by
  rw [Filter.toLoose, convert, readCombinator_written?, Logged.ofExcept_ok, pure_bind]
  show (readComparator options (some condition.comparator.name) >>= fun comparator =>
    pure (Filter.leaf c { condition with comparator })) = _
  rw [readComparator_name, pure_bind]

/-- A quantified filter converts back if its children do. -/
theorem convert_toLoose_quantified (c : Combinator) (field : String) (quantifier : Quantifier)
    (children : List Filter) :
    (Filter.quantified c field quantifier children).toLoose.convert options
      = (convertAll options (toLooseAll children)
        >>= fun filters => pure (.quantified c field quantifier filters)) := by
  rw [Filter.toLoose, convert, readCombinator_written?, Logged.ofExcept_ok, pure_bind]
  show (Logged.ofExcept (readQuantifier quantifier.token) >>= fun quantifier =>
    convertAll options (toLooseAll children) >>= fun filters =>
      pure (Filter.quantified c field quantifier filters)) = _
  rw [readQuantifier_token, Logged.ofExcept_ok, pure_bind]

/-- A group converts back if its children do. -/
theorem convert_toLoose_group (c : Combinator) (children : List Filter) :
    (Filter.group c children).toLoose.convert options
      = (convertAll options (toLooseAll children) >>= fun filters => pure (.group c filters)) := by
  rw [Filter.toLoose, convert, readCombinator_written?, Logged.ofExcept_ok, pure_bind]
  rfl

mutual
/-- A filter without empty texts converts back to itself and logs nothing. -/
theorem convert_toLoose : ∀ {filter : Filter}, filter.Keeps spelledRules →
    filter.toLoose.convert options = pure filter
  | .raw c text, h => by
    rw [convert_toLoose_raw, if_neg h]
  | .leaf c condition, _ => convert_toLoose_leaf options c condition
  | .quantified c field quantifier children, h => by
    rw [convert_toLoose_quantified, convertAll_toLooseAll h.2.2, pure_bind]
  | .group c children, h => by
    rw [convert_toLoose_group, convertAll_toLooseAll h.2, pure_bind]

/-- A list without empty texts converts back to itself and logs nothing. -/
theorem convertAll_toLooseAll : ∀ {filters : List Filter}, SiblingsKeep spelledRules filters →
    convertAll options (toLooseAll filters) = pure filters
  | [], _ => rfl
  | filter :: filters, h => by
    have hrest := convertAll_toLooseAll h.2.siblingsKeep
    rw [toLooseAll, convertAll, convert_toLoose h.1, hrest]
    rfl
end

mutual
/-- If the loose form of a filter converts at all, there are no empty texts in it. -/
theorem keeps_of_convert_toLoose : ∀ {filter tree : Filter},
    (filter.toLoose.convert options).result = .ok tree → filter.Keeps spelledRules
  | .raw c text, tree, h => by
    rw [convert_toLoose_raw] at h
    split at h
    · exact absurd h (by simp [Logged.fail])
    · next htext => exact htext
  | .leaf _ _, _, _ => trivial
  | .quantified c field quantifier children, tree, h => by
    rw [convert_toLoose_quantified, Logged.result_bind_eq_ok] at h
    obtain ⟨filters, hchildren, -⟩ := h
    exact ⟨trivial, trivial, (attachedKeep_of_convertAll_toLooseAll hchildren).siblingsKeep⟩
  | .group c children, tree, h => by
    rw [convert_toLoose_group, Logged.result_bind_eq_ok] at h
    obtain ⟨filters, hchildren, -⟩ := h
    exact ⟨trivial, (attachedKeep_of_convertAll_toLooseAll hchildren).siblingsKeep⟩

/-- If the loose forms of a list convert at all, there are no empty texts in it. -/
theorem attachedKeep_of_convertAll_toLooseAll : ∀ {filters trees : List Filter},
    (convertAll options (toLooseAll filters)).result = .ok trees →
      AttachedKeep spelledRules filters
  | [], _, _ => trivial
  | filter :: filters, trees, h => by
    rw [toLooseAll, convertAll, Logged.result_bind_eq_ok] at h
    obtain ⟨first, hfirst, h⟩ := h
    obtain ⟨rest, hrest, -⟩ := Logged.result_bind_eq_ok.mp h
    exact ⟨trivial, keeps_of_convert_toLoose hfirst, attachedKeep_of_convertAll_toLooseAll hrest⟩
end

end Convert

/-- A list of typed filters, written in loose form, converts back to itself and logs nothing,
whatever the options, if and only if none of its texts of expressions is empty, at any depth.
Fields, values and lists of children may be empty. -/
theorem convertAll_toLooseAll_iff (options : CompileOptions) (filters : List Filter) :
    convertAll options (toLooseAll filters) = pure filters
      ↔ SiblingsKeep spelledRules filters := by
  constructor
  · intro h
    -- Only that the conversion succeeds is used, not what it gives.
    have hresult : (convertAll options (toLooseAll filters)).result = .ok filters := by
      rw [h]
      rfl
    exact (attachedKeep_of_convertAll_toLooseAll options hresult).siblingsKeep
  · exact convertAll_toLooseAll options

end LooseFilter

end ODataQuery
