import ODataQuery.Filter.Validate
import ODataQuery.Proofs.Filter.Comparators
import ODataQuery.Proofs.Filter.Places
import ODataQuery.Proofs.Log

/-!
# Defects of filter trees

The check of a tree visits one filter after another, each before what is inside it
(`checkSiblings_eq_forM`). What it says about a filter follows from the filter itself and the
collection of the nearest quantified filter around it: `Filter.defect` gives the error and
`Place.warnings` the messages. So the check passes exactly the trees without a defect at any depth,
and otherwise reports the first one (`validate_reports_first_defect`).
-/

namespace ODataQuery

/-! ## Defects of single filters

What is wrong with a filter by itself, and what is worth a warning, without regard to the other
filters. Only where a filter stands matters, since a quantified one may not stand below another. -/

/-- What is wrong with a condition on a field. -/
def Condition.defect (options : CompileOptions) (condition : Condition) : Option FilterError :=
  let choices : List Comparator := [.multiSelectContains, .multiSelectDoesNotContain]
  if condition.field = "" then some .missingField
  else if condition.comparator ∈ choices ∧ condition.multiSelectValues = [] ∧
      options.rejectEmptyMultiSelect then
    some (.emptyMultiSelect condition.field)
  else if condition.comparator ∉ [.isNull, .isNotNull] ++ choices ∧ condition.value = "" then
    some (.missingValue condition.field condition.comparator)
  else none

/-- What is wrong with a filter by itself, below the collection `enclosing` of the nearest
quantified filter around it. What is inside the filter does not matter, only whether there is
anything. -/
def Filter.defect (options : CompileOptions) (enclosing : Option String) :
    Filter → Option FilterError
  | .raw _ text => if text = "" then some (.invalidShape .emptyRaw) else none
  | .leaf _ condition => condition.defect options
  | .quantified _ field _ children =>
    match enclosing with
    | some outer => some (.nestedQuantifier outer field)
    | none =>
      if field = "" then some .missingField
      else if children.isEmpty then some (.emptyQuantified field)
      else none
  | .group _ children => if children.isEmpty then some .emptyGroup else none

/-! ## The check goes from place to place

Checking a tree is checking its places, one after the other and in the order of the text
(`checkSiblings_eq_forM`). The first defect ends it, and so does the result of a loop over all
places. -/

/-- What the check says about a condition besides its result. -/
def Condition.warnings (options : CompileOptions) (condition : Condition) : List LogEntry :=
  if condition.comparator ∈ [.multiSelectContains, .multiSelectDoesNotContain] ∧
      condition.multiSelectValues = [] ∧ condition.defect options = none then
    [.emptyMultiSelect condition.comparator condition.field]
  else []

/-- What the check says about a filter besides its result, whatever is inside the filter. -/
def Filter.warnings (options : CompileOptions) : Filter → List LogEntry
  | .leaf _ condition => condition.warnings options
  | .raw _ _ | .quantified _ _ _ _ | .group _ _ => []

/-- What the check says about how a filter attaches to the sibling before it. -/
def Filter.attachmentWarnings (index : Nat) (filter : Filter) : List LogEntry :=
  if 0 < index ∧ filter.combinator = .none then [.missingCombinator index] else []

/-- The result of a check that found the given defect, if any. -/
def verdict : Option FilterError → Except FilterError Unit
  | some e => .error e
  | none => .ok ()

/-- A series of checks finds the defect of the first one that finds any. -/
theorem result_forM_verdict {α : Type} (log : α → List LogEntry) (defect : α → Option FilterError)
    (as : List α) :
    (forM as fun a => (⟨log a, verdict (defect a)⟩ : Logged FilterError Unit)).result
      = verdict (as.findSome? defect) := by
  induction as with
  | nil => rfl
  | cons a as ih =>
    rw [List.forM_cons, List.findSome?_cons]
    cases hdefect : defect a with
    | some e => rfl
    | none =>
      rw [verdict, Logged.bind_ok]
      exact ih

namespace Place

/-- What is wrong at a place, whatever is inside the filter. -/
def defect (options : CompileOptions) (place : Place) : Option FilterError :=
  place.filter.defect options place.enclosing

/-- The check of a place, whatever is inside the filter. -/
def check (options : CompileOptions) (place : Place) : Logged FilterError Unit where
  log := place.filter.attachmentWarnings place.index ++ place.filter.warnings options
  result := verdict (place.defect options)

/-- Where nothing is said about the filter itself, the check of a place says how the filter attaches
and then finds what is wrong with it. -/
theorem check_eq_bind {options : CompileOptions} {place : Place}
    (h : place.filter.warnings options = []) :
    place.check options
      = ((⟨place.filter.attachmentWarnings place.index, .ok ()⟩ : Logged FilterError Unit)
        >>= fun _ => Logged.ofExcept (verdict (place.defect options))) := by
  rw [check, h, Logged.bind_ok]
  rfl

/-- A series of places has the defect of the first one that has any. -/
theorem result_forM_check (options : CompileOptions) (places : List Place) :
    (forM places (check options)).result = verdict (places.findSome? (defect options)) :=
  result_forM_verdict _ _ places

end Place

variable {options : CompileOptions}

/-- Checking a condition logs its warnings and ends with its defect. -/
theorem Condition.check_eq (condition : Condition) :
    condition.check options
      = ⟨condition.warnings options, verdict (condition.defect options)⟩ := by
  have hexclusive : condition.comparator ∈ Comparator.choices →
      ¬ condition.comparator.requiresValue = true :=
    fun hmem hrequires =>
      Comparator.requiresValue_iff.mp hrequires (List.mem_append_right _ hmem)
  unfold Condition.check Condition.warnings Condition.defect
  -- The checker asks its own predicates, and the defects name the comparators.
  simp only [Comparator.isMultiSelect_iff, ← Comparator.choices.eq_def, ← Comparator.nulls.eq_def,
    ← Comparator.requiresValue_iff]
  by_cases hfield : condition.field = ""
  · simp [hfield, verdict, Logged.fail]
  by_cases hempty : condition.comparator ∈ Comparator.choices ∧ condition.multiSelectValues = []
  · -- A condition without values to test reads no single value either.
    have hrequires := hexclusive hempty.1
    cases options.rejectEmptyMultiSelect <;>
      simp [hfield, hempty, hrequires, verdict, Logged.fail, Logged.tell]
  · have hsilent : ∀ p : Prop, ¬ (condition.comparator ∈ Comparator.choices ∧
        condition.multiSelectValues = [] ∧ p) := fun p h => hempty ⟨h.1, h.2.1⟩
    rw [if_neg hfield, if_neg hempty, if_neg (hsilent _), if_neg hfield, if_neg (hsilent _)]
    split
    · rfl
    · rfl

/-- The check of a quantified filter finds what is wrong with it by itself, and goes on inside it
otherwise. -/
theorem Filter.check_quantified (enclosing : Option String) (c : Combinator) (field : String)
    (quantifier : Quantifier) (children : List Filter) :
    (Filter.quantified c field quantifier children).check options enclosing
      = (Logged.ofExcept (verdict
          ((Filter.quantified c field quantifier children).defect options enclosing))
        >>= fun _ => checkSiblings options (some field) 0 children) := by
  have hself : checkQuantified enclosing field children
      = verdict ((Filter.quantified c field quantifier children).defect options enclosing) := by
    unfold checkQuantified Filter.defect
    cases enclosing with
    | some outer => rfl
    | none =>
      show (if field = "" then _ else _) = verdict (if field = "" then _ else _)
      split
      · rfl
      · split <;> rfl
  rw [Filter.check, hself]

/-- The check of a group finds what is wrong with it by itself, and goes on inside it otherwise. -/
theorem Filter.check_group (enclosing : Option String) (c : Combinator) (children : List Filter) :
    (Filter.group c children).check options enclosing
      = (Logged.ofExcept (verdict ((Filter.group c children).defect options enclosing))
        >>= fun _ => checkSiblings options enclosing 0 children) := by
  rw [Filter.check, Filter.defect]
  split
  · rfl
  · rfl

mutual
/-- The check of a filter, with the warning about how it attaches, goes through its places. -/
theorem Filter.check_eq_forM (enclosing : Option String) (index : Nat) : ∀ filter : Filter,
    ((⟨filter.attachmentWarnings index, .ok ()⟩ : Logged FilterError Unit)
        >>= fun _ => filter.check options enclosing)
      = forM (filter.places enclosing index) (Place.check options)
  | .raw c text => by
    rw [Filter.places, List.forM_cons, List.forM_nil, bind_pure_unit, Filter.check, Logged.bind_ok,
      Place.check, Place.defect, Filter.defect]
    split <;> rfl
  | .leaf c condition => by
    rw [Filter.places, List.forM_cons, List.forM_nil, bind_pure_unit, Filter.check,
      condition.check_eq]
    rfl
  | .quantified c field quantifier children => by
    -- Below this place the quantified filter is the enclosing one.
    rw [Filter.places, List.forM_cons, Filter.check_quantified, ← checkSiblings_eq_forM,
      ← bind_assoc, Place.check_eq_bind rfl]
    rfl
  | .group c children => by
    rw [Filter.places, List.forM_cons, Filter.check_group, ← checkSiblings_eq_forM, ← bind_assoc,
      Place.check_eq_bind rfl]
    rfl

/-- The siblings are checked in turn, each with its warning about a missing combinator in front. -/
theorem checkSiblings_eq_forM (enclosing : Option String) (index : Nat) :
    ∀ filters : List Filter, checkSiblings options enclosing index filters
      = forM (placesFrom enclosing index filters) (Place.check options)
  | [] => rfl
  | filter :: siblings => by
    have hwarned : checkSiblings options enclosing index (filter :: siblings)
        = ((⟨filter.attachmentWarnings index, .ok ()⟩ : Logged FilterError Unit)
          >>= fun _ => filter.check options enclosing
          >>= fun _ => checkSiblings options enclosing (index + 1) siblings) := by
      rw [checkSiblings, Filter.attachmentWarnings]
      split
      · rfl
      · rfl
    rw [hwarned, ← bind_assoc, filter.check_eq_forM, checkSiblings_eq_forM, placesFrom,
      List.forM_append]
end

/-! ## The verdict on a tree

The verdict is the first defect over all places, and every place at any depth is visited
(`exists_mem_places_iff`). -/

/-- The verdict on a tree is that on its first defect. -/
theorem result_validate (filters : List Filter) :
    (validate options filters).result
      = verdict ((places filters).findSome? (Place.defect options)) := by
  rw [validate, checkSiblings_eq_forM, places, Place.result_forM_check]

/-- There is nothing wrong if there is no defect. -/
theorem verdict_eq_ok_iff {defect : Option FilterError} :
    verdict defect = .ok () ↔ defect = none := by
  cases defect <;> simp [verdict]

/-- The error is the defect. -/
theorem verdict_eq_error_iff {defect : Option FilterError} {e : FilterError} :
    verdict defect = .error e ↔ defect = some e := by
  cases defect <;> simp [verdict]

/-- A tree passes the check if and only if no filter in it has a defect, at any depth. The check of
any other tree fails with the defect of the first filter that has one, where a filter comes before
what is inside it and that before the next sibling. -/
theorem validate_reports_first_defect (options : CompileOptions) (filters : List Filter) :
    ((validate options filters).result = .ok () ↔
      ∀ enclosing filter, StandsIn filters enclosing filter →
        filter.defect options enclosing = none) ∧
    ∀ e, (validate options filters).result = .error e ↔
      ∃ before place after, places filters = before ++ place :: after ∧
        place.filter.defect options place.enclosing = some e ∧
        ∀ earlier ∈ before, earlier.filter.defect options earlier.enclosing = none := by
  refine ⟨?_, fun e => ?_⟩
  · rw [result_validate, verdict_eq_ok_iff, List.findSome?_eq_none_iff]
    constructor
    · intro hfine enclosing filter hstands
      -- Wherever a filter stands, it has a place with an index.
      obtain ⟨i, hi⟩ := exists_mem_places_iff.mpr hstands
      exact hfine _ hi
    · intro hfine place hplace
      exact hfine _ _ (exists_mem_places_iff.mp ⟨place.index, hplace⟩)
  · rw [result_validate, verdict_eq_error_iff, List.findSome?_eq_some_iff]
    rfl

/-- A quantifier inside another one is refused through the groups between them, before what is
wrong behind it. -/
example :
    (validate {} [.any "orders" [.ofList [.isNull "id", .any "lines" []]], .ofText ""]).result
      = .error (.nestedQuantifier "orders" "lines") := by
  rfl

end ODataQuery
