import Mathlib.Data.List.Basic
import Mathlib.Data.List.TakeWhile
import ODataQuery.Proofs.Filter.LooseShapes

/-!
# Unknown comparators

Reading unknown comparators as `contains` is the same as writing `Contains` in their place first
(`result_convert_lenient`, one filter after the other), and what is logged are the unknown names of
the conditions that were converted (`log_convertAll`). A list that converts without the option
converts to the same tree with it, silently.
-/

namespace ODataQuery

/-- The options that read unknown comparators as `contains`. -/
def CompileOptions.lenient (options : CompileOptions) : CompileOptions :=
  { options with legacyContainsFallback := true }

/-- The options that refuse unknown comparators. -/
def CompileOptions.strict (options : CompileOptions) : CompileOptions :=
  { options with legacyContainsFallback := false }

namespace LooseFilter

/-! ## Renaming

The fallback takes every unknown comparator for `contains`. Here the names are replaced instead, in
the loose form, so that the strict conversion can be compared with the lenient one. -/

/-- A name that names no comparator is replaced by one that does. -/
def knownName (name : String) : String :=
  if (Comparator.ofName? name).isSome then name else "Contains"

mutual
/-- Replaces the unknown comparators of a filter and of its group, at any depth. -/
def rename : LooseFilter → LooseFilter
  | ⟨combinator, field, comparator, value, caseInsensitive, multiSelectValues, raw, quantifier,
      group⟩ =>
    ⟨combinator, field, comparator.map knownName, value, caseInsensitive, multiSelectValues, raw,
      quantifier,
      match group with
      | none => none
      | some children => some (renameAll children)⟩

/-- Replaces the unknown comparators of the filters of a list. -/
def renameAll : List LooseFilter → List LooseFilter
  | [] => []
  | filter :: filters => filter.rename :: renameAll filters
end

/-- Only the comparator of a filter and its group change. -/
theorem rename_eq (filter : LooseFilter) :
    filter.rename
      = { filter with
          comparator := filter.comparator.map knownName
          group := filter.group.map renameAll } := by
  obtain ⟨_, _, _, _, _, _, _, _, group⟩ := filter
  cases group <;> rw [rename] <;> rfl

mutual
/-- There is nothing to rename in a filter without unknown comparators. -/
theorem rename_eq_self : ∀ {filter : LooseFilter},
    (∀ node ∈ filter.nodes, unknown? Comparator.ofName? node.comparator = none) →
      filter.rename = filter
  | ⟨combinator, field, comparator, value, caseInsensitive, multiSelectValues, raw, quantifier,
      group⟩, h => by
    have hcomparator : comparator.map knownName = comparator := by
      have hself := h _ (self_mem_nodes _)
      rw [unknown?_eq_none_iff] at hself
      cases comparator with
      | none => rfl
      | some name =>
        show some (knownName name) = some name
        rw [knownName, if_pos (hself name rfl)]
    cases group with
    | none => rw [rename, hcomparator]
    | some children =>
      -- The filters of the group are nodes of the filter.
      have hchildren : renameAll children = children := by
        apply renameAll_eq_self
        intro node hnode
        apply h
        rw [nodes_eq]
        exact List.mem_cons_of_mem _ hnode
      rw [rename, hcomparator, hchildren]

/-- There is nothing to rename in a list without unknown comparators. -/
theorem renameAll_eq_self : ∀ {filters : List LooseFilter},
    (∀ node ∈ nodesOf filters, unknown? Comparator.ofName? node.comparator = none) →
      renameAll filters = filters
  | [], _ => rfl
  | filter :: filters, h => by
    rw [nodesOf] at h
    rw [renameAll, rename_eq_self fun node hnode => h node (List.mem_append_left _ hnode),
      renameAll_eq_self fun node hnode => h node (List.mem_append_right _ hnode)]
end

/-! ## The result

By induction over the list. A step of the conversion reads at most one comparator, and reading a
renamed one is what the fallback does. -/

section Result

variable (options : CompileOptions)

/-- The fallback reads an unknown comparator as the strict reading reads the renamed one. -/
theorem result_readComparator_lenient (name : Option String) :
    (readComparator options.lenient name).result
      = (readComparator options.strict (name.map knownName)).result := by
  cases name with
  | none => rfl
  | some name =>
    have hcontains : Comparator.ofName? "Contains" = some .contains := by decide +kernel
    show _ = (readComparator options.strict (some (knownName name))).result
    cases hname : Comparator.ofName? name with
    | some c =>
      have hknown : knownName name = name := by simp [knownName, hname]
      rw [hknown, readComparator, readComparator, hname]
    | none =>
      have hknown : knownName name = "Contains" := by simp [knownName, hname]
      rw [hknown, readComparator, readComparator, hname, hcontains]
      rfl

/-- A filter is converted leniently like the renamed one, if the filters of its group are. -/
theorem result_convert_of_group (filter : LooseFilter)
    (hgroup : ∀ children, filter.group = some children →
      (convertAll options.lenient children).result
        = (convertAll options.strict (renameAll children)).result) :
    (filter.convert options.lenient).result = (filter.rename.convert options.strict).result := by
  obtain ⟨combinator, field, comparator, value, caseInsensitive, multiSelectValues, raw,
    quantifier, group⟩ := filter
  have hpresent : (comparator.map knownName).isSome = comparator.isSome := Option.isSome_map
  rw [rename_eq, convert, convert, hpresent, Logged.result_bind, Logged.result_bind]
  congr 1
  funext c
  -- The parts that are there decide how to go on, and they are the same.
  cases rawText? raw with
  | some text =>
    cases group <;> cases quantifier <;> rfl
  | none =>
    cases group with
    | some children =>
      have hchildren := hgroup children rfl
      rw [Option.map_some]
      cases quantifier with
      | none =>
        dsimp only
        split
        · rfl
        · rw [Logged.result_bind, Logged.result_bind, hchildren]
      | some name =>
        dsimp only
        split
        · rfl
        · cases field with
          | none => rfl
          | some field =>
            dsimp only
            rw [Logged.result_bind, Logged.result_bind]
            congr 1
            funext quantifier
            rw [Logged.result_bind, Logged.result_bind, hchildren]
    | none =>
      rw [Option.map_none]
      cases quantifier with
      | some name => rfl
      | none =>
        cases field with
        | none => rfl
        | some field =>
          dsimp only
          rw [Logged.result_bind, Logged.result_bind, result_readComparator_lenient]

mutual
/-- The fallback converts a filter as the strict conversion does the renamed one. -/
theorem result_convert_lenient : ∀ filter : LooseFilter,
    (filter.convert options.lenient).result = (filter.rename.convert options.strict).result
  | ⟨_, _, _, _, _, _, _, _, none⟩ => result_convert_of_group options _ nofun
  | ⟨_, _, _, _, _, _, _, _, some children⟩ => by
    apply result_convert_of_group
    intro children' hchildren
    obtain rfl : children = children' := Option.some.inj hchildren
    exact result_convertAll_lenient children

/-- The fallback converts a list as the strict conversion does the renamed one. -/
theorem result_convertAll_lenient : ∀ filters : List LooseFilter,
    (convertAll options.lenient filters).result
      = (convertAll options.strict (renameAll filters)).result
  | [] => rfl
  | filter :: filters => by
    have hfirst := result_convert_lenient filter
    have hrest := result_convertAll_lenient filters
    rw [renameAll, convertAll, convertAll, Logged.result_bind, Logged.result_bind, hfirst]
    congr 1
    funext first
    rw [Logged.result_bind, Logged.result_bind, hrest]
end

end Result

/-! ## The log

The conversion is a loop over the nodes that stops at the first defect, so it logs what the nodes
before that say. -/

/-- The warning about a filter that is a condition with an unknown comparator. -/
def unknownWarning? (filter : LooseFilter) : Option LogEntry :=
  if filter.fits .condition then
    (unknown? Comparator.ofName? filter.comparator).map .unknownComparator
  else none

section Log

variable {options : CompileOptions}

/-- The log of a discarded result is that of the computation. -/
theorem log_convertAll_eq_forM (filters : List LooseFilter) :
    (convertAll options filters).log = (forM (nodesOf filters) (check options)).log := by
  rw [← convertAll_eq_forM]
  rcases convertAll options filters with ⟨log, e | tree⟩
  · rfl
  · exact (List.append_nil log).symm

/-- A series of checks logs what is said up to the first defect, and nothing about that one. -/
theorem log_forM_check (filters : List LooseFilter) :
    (forM filters (check options)).log
      = (filters.takeWhile fun filter => (filter.defect options).isNone).flatMap
        (warnings options) := by
  -- A defect ends the loop and the log with it.
  induction filters with
  | nil => rfl
  | cons filter filters ih =>
    rw [List.forM_cons, List.takeWhile_cons]
    cases hdefect : filter.defect options with
    | some e =>
      rw [check_of_defect hdefect]
      rfl
    | none =>
      have hcheck : filter.check options = ⟨filter.warnings options, .ok ()⟩ := by
        rw [check, hdefect]
        rfl
      rw [hcheck, Logged.bind_ok, ih]
      rfl

/-- Under the fallback a sound filter tells its unknown comparator. -/
theorem warnings_lenient {filter : LooseFilter} (h : filter.defect options.lenient = none) :
    filter.warnings options.lenient = filter.unknownWarning?.toList := by
  have hshape := (defect_eq_none_iff.mp h).2.1
  obtain ⟨shape, hfits⟩ := hasShape_iff.mp hshape
  have hfallback : options.lenient.legacyContainsFallback = true := rfl
  rw [warnings, if_pos ⟨hfallback, h⟩, unknownWarning?]
  split
  · rfl
  · next hcondition =>
    -- Only conditions have a comparator.
    have hcomparator : filter.comparator = none := by
      cases shape <;> simp_all [fits, compares]
    rw [hcomparator]
    rfl

/-- The log has the unknown comparators of the filters in front of the first defect. -/
theorem log_convertAll (filters : List LooseFilter) :
    (convertAll options.lenient filters).log
      = ((nodesOf filters).takeWhile fun filter =>
        (filter.defect options.lenient).isNone).filterMap unknownWarning? := by
  rw [log_convertAll_eq_forM, log_forM_check, List.filterMap_eq_flatMap_toList]
  apply List.flatMap_congr
  intro filter hfilter
  have hsound := List.mem_takeWhile_imp hfilter
  exact warnings_lenient (Option.isNone_iff_eq_none.mp hsound)

/-- If the conversion succeeds, the log has all unknown comparators. -/
theorem log_convertAll_of_ok {filters : List LooseFilter} {tree : List Filter}
    (h : (convertAll options.lenient filters).result = .ok tree) :
    (convertAll options.lenient filters).log = (nodesOf filters).filterMap unknownWarning? := by
  have hverdict := Logged.result_discard_eq_ok.mpr ⟨tree, h⟩
  rw [result_convertAll, verdict_eq_ok_iff, List.findSome?_eq_none_iff] at hverdict
  have hall : (nodesOf filters).takeWhile (fun filter =>
      (filter.defect options.lenient).isNone) = nodesOf filters := by
    rw [List.takeWhile_eq_self_iff]
    exact fun filter hfilter => Option.isNone_iff_eq_none.mpr (hverdict filter hfilter)
  rw [log_convertAll, hall]

/-- If the conversion fails, the log has those in front of the filter that fails. -/
theorem log_convertAll_of_error {filters : List LooseFilter} {e : FilterError}
    (h : (convertAll options.lenient filters).result = .error e) :
    ∃ before failing after, nodesOf filters = before ++ failing :: after ∧
      (∀ earlier ∈ before, earlier.WellFormed options.lenient) ∧
      failing.defect options.lenient = some e ∧
      (convertAll options.lenient filters).log = before.filterMap unknownWarning? := by
  have hverdict := Logged.result_discard_eq_error.mpr h
  rw [result_convertAll, verdict_eq_error_iff, List.findSome?_eq_some_iff] at hverdict
  obtain ⟨before, failing, after, hnodes, hfailing, hbefore⟩ := hverdict
  -- Every filter in front of the first defect is taken, and no other one.
  have htaken : (nodesOf filters).takeWhile (fun filter =>
      (filter.defect options.lenient).isNone) = before := by
    have hsound : ∀ earlier ∈ before, (earlier.defect options.lenient).isNone = true :=
      fun earlier hearlier => Option.isNone_iff_eq_none.mpr (hbefore earlier hearlier)
    rw [hnodes, List.takeWhile_append_of_pos hsound, List.takeWhile_cons, hfailing]
    exact List.append_nil before
  refine ⟨before, failing, after, hnodes, ?_, hfailing, ?_⟩
  · exact fun earlier hearlier => wellFormed_iff.mpr (hbefore earlier hearlier)
  · rw [log_convertAll, htaken]

/-- What converts without the option has known comparators only. -/
theorem convertAll_lenient_of_strict {filters : List LooseFilter} {tree : List Filter}
    (h : (convertAll options.strict filters).result = .ok tree) :
    convertAll options.lenient filters = pure tree := by
  have hverdict := Logged.result_discard_eq_ok.mpr ⟨tree, h⟩
  rw [result_convertAll, verdict_eq_ok_iff, List.findSome?_eq_none_iff] at hverdict
  -- A strict conversion would have failed at an unknown comparator.
  have hknown : ∀ node ∈ nodesOf filters,
      unknown? Comparator.ofName? node.comparator = none := by
    intro node hnode
    have hnames := (defect_eq_none_iff.mp (hverdict node hnode)).2.2.2
    exact hnames.resolve_left (by simp [CompileOptions.strict])
  have hresult : (convertAll options.lenient filters).result = .ok tree := by
    rw [result_convertAll_lenient, renameAll_eq_self hknown, h]
  have hlog : (convertAll options.lenient filters).log = [] := by
    rw [log_convertAll_of_ok hresult, List.filterMap_eq_nil_iff]
    intro node hnode
    rw [unknownWarning?, hknown node hnode]
    exact ite_self _
  calc convertAll options.lenient filters
    _ = ⟨(convertAll options.lenient filters).log, (convertAll options.lenient filters).result⟩ :=
      rfl
    _ = pure tree := by
      rw [hlog, hresult]
      rfl

end Log

/-- Reading unknown comparators as `contains` has the result, tree or error, of writing `Contains`
for them and refusing unknown ones. It warns of the unknown comparators of the conditions that were
converted, in the order in which they are written: of all of them if the conversion succeeds, and
otherwise of those before the filter whose defect is the error. A list without unknown comparators
converts to the same tree either way, and nothing is logged. -/
theorem lenient_reading_is_renaming (options : CompileOptions) (filters : List LooseFilter) :
    (convertAll options.lenient filters).result
      = (convertAll options.strict (renameAll filters)).result ∧
    (∀ tree, (convertAll options.lenient filters).result = .ok tree →
      (convertAll options.lenient filters).log
        = (nodesOf filters).filterMap unknownWarning?) ∧
    (∀ e, (convertAll options.lenient filters).result = .error e →
      ∃ before failing after, nodesOf filters = before ++ failing :: after ∧
        (∀ earlier ∈ before, earlier.WellFormed options.lenient) ∧
        failing.defect options.lenient = some e ∧
        (convertAll options.lenient filters).log = before.filterMap unknownWarning?) ∧
    ∀ tree, (convertAll options.strict filters).result = .ok tree →
      convertAll options.lenient filters = pure tree :=
  ⟨result_convertAll_lenient options filters, fun _ => log_convertAll_of_ok,
    fun _ => log_convertAll_of_error, fun _ => convertAll_lenient_of_strict⟩

end LooseFilter

end ODataQuery
