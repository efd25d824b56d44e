import Mathlib.Logic.ExistsUnique
import ODataQuery.Filter.Loose
import ODataQuery.Proofs.Filter.Defects

/-!
# Shapes of loose filters

What a loose filter is follows from the parts that are there (`LooseFilter.fits`), and what is wrong
with it by itself from its parts and their names (`LooseFilter.defect`). Conversion goes from one
filter to the next, each before those of its group (`convertAll_eq_forM`). So it succeeds for
exactly the lists whose filters all have one of the four shapes, at any depth, and otherwise reports
the first defect (`convertAll_reports_first_defect`).
-/

namespace ODataQuery

namespace LooseFilter

/-! ## Filters at any depth

Being somewhere in a list of loose filters is stated twice: as membership in the filters in order
(`nodesOf`), which the result is about, and as a relation that knows no order (`StandsIn`). The two
agree (`mem_nodesOf_iff`). -/

mutual
/-- The filter and those of its group at any depth, in the order in which they are written. -/
def nodes : LooseFilter → List LooseFilter
  | ⟨combinator, field, comparator, value, caseInsensitive, multiSelectValues, raw, quantifier,
      group⟩ =>
    ⟨combinator, field, comparator, value, caseInsensitive, multiSelectValues, raw, quantifier,
      group⟩ ::
      match group with
      | none => []
      | some children => nodesOf children

/-- The filters of a list and of their groups, in the order in which they are written. -/
def nodesOf : List LooseFilter → List LooseFilter
  | [] => []
  | filter :: filters => filter.nodes ++ nodesOf filters
end

/-- The nodes of a filter are the filter and those of its group, if there is one. -/
theorem nodes_eq (filter : LooseFilter) :
    filter.nodes = filter :: nodesOf (filter.group.getD []) := by
  obtain ⟨_, _, _, _, _, _, _, _, group⟩ := filter
  cases group with
  | none => rw [nodes, Option.getD_none, nodesOf]
  | some children => rw [nodes, Option.getD_some]

/-- A filter stands in a list or, at some depth, in the group of one that does. -/
inductive StandsIn (filters : List LooseFilter) : LooseFilter → Prop where
  | top {filter : LooseFilter} (h : filter ∈ filters) : StandsIn filters filter
  | group {outer filter : LooseFilter} {children : List LooseFilter} (h : StandsIn filters outer)
    (hgroup : outer.group = some children) (hfilter : filter ∈ children) :
    StandsIn filters filter

theorem self_mem_nodes (filter : LooseFilter) : filter ∈ filter.nodes := by
  rw [nodes_eq]
  exact List.mem_cons_self

theorem mem_nodesOf_of_mem {filter : LooseFilter} {filters : List LooseFilter}
    (h : filter ∈ filters) : filter ∈ nodesOf filters := by
  induction filters with
  | nil => exact absurd h List.not_mem_nil
  | cons first filters ih =>
    rw [nodesOf]
    rcases List.mem_cons.mp h with rfl | h
    · exact List.mem_append_left _ filter.self_mem_nodes
    · exact List.mem_append_right _ (ih h)

mutual
/-- What is below a node of a filter is below the filter. -/
theorem nodes_subset {inner : LooseFilter} : ∀ {filter : LooseFilter},
    inner ∈ filter.nodes → inner.nodes ⊆ filter.nodes
  | ⟨_, _, _, _, _, _, _, _, none⟩, h => by
    rw [nodes] at h
    obtain rfl := List.mem_singleton.mp h
    exact List.Subset.refl _
  | ⟨_, _, _, _, _, _, _, _, some children⟩, h => by
    rw [nodes] at h
    rcases List.mem_cons.mp h with rfl | h
    · exact List.Subset.refl _
    · rw [nodes_eq ⟨_, _, _, _, _, _, _, _, some children⟩]
      exact List.subset_cons_of_subset _ (nodesOf_subset h)

/-- What is below a node of a list is a node of the list. -/
theorem nodesOf_subset {inner : LooseFilter} : ∀ {filters : List LooseFilter},
    inner ∈ nodesOf filters → inner.nodes ⊆ nodesOf filters
  | _ :: _, h => by
    rw [nodesOf] at h ⊢
    rcases List.mem_append.mp h with h | h
    · exact List.subset_append_of_subset_left _ (nodes_subset h)
    · exact List.subset_append_of_subset_right _ (nodesOf_subset h)
end

mutual
/-- Every node of a filter stands where the filter stands. -/
theorem standsIn_of_mem_nodes {filters : List LooseFilter} {inner : LooseFilter} :
    ∀ {filter : LooseFilter}, StandsIn filters filter → inner ∈ filter.nodes →
      StandsIn filters inner
  | ⟨_, _, _, _, _, _, _, _, none⟩, hstands, h => by
    rw [nodes] at h
    obtain rfl := List.mem_singleton.mp h
    exact hstands
  | ⟨_, _, _, _, _, _, _, _, some children⟩, hstands, h => by
    rw [nodes] at h
    rcases List.mem_cons.mp h with rfl | h
    · exact hstands
    · exact standsIn_of_mem_nodesOf (fun _ hchild => .group hstands rfl hchild) h

/-- Every node of some filters stands where these stand. -/
theorem standsIn_of_mem_nodesOf {filters : List LooseFilter} {inner : LooseFilter} :
    ∀ {siblings : List LooseFilter}, (∀ filter ∈ siblings, StandsIn filters filter) →
      inner ∈ nodesOf siblings → StandsIn filters inner
  | filter :: siblings, hstands, h => by
    obtain ⟨hfilter, hsiblings⟩ := List.forall_mem_cons.mp hstands
    rw [nodesOf] at h
    -- The node is below the first filter or below one of the others.
    rcases List.mem_append.mp h with h | h
    · exact standsIn_of_mem_nodes hfilter h
    · exact standsIn_of_mem_nodesOf hsiblings h
end

/-- The nodes of a list are the filters that stand in it. -/
theorem mem_nodesOf_iff {filters : List LooseFilter} {filter : LooseFilter} :
    filter ∈ nodesOf filters ↔ StandsIn filters filter := by
  constructor
  · exact standsIn_of_mem_nodesOf fun _ => .top
  · intro h
    induction h with
    | top h => exact mem_nodesOf_of_mem h
    | @group outer filter children _ hgroup hfilter ih =>
      -- A filter of the group comes right behind the one that has the group.
      have hbelow : filter ∈ outer.nodes := by
        rw [nodes_eq, hgroup]
        exact List.mem_cons_of_mem _ (mem_nodesOf_of_mem hfilter)
      exact nodesOf_subset ih hbelow

/-! ## Shapes

The shapes are told apart by the parts that are there. A filter has at most one of them
(`eq_of_fits`), so there is no order in which they are tried. -/

/-- The kinds of filters that a loose filter can stand for. -/
inductive Shape where
  | text
  | quantified
  | group
  | condition
deriving DecidableEq

/-- Whether there is the text of an expression. An empty text counts as absent. -/
def hasText (filter : LooseFilter) : Bool := filter.raw != none && filter.raw != some ""

/-- Whether there is any part of a comparison. -/
def compares (filter : LooseFilter) : Bool :=
  filter.comparator.isSome || filter.value.isSome || filter.multiSelectValues.isSome
    || filter.caseInsensitive

/-- Whether the parts that are there are those of the shape. -/
def fits (filter : LooseFilter) : Shape → Bool
  | .text => filter.hasText && filter.field.isNone && filter.group.isNone
      && filter.quantifier.isNone && !filter.compares
  | .quantified => !filter.hasText && filter.field.isSome && filter.group.isSome
      && filter.quantifier.isSome && !filter.compares
  | .group => !filter.hasText && filter.field.isNone && filter.group.isSome
      && filter.quantifier.isNone && !filter.compares
  | .condition => !filter.hasText && filter.field.isSome && filter.group.isNone
      && filter.quantifier.isNone

/-- Whether the parts are those of any shape. -/
def hasShape (filter : LooseFilter) : Bool :=
  filter.fits .text || filter.fits .quantified || filter.fits .group || filter.fits .condition

theorem hasShape_iff {filter : LooseFilter} :
    filter.hasShape = true ↔ ∃ shape, filter.fits shape = true := by
  rw [hasShape]
  simp only [Bool.or_eq_true]
  constructor
  · rintro (((h | h) | h) | h) <;> exact ⟨_, h⟩
  · rintro ⟨shape, h⟩
    cases shape <;> simp [h]

/-- No filter fits two shapes. -/
theorem eq_of_fits {filter : LooseFilter} {shape shape' : Shape} (h : filter.fits shape = true)
    (h' : filter.fits shape' = true) : shape = shape' := by
  cases shape <;> cases shape' <;> simp_all [fits]

/-- Why the parts of a filter that has no shape do not go together. -/
def misfit (filter : LooseFilter) : ShapeDefect :=
  if filter.hasText then .rawMixed
  else if filter.group.isSome then
    if filter.compares || filter.quantifier.isNone then .groupMixed else .quantifierWithoutField
  else if filter.quantifier.isSome then .quantifierWithoutGroup
  else .shapeless

/-! ## Names and defects

A name counts where a shape needs it. The defect of a filter lists what can be wrong in the order in
which the conversion looks at it, and a filter is well-formed if nothing is (`wellFormed_iff`). -/

/-- The name, if there is one and it names nothing. -/
def unknown? {α : Type} (ofName? : String → Option α) (name : Option String) : Option String :=
  name.filter fun name => (ofName? name).isNone

/-- What is wrong with a filter by itself, whatever is in its group: the combinator comes first,
then the shape, then the other names. -/
def defect (options : CompileOptions) (filter : LooseFilter) : Option FilterError :=
  (unknown? Combinator.ofName? filter.combinator).map .unknownCombinator
    <|> (if filter.hasShape then none else some (.invalidShape filter.misfit))
    <|> (unknown? Quantifier.ofName? filter.quantifier).map .unknownQuantifier
    <|> (if options.legacyContainsFallback then none
      else (unknown? Comparator.ofName? filter.comparator).map .unknownComparator)

/-- Whether the names that a filter of the shape needs are known. -/
def Named (options : CompileOptions) (filter : LooseFilter) : Shape → Prop
  | .text | .group => True
  | .quantified => ∀ name ∈ filter.quantifier, (Quantifier.ofName? name).isSome = true
  | .condition => options.legacyContainsFallback = true ∨
      ∀ name ∈ filter.comparator, (Comparator.ofName? name).isSome = true

/-- The filter attaches in a known way and has exactly one shape, with known names. -/
structure WellFormed (options : CompileOptions) (filter : LooseFilter) : Prop where
  combinator : ∀ name ∈ filter.combinator, (Combinator.ofName? name).isSome = true
  shape : ∃! shape, filter.fits shape = true ∧ filter.Named options shape

section Defects

variable {options : CompileOptions} {filter : LooseFilter}

theorem unknown?_eq_none_iff {α : Type} {ofName? : String → Option α} {name : Option String} :
    unknown? ofName? name = none ↔ ∀ n ∈ name, (ofName? n).isSome = true := by
  cases name with
  | none => simp [unknown?]
  | some n => simp [unknown?, Option.filter_some, Option.isSome_iff_ne_none]

/-- Nothing is wrong with a filter if none of the four things is. -/
theorem defect_eq_none_iff :
    filter.defect options = none ↔
      unknown? Combinator.ofName? filter.combinator = none ∧ filter.hasShape = true ∧
      unknown? Quantifier.ofName? filter.quantifier = none ∧
      (options.legacyContainsFallback = true ∨
        unknown? Comparator.ofName? filter.comparator = none) := by
  -- The defects are alternatives, so all of them have to be absent.
  have hshape : (if filter.hasShape then none else some (FilterError.invalidShape filter.misfit))
      = none ↔ filter.hasShape = true := by
    cases filter.hasShape <;> simp
  have hcomparator : (if options.legacyContainsFallback then none
        else (unknown? Comparator.ofName? filter.comparator).map FilterError.unknownComparator)
      = none ↔ options.legacyContainsFallback = true ∨
        unknown? Comparator.ofName? filter.comparator = none := by
    cases options.legacyContainsFallback <;> simp
  simp only [defect, Option.orElse_eq_orElse, Option.orElse_eq_or, Option.or_eq_none_iff,
    Option.map_eq_none_iff, hshape, hcomparator]

/-- The names that a shape does not need are not there, so nothing can be wrong with them. -/
theorem named_iff {shape : Shape} (h : filter.fits shape = true) :
    filter.Named options shape ↔
      unknown? Quantifier.ofName? filter.quantifier = none ∧
      (options.legacyContainsFallback = true ∨
        unknown? Comparator.ofName? filter.comparator = none) := by
  simp only [unknown?_eq_none_iff]
  cases shape <;> simp_all [fits, compares, Named]

/-- A filter is well-formed if nothing is wrong with it. -/
theorem wellFormed_iff : filter.WellFormed options ↔ filter.defect options = none := by
  rw [defect_eq_none_iff, hasShape_iff]
  constructor
  · rintro ⟨hcombinator, shape, ⟨hfits, hnamed⟩, -⟩
    exact ⟨unknown?_eq_none_iff.mpr hcombinator, ⟨shape, hfits⟩, (named_iff hfits).mp hnamed⟩
  · rintro ⟨hcombinator, ⟨shape, hfits⟩, hnames⟩
    refine ⟨unknown?_eq_none_iff.mp hcombinator, shape, ⟨hfits, (named_iff hfits).mpr hnames⟩, ?_⟩
    -- A filter fits one shape only, so the shape is unique.
    rintro other ⟨hother, -⟩
    exact eq_of_fits hother hfits

end Defects

/-! ## Conversion by shape

What the conversion does with a filter of each shape, read off its case split. The other splits of
that function need not be looked at again. -/

section Conversion

variable (options : CompileOptions) {filter : LooseFilter}

/-- Conversion finds a text just where there is one. -/
theorem hasText_eq (filter : LooseFilter) : filter.hasText = (rawText? filter.raw).isSome := by
  cases hraw : filter.raw with
  | none => simp [hasText, rawText?, hraw]
  | some text => by_cases htext : text = "" <;> simp [hasText, rawText?, hraw, htext]

/-- A text is copied, behind its combinator. -/
theorem convert_of_text (h : filter.fits .text = true) :
    ∃ text, rawText? filter.raw = some text ∧
      filter.convert options = do
        let combinator ← Logged.ofExcept (readCombinator filter.combinator)
        return .raw combinator text := by
  obtain ⟨_, field, comparator, value, caseInsensitive, multiSelectValues, raw, quantifier,
    group⟩ := filter
  simp only [fits, hasText_eq, compares, Bool.and_eq_true, Option.isNone_iff_eq_none,
    Bool.not_eq_true'] at h
  obtain ⟨⟨⟨⟨htext, rfl⟩, rfl⟩, rfl⟩, hcompares⟩ := h
  obtain ⟨text, htext⟩ := Option.isSome_iff_exists.mp htext
  refine ⟨text, htext, ?_⟩
  rw [convert]
  simp only [htext, hcompares]
  rfl

/-- A quantified filter has its combinator read first, then its quantifier, then its children. -/
theorem convert_of_quantified (h : filter.fits .quantified = true) :
    ∃ field children name, filter.field = some field ∧ filter.group = some children ∧
      filter.quantifier = some name ∧
      filter.convert options = do
        let combinator ← Logged.ofExcept (readCombinator filter.combinator)
        let quantifier ← Logged.ofExcept (readQuantifier name)
        return .quantified combinator field quantifier (← convertAll options children) := by
  obtain ⟨_, field, comparator, value, caseInsensitive, multiSelectValues, raw, quantifier,
    group⟩ := filter
  simp only [fits, hasText_eq, compares, Bool.and_eq_true, Option.isSome_iff_exists,
    Bool.not_eq_true', Option.isSome_eq_false_iff, Option.isNone_iff_eq_none] at h
  obtain ⟨⟨⟨⟨htext, field, rfl⟩, children, rfl⟩, name, rfl⟩, hcompares⟩ := h
  refine ⟨field, children, name, rfl, rfl, rfl, ?_⟩
  rw [convert]
  simp only [htext, hcompares]
  rfl

/-- A group has its combinator read first and then its children. -/
theorem convert_of_group (h : filter.fits .group = true) :
    ∃ children, filter.group = some children ∧
      filter.convert options = do
        let combinator ← Logged.ofExcept (readCombinator filter.combinator)
        return .group combinator (← convertAll options children) := by
  obtain ⟨_, field, comparator, value, caseInsensitive, multiSelectValues, raw, quantifier,
    group⟩ := filter
  simp only [fits, hasText_eq, compares, Bool.and_eq_true, Option.isSome_iff_exists,
    Bool.not_eq_true', Option.isSome_eq_false_iff, Option.isNone_iff_eq_none] at h
  obtain ⟨⟨⟨⟨htext, rfl⟩, children, rfl⟩, rfl⟩, hcompares⟩ := h
  refine ⟨children, rfl, ?_⟩
  rw [convert]
  simp only [htext, hcompares]
  rfl

/-- A comparison without a value has an empty one, and an absent comparator is the default one. -/
theorem convert_of_condition (h : filter.fits .condition = true) :
    ∃ field, filter.field = some field ∧
      filter.convert options = do
        let combinator ← Logged.ofExcept (readCombinator filter.combinator)
        let comparator ← readComparator options filter.comparator
        return .leaf combinator
          { field, comparator, value := filter.value.getD "",
            caseInsensitive := filter.caseInsensitive,
            multiSelectValues := filter.multiSelectValues.getD [] } := by
  obtain ⟨_, field, comparator, value, caseInsensitive, multiSelectValues, raw, quantifier,
    group⟩ := filter
  simp only [fits, hasText_eq, Bool.and_eq_true, Option.isSome_iff_exists, Bool.not_eq_true',
    Option.isSome_eq_false_iff, Option.isNone_iff_eq_none] at h
  obtain ⟨⟨⟨htext, field, rfl⟩, rfl⟩, rfl⟩ := h
  refine ⟨field, rfl, ?_⟩
  rw [convert]
  simp only [htext]

/-- Without a shape, the conversion fails once the combinator is read. -/
theorem convert_of_not_hasShape (h : filter.hasShape = false) :
    filter.convert options
      = (Logged.ofExcept (readCombinator filter.combinator)
        >>= fun _ => Logged.fail (.invalidShape filter.misfit)) := by
  obtain ⟨_, field, comparator, value, caseInsensitive, multiSelectValues, raw, quantifier,
    group⟩ := filter
  have hcompares := Bool.eq_false_or_eq_true
    (comparator.isSome || value.isSome || multiSelectValues.isSome || caseInsensitive)
  simp only [hasShape, fits, hasText_eq, compares] at h
  rw [convert]
  simp only [misfit, hasText_eq, compares]
  -- Of the text and of the comparison only their presence counts.
  rcases Option.eq_none_or_eq_some (rawText? raw) with htext | ⟨text, htext⟩ <;>
    rcases hcompares with hcompares | hcompares <;>
    simp only [htext, hcompares] at h ⊢ <;>
    cases group <;> cases quantifier <;> cases field <;> simp_all

end Conversion

/-! ## Conversion goes from filter to filter

Converting a list checks its nodes one after the other: what a filter contributes by itself does not
depend on its group (`check`), and the group comes right behind it (`discard_convert`). -/

/-- What conversion says about a filter besides its result. -/
def warnings (options : CompileOptions) (filter : LooseFilter) : List LogEntry :=
  if options.legacyContainsFallback ∧ filter.defect options = none then
    ((unknown? Comparator.ofName? filter.comparator).map .unknownComparator).toList
  else []

/-- The check of a filter, whatever is in its group. -/
def check (options : CompileOptions) (filter : LooseFilter) : Logged FilterError Unit where
  log := filter.warnings options
  result := verdict (filter.defect options)

section Check

variable {options : CompileOptions} {filter : LooseFilter}

/-- The check of a filter with a defect says nothing but that. -/
theorem check_of_defect {e : FilterError} (h : filter.defect options = some e) :
    filter.check options = Logged.fail e := by
  have hwarnings : filter.warnings options = [] := by simp [warnings, h]
  rw [check, hwarnings, h]
  rfl

/-- The check of a filter without a defect says nothing at all if its comparator is known. -/
theorem check_of_silent (h : filter.defect options = none)
    (hsilent : unknown? Comparator.ofName? filter.comparator = none) :
    filter.check options = pure () := by
  have hwarnings : filter.warnings options = [] := by simp [warnings, hsilent]
  rw [check, hwarnings, h]
  rfl

theorem unknown?_eq_some_iff {α : Type} {ofName? : String → Option α} {name : Option String}
    {n : String} : unknown? ofName? name = some n ↔ name = some n ∧ ofName? n = none := by
  rw [unknown?, Option.filter_eq_some_iff, Option.isNone_iff_eq_none]

/-- A combinator that is not unknown is read. -/
theorem readCombinator_of_known (h : unknown? Combinator.ofName? filter.combinator = none) :
    ∃ combinator, readCombinator filter.combinator = .ok combinator := by
  rw [unknown?_eq_none_iff] at h
  cases hname : filter.combinator with
  | none => exact ⟨.none, rfl⟩
  | some name =>
    obtain ⟨combinator, hcombinator⟩ := Option.isSome_iff_exists.mp (h name hname)
    exact ⟨combinator, by rw [readCombinator, hcombinator]⟩

/-- A comparator that is not unknown is read without a word, whatever the options. -/
theorem readComparator_of_known (options : CompileOptions)
    (h : unknown? Comparator.ofName? filter.comparator = none) :
    ∃ comparator, readComparator options filter.comparator = pure comparator := by
  rw [unknown?_eq_none_iff] at h
  cases hname : filter.comparator with
  | none => exact ⟨.contains, rfl⟩
  | some name =>
    obtain ⟨comparator, hcomparator⟩ := Option.isSome_iff_exists.mp (h name hname)
    exact ⟨comparator, by rw [readComparator, hcomparator]⟩

/-- An unknown comparator is told and taken for `contains`, or it is an error. -/
theorem readComparator_of_unknown {name : String}
    (h : unknown? Comparator.ofName? filter.comparator = some name) :
    readComparator options filter.comparator
      = if options.legacyContainsFallback then
          ⟨[.unknownComparator name], .ok .contains⟩
        else Logged.fail (.unknownComparator name) := by
  obtain ⟨hname, hunknown⟩ := unknown?_eq_some_iff.mp h
  rw [hname, readComparator, hunknown]
  rfl

/-- An unknown combinator ends the conversion before the shape is looked at. -/
theorem convert_of_unknown {name : String}
    (h : unknown? Combinator.ofName? filter.combinator = some name) :
    filter.convert options = Logged.fail (.unknownCombinator name) := by
  obtain ⟨combinator, field, comparator, value, caseInsensitive, multiSelectValues, raw, quantifier,
    group⟩ := filter
  obtain ⟨rfl, hunknown⟩ := unknown?_eq_some_iff.mp h
  rw [convert, readCombinator, hunknown]
  rfl

/-- With a known combinator and a shape, only the other names can be wrong. -/
theorem defect_of_fits (options : CompileOptions) {shape : Shape} (h : filter.fits shape = true)
    (hknown : unknown? Combinator.ofName? filter.combinator = none) :
    filter.defect options
      = ((unknown? Quantifier.ofName? filter.quantifier).map .unknownQuantifier
        <|> (if options.legacyContainsFallback then none
          else (unknown? Comparator.ofName? filter.comparator).map .unknownComparator)) := by
  rw [defect, hknown, hasShape_iff.mpr ⟨shape, h⟩]
  rfl

section Fits

variable (hknown : unknown? Combinator.ofName? filter.combinator = none)
include hknown

/-- A text is all right once its combinator is. -/
theorem discard_convert_of_text (h : filter.fits .text = true) :
    (filter.convert options >>= fun _ => pure ()) = filter.check options := by
  obtain ⟨combinator, hcombinator⟩ := readCombinator_of_known hknown
  obtain ⟨text, -, hconvert⟩ := convert_of_text options h
  have hnames : filter.quantifier = none ∧ filter.comparator = none := by
    simp_all [fits, compares]
  have hdefect : filter.defect options = none := by
    rw [defect_of_fits options h hknown, hnames.1, hnames.2]
    simp [unknown?]
  rw [hconvert, hcombinator, check_of_silent hdefect (by simp [unknown?, hnames.2])]
  rfl

/-- With a quantified filter its quantifier is checked before its children. -/
theorem discard_convert_of_quantified (h : filter.fits .quantified = true) :
    (filter.convert options >>= fun _ => pure ())
      = (filter.check options
        >>= fun _ => convertAll options (filter.group.getD []) >>= fun _ => pure ()) := by
  obtain ⟨combinator, hcombinator⟩ := readCombinator_of_known hknown
  obtain ⟨field, children, name, -, hgroup, hquantifier, hconvert⟩ :=
    convert_of_quantified options h
  have hcomparator : filter.comparator = none := by
    simp_all [fits, compares]
  have hdefect := defect_of_fits options h hknown
  rw [hquantifier, hcomparator] at hdefect
  rw [hconvert, hcombinator, hgroup]
  -- Both sides end here if the quantifier is unknown.
  cases hname : Quantifier.ofName? name with
  | some quantifier =>
    have hfine : filter.defect options = none := by
      rw [hdefect]
      simp [unknown?, hname]
    rw [check_of_silent hfine (by simp [unknown?, hcomparator]), readQuantifier, hname]
    simp only [Logged.ofExcept_ok, bind_assoc, pure_bind, Option.getD_some]
  | none =>
    have hunknown : filter.defect options = some (.unknownQuantifier name) := by
      rw [hdefect]
      simp [unknown?, hname]
    rw [check_of_defect hunknown, readQuantifier, hname]
    rfl

/-- With a group there is nothing to check but its children. -/
theorem discard_convert_of_group (h : filter.fits .group = true) :
    (filter.convert options >>= fun _ => pure ())
      = (filter.check options
        >>= fun _ => convertAll options (filter.group.getD []) >>= fun _ => pure ()) := by
  obtain ⟨combinator, hcombinator⟩ := readCombinator_of_known hknown
  obtain ⟨children, hgroup, hconvert⟩ := convert_of_group options h
  have hnames : filter.quantifier = none ∧ filter.comparator = none := by
    simp_all [fits, compares]
  have hdefect : filter.defect options = none := by
    rw [defect_of_fits options h hknown, hnames.1, hnames.2]
    simp [unknown?]
  rw [hconvert, hcombinator, hgroup, check_of_silent hdefect (by simp [unknown?, hnames.2])]
  simp only [Logged.ofExcept_ok, bind_assoc, pure_bind, Option.getD_some]

/-- With a comparison the comparator is checked, and the fallback can turn an error into a warning.
-/
theorem discard_convert_of_condition (h : filter.fits .condition = true) :
    (filter.convert options >>= fun _ => pure ()) = filter.check options := by
  obtain ⟨combinator, hcombinator⟩ := readCombinator_of_known hknown
  obtain ⟨field, -, hconvert⟩ := convert_of_condition options h
  have hquantifier : filter.quantifier = none := by
    simp_all [fits]
  have hdefect := defect_of_fits options h hknown
  rw [hquantifier] at hdefect
  rw [hconvert, hcombinator]
  cases hname : unknown? Comparator.ofName? filter.comparator with
  | none =>
    obtain ⟨comparator, hcomparator⟩ := readComparator_of_known options hname
    have hfine : filter.defect options = none := by
      rw [hdefect, hname]
      simp [unknown?]
    rw [check_of_silent hfine hname, hcomparator]
    rfl
  | some name =>
    rw [hname] at hdefect
    rw [readComparator_of_unknown hname]
    cases hfallback : options.legacyContainsFallback with
    | true =>
      -- The name is told and taken for `contains`, so nothing is wrong.
      have hfine : filter.defect options = none := by
        rw [hdefect]
        simp [unknown?, hfallback]
      have hwarnings : filter.warnings options = [.unknownComparator name] := by
        simp [warnings, hfallback, hfine, hname]
      rw [check, hwarnings, hfine]
      rfl
    | false =>
      have hunknown : filter.defect options = some (.unknownComparator name) := by
        rw [hdefect]
        simp [unknown?, hfallback]
      rw [check_of_defect hunknown]
      rfl

end Fits

/-- Conversion checks a filter by itself and goes on in its group. -/
theorem discard_convert (options : CompileOptions) (filter : LooseFilter) :
    (filter.convert options >>= fun _ => pure ())
      = (filter.check options
        >>= fun _ => convertAll options (filter.group.getD []) >>= fun _ => pure ()) := by
  -- In the order of the conversion: the combinator, then the shape, then what the shape needs.
  cases hname : unknown? Combinator.ofName? filter.combinator with
  | some name =>
    have hdefect : filter.defect options = some (.unknownCombinator name) := by
      rw [defect, hname]
      rfl
    rw [convert_of_unknown hname, check_of_defect hdefect]
    rfl
  | none =>
    cases hshape : filter.hasShape with
    | false =>
      obtain ⟨combinator, hcombinator⟩ := readCombinator_of_known hname
      have hdefect : filter.defect options = some (.invalidShape filter.misfit) := by
        rw [defect, hname, hshape]
        rfl
      rw [convert_of_not_hasShape options hshape, check_of_defect hdefect, hcombinator]
      rfl
    | true =>
      -- Only two shapes have a group.
      have halone : filter.group = none →
          (convertAll options (filter.group.getD []) >>= fun _ => pure ()) = pure () := by
        intro hgroup
        rw [hgroup]
        rfl
      obtain ⟨shape, hfits⟩ := hasShape_iff.mp hshape
      cases shape with
      | quantified => exact discard_convert_of_quantified hname hfits
      | group => exact discard_convert_of_group hname hfits
      | text =>
        rw [discard_convert_of_text hname hfits, halone (by simp_all [fits]), bind_pure_unit]
      | condition =>
        rw [discard_convert_of_condition hname hfits, halone (by simp_all [fits]), bind_pure_unit]

end Check

mutual
/-- The conversion of a filter, whatever its result is, goes through its nodes. -/
theorem convert_eq_forM {options : CompileOptions} : ∀ filter : LooseFilter,
    (filter.convert options >>= fun _ => pure ()) = forM filter.nodes (check options)
  | ⟨_, _, _, _, _, _, _, _, none⟩ => by
    rw [nodes_eq, List.forM_cons, discard_convert]
    rfl
  | ⟨_, _, _, _, _, _, _, _, some children⟩ => by
    rw [nodes_eq, List.forM_cons, discard_convert]
    exact congrArg _ (funext fun _ => convertAll_eq_forM children)

/-- The conversion of a list, whatever its result is, goes through its nodes. -/
theorem convertAll_eq_forM {options : CompileOptions} : ∀ filters : List LooseFilter,
    (convertAll options filters >>= fun _ => pure ()) = forM (nodesOf filters) (check options)
  | [] => rfl
  | filter :: filters => by
    rw [nodesOf, List.forM_append, ← convert_eq_forM filter, ← convertAll_eq_forM filters,
      convertAll]
    simp only [bind_assoc, pure_bind]
end

/-! ## The result for a list

A loop over checks ends with the first defect, so the result is a search through the nodes. -/

/-- The verdict on a list is the first defect of its nodes. -/
theorem result_convertAll (options : CompileOptions) (filters : List LooseFilter) :
    (convertAll options filters >>= fun _ => pure ()).result
      = verdict ((nodesOf filters).findSome? (defect options)) := by
  rw [convertAll_eq_forM]
  exact result_forM_verdict _ _ _

/-- A list of loose filters is converted if and only if every filter in it, at any depth, attaches
in a known way and has exactly one shape, with known names. The conversion of any other list fails
with the defect of the first filter that is not like that, where a filter comes before those of its
group and these before the next sibling. -/
theorem convertAll_reports_first_defect (options : CompileOptions) (filters : List LooseFilter) :
    ((∃ tree, (convertAll options filters).result = .ok tree) ↔
      ∀ filter, StandsIn filters filter → filter.WellFormed options) ∧
    ∀ e, (convertAll options filters).result = .error e ↔
      ∃ before filter after, nodesOf filters = before ++ filter :: after ∧
        filter.defect options = some e ∧
        ∀ earlier ∈ before, earlier.WellFormed options := by
  have hresult := result_convertAll options filters
  refine ⟨?_, fun e => ?_⟩
  · rw [← Logged.result_discard_eq_ok, hresult, verdict_eq_ok_iff, List.findSome?_eq_none_iff]
    simp only [wellFormed_iff, mem_nodesOf_iff]
  · rw [← Logged.result_discard_eq_error, hresult, verdict_eq_error_iff,
      List.findSome?_eq_some_iff]
    simp only [wellFormed_iff]

/-- An empty text is no part of a filter: one beside a field is ignored, one beside a group too, and
the first defect of the second list is a text that is not empty. It comes before the unknown name
behind it. -/
theorem convertAll_reports_first_defect_emptyText :
    let conditions : List LooseFilter := [{ field := some "a", raw := some "" }]
    let filters : List LooseFilter :=
      [{ raw := some "", group := some [{ field := some "a", raw := some "" },
        { field := some "b", raw := some "c" }, { combinator := some "xor" }] }]
    (∀ filter, StandsIn conditions filter → filter.WellFormed {}) ∧
      ∃ before filter after, nodesOf filters = before ++ filter :: after ∧
        filter.defect {} = some (.invalidShape .rawMixed) ∧
        ∀ earlier ∈ before, earlier.WellFormed {} :=
  ⟨(convertAll_reports_first_defect {} _).1.mp ⟨_, rfl⟩,
    ((convertAll_reports_first_defect {} _).2 _).mp rfl⟩

end LooseFilter

end ODataQuery
