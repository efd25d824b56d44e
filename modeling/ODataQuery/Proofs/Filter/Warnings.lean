import ODataQuery.Proofs.Filter.Defects
import ODataQuery.Request.Basic

/-!
# What is logged about filters

The check of a tree speaks about the places that it visits, which are those up to the first one with
a defect (`visited`), and about each of them what that place gives reason to (`Place.warnings`).
Compiling adds one message if there is a result, and so does building a request
(`log_of_visited_places`).
-/

namespace ODataQuery

/-! ## Series of checks

A loop over checks goes up to the first one that fails, and that one still logs its warnings. -/

section Series

variable {α : Type}

/-- The elements up to the first one with a property, that one included; all elements if there is
none. -/
def upToFirst (p : α → Bool) (as : List α) : List α := as.take (as.findIdx p + 1)

theorem upToFirst_cons (p : α → Bool) (a : α) (as : List α) :
    upToFirst p (a :: as) = a :: if p a then [] else upToFirst p as := by
  rw [upToFirst, List.findIdx_cons]
  cases p a <;> rfl

theorem upToFirst_of_none {p : α → Bool} {as : List α} (h : ∀ a ∈ as, p a = false) :
    upToFirst p as = as := by
  rw [upToFirst, List.findIdx_eq_length.mpr h]
  exact List.take_of_length_le (Nat.le_succ _)

/-- The first element with the property is the last one that is taken. -/
theorem upToFirst_append_cons {p : α → Bool} {before : List α} {a : α} (after : List α)
    (hbefore : ∀ b ∈ before, p b = false) (ha : p a = true) :
    upToFirst p (before ++ a :: after) = before ++ [a] := by
  induction before with
  | nil => rw [List.nil_append, upToFirst_cons, if_pos ha, List.nil_append]
  | cons b before ih =>
    have hb : ¬ p b = true := by simp [hbefore b List.mem_cons_self]
    rw [List.cons_append, upToFirst_cons, if_neg hb,
      ih fun c hc => hbefore c (List.mem_cons_of_mem _ hc), List.cons_append]

/-- A series of checks logs what is said up to the first defect, and about that one. -/
theorem log_forM_verdict (log : α → List LogEntry) (defect : α → Option FilterError)
    (as : List α) :
    (forM as fun a => (⟨log a, verdict (defect a)⟩ : Logged FilterError Unit)).log
      = (upToFirst (fun a => (defect a).isSome) as).flatMap log := by
  induction as with
  | nil => rfl
  | cons a as ih =>
    rw [List.forM_cons, upToFirst_cons, List.flatMap_cons]
    cases defect a with
    | some e => exact (List.append_nil _).symm
    | none =>
      rw [verdict, Logged.bind_ok, ih]
      rfl

end Series

/-! ## The check

The places of a tree are visited up to the first one with a defect. -/

section Check

variable {options : CompileOptions} {filters : List Filter}

/-- The places that the check of a tree visits: all up to the first one with a defect. -/
def visited (options : CompileOptions) (filters : List Filter) : List Place :=
  upToFirst (fun place => (place.defect options).isSome) (places filters)

/-- What is said about a place: first how its filter attaches to the sibling before it, then what is
suspicious about the filter. -/
def Place.warnings (options : CompileOptions) (place : Place) : List LogEntry :=
  place.filter.attachmentWarnings place.index ++ place.filter.warnings options

/-- The check logs the warnings of the places that it visits. -/
theorem log_validate :
    (validate options filters).log
      = (visited options filters).flatMap (Place.warnings options) := by
  rw [validate, checkSiblings_eq_forM]
  exact log_forM_verdict _ _ _

/-- What passes the check was visited everywhere. -/
theorem visited_of_ok (h : (validate options filters).result = .ok ()) :
    visited options filters = places filters := by
  rw [result_validate, verdict_eq_ok_iff, List.findSome?_eq_none_iff] at h
  apply upToFirst_of_none
  intro place hplace
  rw [h place hplace]
  rfl

/-- What fails the check was visited up to the place whose defect is the error. -/
theorem visited_of_error {e : FilterError} (h : (validate options filters).result = .error e) :
    ∃ before failing after, places filters = before ++ failing :: after ∧
      visited options filters = before ++ [failing] ∧
      failing.defect options = some e ∧
      ∀ earlier ∈ before, earlier.defect options = none := by
  rw [result_validate, verdict_eq_error_iff, List.findSome?_eq_some_iff] at h
  obtain ⟨before, failing, after, hplaces, hfailing, hbefore⟩ := h
  refine ⟨before, failing, after, hplaces, ?_, hfailing, hbefore⟩
  rw [visited, hplaces, upToFirst_append_cons after ?_ ?_]
  · intro earlier hearlier
    rw [hbefore earlier hearlier]
    rfl
  · rw [hfailing]
    rfl

end Check

/-! ## Compilation and requests

Compiling adds an entry of its own if the check has passed, and so does building a request. -/

/-- Compiling logs what the check does and, if it succeeds, the text. -/
theorem log_compile (options : CompileOptions) (filters : List Filter) :
    (compile options filters).log = (validate options filters).log ++
      match (compile options filters).result with
      | .ok text => [.compiled filters.length text]
      | .error _ => [] := by
  rw [compile]
  obtain ⟨log, e | _⟩ := validate options filters
  · exact (List.append_nil log).symm
  · rfl

/-- Building a request logs what compiling does and, if it succeeds, the address. -/
theorem Dialect.log_entityRequest (dialect : Dialect) (base : String) (query : EntityQuery) :
    (dialect.entityRequest base query).log = (compile dialect.options query.filters).log ++
      match (dialect.entityRequest base query).result with
      | .ok request => [.builtUrl request.url]
      | .error _ => [] := by
  rw [entityRequest, filterClause]
  obtain ⟨log, e | text⟩ := compile dialect.options query.filters
  · exact (List.append_nil log).symm
  · show log ++ [] ++ [_] = log ++ [_]
    rw [List.append_nil]

/-- The check of a tree says of each place that it visits how the filter attaches to the sibling
before it, if that is suspicious, and then what is suspicious about the filter. It visits all places
of a tree that passes, and otherwise those up to the first one with a defect. Compiling says this
too and then, if there is a result, what it is; building a request says what compiling says and
then, if there is a request, what its URL is. -/
theorem log_of_visited_places (options : CompileOptions) (filters : List Filter) :
    (validate options filters).log
      = (visited options filters).flatMap (Place.warnings options) ∧
    ((validate options filters).result = .ok () →
      visited options filters = places filters) ∧
    (∀ e, (validate options filters).result = .error e →
      ∃ before failing after, places filters = before ++ failing :: after ∧
        visited options filters = before ++ [failing] ∧
        failing.defect options = some e ∧
        ∀ earlier ∈ before, earlier.defect options = none) ∧
    ((compile options filters).log = (validate options filters).log ++
      match (compile options filters).result with
      | .ok text => [.compiled filters.length text]
      | .error _ => []) ∧
    ∀ (dialect : Dialect) (base : String) (query : EntityQuery),
      (dialect.entityRequest base query).log = (compile dialect.options query.filters).log ++
        match (dialect.entityRequest base query).result with
        | .ok request => [.builtUrl request.url]
        | .error _ => [] :=
  ⟨log_validate, visited_of_ok, fun _ => visited_of_error, log_compile options filters,
    Dialect.log_entityRequest⟩

/-- Indices count from zero in every list, and what stands behind the first defect is not spoken
of, whereas the filter with the defect is. -/
theorem log_of_visited_places_nested :
    let passing : List Filter := [.isNull "id", .ofList [.choosing "tags" []]]
    let failing : List Filter :=
      [.ofText "a", .ofList [.choosing "tags" [], .compare "name" .contains ""], .isNull "late"]
    (validate {} passing).result = .ok () ∧
      visited {} passing = places passing ∧
      (validate {} failing).result = .error (.missingValue "name" .contains) ∧
      (∃ before last after, places failing = before ++ last :: after ∧
        visited {} failing = before ++ [last] ∧
        last.defect {} = some (.missingValue "name" .contains)) ∧
      (validate {} failing).log = [.missingCombinator 1,
        .emptyMultiSelect .multiSelectContains "tags", .missingCombinator 1] := by
  intro passing failing
  obtain ⟨-, hall, -⟩ := log_of_visited_places {} passing
  obtain ⟨hlog, -, hcut, -⟩ := log_of_visited_places {} failing
  have hpasses : (validate {} passing).result = .ok () := by rfl
  have hfails : (validate {} failing).result = .error (.missingValue "name" .contains) := by rfl
  obtain ⟨before, last, after, hplaces, hvisited, hdefect, -⟩ := hcut _ hfails
  exact ⟨hpasses, hall hpasses, hfails, ⟨before, last, after, hplaces, hvisited, hdefect⟩,
    hlog.trans (by rfl)⟩

end ODataQuery
