import ODataQuery.Filter.Render
import ODataQuery.Filter.Validate
import ODataQuery.Proofs.Log

/-!
# Runs of siblings

Siblings that follow each other are checked one run after the other and written one run behind the
other (`result_checkSiblings_append`, `renderSiblings_append`). A run that stands anywhere in a tree
can therefore be made a group of its own: what the check finds stays the same, and the text gets a
pair of parentheses around the run (`runs_compose`). Where the run stands is a `Hole` of the tree.
-/

namespace ODataQuery

/-! ## The text of two runs

Putting two runs together puts a token between their texts. Which one it is depends on the first
filter of the second run alone. -/

/-- What is written for the combinator of a filter that stands behind others, or behind nothing. -/
def attachment (before : List Filter) (c : Combinator) : String :=
  if before.isEmpty then "" else c.token

section Text

variable (qualifier : String)

/-- What is attached to a filter goes on behind what was attached before. -/
theorem renderAttached_append (xs ys : List Filter) :
    renderAttached qualifier (xs ++ ys)
      = renderAttached qualifier xs ++ renderAttached qualifier ys := by
  induction xs with
  | nil => rw [List.nil_append, renderAttached, String.empty_append]
  | cons filter siblings ih =>
    rw [List.cons_append, renderAttached, renderAttached, ih]
    simp only [String.append_assoc]

/-- A run is rendered up to one of its filters, and from there on. -/
theorem renderSiblings_append (before : List Filter) (filter : Filter) (siblings : List Filter) :
    renderSiblings qualifier (before ++ filter :: siblings)
      = renderSiblings qualifier before ++ attachment before filter.combinator
        ++ renderSiblings qualifier (filter :: siblings) := by
  cases before with
  | nil => rw [List.nil_append, renderSiblings, attachment]; simp
  | cons first others =>
    have htoken : attachment (first :: others) filter.combinator = filter.combinator.token := rfl
    rw [List.cons_append, renderSiblings, renderSiblings, renderSiblings, htoken,
      renderAttached_append, renderAttached]
    simp only [String.append_assoc]

/-- What follows a run is attached to it. -/
theorem renderSiblings_cons_append (filter : Filter) (siblings after : List Filter) :
    renderSiblings qualifier (filter :: siblings ++ after)
      = renderSiblings qualifier (filter :: siblings) ++ renderAttached qualifier after := by
  rw [List.cons_append, renderSiblings, renderSiblings, renderAttached_append, String.append_assoc]

end Text

/-! ## The check of two runs

The verdict on two runs is that on the first and then that on the second. The indices differ, but
they only show in the log. -/

section Check

variable {options : CompileOptions} {enclosing : Option String}

/-- Behind the first filter there is a warning at most. -/
theorem result_checkSiblings_succ (index : Nat) (filter : Filter) (siblings : List Filter) :
    (checkSiblings options enclosing index (filter :: siblings)).result
      = (filter.check options enclosing).result
        >>= fun _ => (checkSiblings options enclosing (index + 1) siblings).result := by
  conv => lhs; rw [checkSiblings]
  split
  · -- The message about the combinator is not part of the result.
    show (filter.check options enclosing >>= fun _ =>
      checkSiblings options enclosing (index + 1) siblings).result = _
    rw [Logged.result_bind]
  · rw [Logged.result_bind]

/-- The index of the first sibling matters to the messages only. -/
theorem result_checkSiblings_index (index index' : Nat) (filters : List Filter) :
    (checkSiblings options enclosing index filters).result
      = (checkSiblings options enclosing index' filters).result := by
  induction filters generalizing index index' with
  | nil => rw [checkSiblings, checkSiblings]
  | cons filter siblings ih =>
    rw [result_checkSiblings_succ, result_checkSiblings_succ, ih (index + 1) (index' + 1)]

/-- At the front of a run there is no warning at all. -/
theorem result_checkSiblings_cons (filter : Filter) (siblings : List Filter) :
    (checkSiblings options enclosing 0 (filter :: siblings)).result
      = (filter.check options enclosing).result
        >>= fun _ => (checkSiblings options enclosing 0 siblings).result := by
  rw [result_checkSiblings_succ, result_checkSiblings_index (0 + 1) 0]

/-- The verdict on two runs, whatever the index of the second one is. -/
theorem result_checkSiblings_append (xs ys : List Filter) :
    (checkSiblings options enclosing 0 (xs ++ ys)).result
      = (checkSiblings options enclosing 0 xs).result
        >>= fun _ => (checkSiblings options enclosing 0 ys).result := by
  induction xs with
  | nil => rfl
  | cons filter siblings ih =>
    rw [List.cons_append, result_checkSiblings_cons, result_checkSiblings_cons, ih, bind_assoc]

/-- A group that is not empty is checked like the siblings in it. -/
theorem result_checkSiblings_group (c : Combinator) (filter : Filter) (siblings : List Filter) :
    (checkSiblings options enclosing 0 [.group c (filter :: siblings)]).result
      = (checkSiblings options enclosing 0 (filter :: siblings)).result := by
  rw [result_checkSiblings_cons, Filter.check, if_neg (by simp)]
  show (_ >>= fun _ => Except.ok ()) = _
  cases (checkSiblings options enclosing 0 (filter :: siblings)).result <;> rfl

end Check

/-! ## Holes

A hole is a tree with a place for a run, at any depth. Filling it changes neither what stands around
the hole nor what is checked there before it. -/

/-- A tree that is open in one place: among the siblings of some list, at whatever depth. -/
inductive Hole where
  | among (before after : List Filter)
  | quantified (before : List Filter) (c : Combinator) (field : String) (quantifier : Quantifier)
      (inside : Hole) (after : List Filter)
  | group (before : List Filter) (c : Combinator) (inside : Hole) (after : List Filter)

namespace Hole

/-- The tree with a run of siblings in the open place. -/
def fill (run : List Filter) : Hole → List Filter
  | .among before after => before ++ run ++ after
  | .quantified before c field quantifier inside after =>
    before ++ .quantified c field quantifier (inside.fill run) :: after
  | .group before c inside after => before ++ .group c (inside.fill run) :: after

/-- The qualifier of the open place in a tree that is written under `outer`. -/
def qualifier (outer : String) : Hole → String
  | .among _ _ => outer
  | .quantified _ _ _ _ inside _ => inside.qualifier iteratorQualifier
  | .group _ _ inside _ => inside.qualifier outer

variable {options : CompileOptions}

/-- No run becomes empty by what is filled in. -/
theorem isEmpty_fill (hole : Hole) {run : List Filter} (hrun : run ≠ []) :
    (hole.fill run).isEmpty = false := by
  cases hole <;> simp [fill, hrun]

/-- The text of a tree is that of the run in its open place between two texts that depend on the
run by the combinator of its first filter only. -/
theorem exists_render_fill (hole : Hole) (outer : String) (c : Combinator) :
    ∃ before after : String, ∀ (filter : Filter) (siblings : List Filter),
      filter.combinator = c →
        renderSiblings outer (hole.fill (filter :: siblings))
          = before ++ renderSiblings (hole.qualifier outer) (filter :: siblings) ++ after := by
  -- Inside a quantified filter the qualifier is another one, so the induction is over any.
  induction hole generalizing outer with
  | among before after =>
    refine ⟨renderSiblings outer before ++ attachment before c, renderAttached outer after, ?_⟩
    rintro filter siblings rfl
    rw [fill, List.append_assoc, List.cons_append, renderSiblings_append, ← List.cons_append,
      renderSiblings_cons_append, qualifier]
    simp only [String.append_assoc]
  | quantified before c' field quantifier inside after ih =>
    obtain ⟨textBefore, textAfter, htext⟩ := ih iteratorQualifier
    refine ⟨renderSiblings outer before ++ attachment before c' ++ "(" ++ field ++ "/"
        ++ quantifier.token ++ "(" ++ iterator ++ ": " ++ textBefore,
      textAfter ++ ")" ++ ")" ++ renderAttached outer after, ?_⟩
    intro filter siblings hfilter
    rw [fill, renderSiblings_append, renderSiblings, Filter.render, htext filter siblings hfilter,
      Hole.qualifier]
    simp only [parenthesized, quantify, Filter.combinator, String.append_assoc]
  | group before c' inside after ih =>
    obtain ⟨textBefore, textAfter, htext⟩ := ih outer
    refine ⟨renderSiblings outer before ++ attachment before c' ++ "(" ++ textBefore,
      textAfter ++ ")" ++ renderAttached outer after, ?_⟩
    intro filter siblings hfilter
    rw [fill, renderSiblings_append, renderSiblings, Filter.render, htext filter siblings hfilter,
      Hole.qualifier]
    simp only [parenthesized, Filter.combinator, String.append_assoc]

/-- Runs on which the check agrees can stand for one another in the open place of a tree. -/
theorem result_check_fill_congr (hole : Hole) {run run' : List Filter} (hrun : run ≠ [])
    (hrun' : run' ≠ [])
    (hsame : ∀ enclosing, (checkSiblings options enclosing 0 run).result
      = (checkSiblings options enclosing 0 run').result) (enclosing : Option String) :
    (checkSiblings options enclosing 0 (hole.fill run)).result
      = (checkSiblings options enclosing 0 (hole.fill run')).result := by
  induction hole generalizing enclosing with
  | among before after =>
    -- The siblings around the run are checked alike on both sides.
    simp only [fill, result_checkSiblings_append, hsame]
  | quantified before c field quantifier inside after ih =>
    -- Whether there are children is all that the check of the filter itself asks about them.
    have hself : checkQuantified enclosing field (inside.fill run)
        = checkQuantified enclosing field (inside.fill run') := by
      unfold checkQuantified
      rw [inside.isEmpty_fill hrun, inside.isEmpty_fill hrun']
    simp only [fill, result_checkSiblings_append, result_checkSiblings_cons, Filter.check,
      Logged.result_bind, hself, ih]
  | group before c inside after ih =>
    simp only [fill, result_checkSiblings_append, result_checkSiblings_cons, Filter.check,
      inside.isEmpty_fill hrun, inside.isEmpty_fill hrun', Bool.false_eq_true, if_false, ih]

end Hole

/-! ## Runs compose

For a run in a hole only its text, its verdict and the combinator of its first filter matter. A
group has the same verdict as its run, and the text of the run in parentheses. -/

/-- The text of two runs is that of the first, the combinator of the second and the text of the
second. The verdict on both is that on the first if it fails, and otherwise that on the second. A
run at any depth of a tree can be put into a group that attaches as the run did: the verdict on the
tree stays the same, and all that changes in its text is a parenthesis on either side of the run. -/
theorem runs_compose :
    (∀ qualifier x xs y ys, renderSiblings qualifier ((x :: xs) ++ (y :: ys))
      = renderSiblings qualifier (x :: xs) ++ y.combinator.token
        ++ renderSiblings qualifier (y :: ys)) ∧
    (∀ options xs ys, (validate options (xs ++ ys)).result =
      match (validate options xs).result with
      | .ok () => (validate options ys).result
      | .error e => .error e) ∧
    (∀ options (hole : Hole) first rest,
      (validate options (hole.fill [.group first.combinator (first :: rest)])).result
        = (validate options (hole.fill (first :: rest))).result) ∧
    ∀ qualifier (hole : Hole) c, ∃ before after : String, ∀ first rest, first.combinator = c →
      let text := renderSiblings (hole.qualifier qualifier) (first :: rest)
      renderSiblings qualifier (hole.fill (first :: rest)) = before ++ text ++ after ∧
        renderSiblings qualifier (hole.fill [.group c (first :: rest)])
          = before ++ "(" ++ text ++ ")" ++ after := by
  refine ⟨fun qualifier x xs y ys => ?_, fun options xs ys => ?_,
    fun options hole first rest => ?_, fun qualifier hole c => ?_⟩
  · rw [renderSiblings_append]
    rfl
  · rw [validate, result_checkSiblings_append, validate, validate]
    cases (checkSiblings options none 0 xs).result <;> rfl
  · exact hole.result_check_fill_congr (by simp) (by simp)
      (fun enclosing => result_checkSiblings_group first.combinator first rest) none
  · obtain ⟨before, after, htext⟩ := hole.exists_render_fill qualifier c
    refine ⟨before, after, fun first rest hfirst => ⟨htext first rest hfirst, ?_⟩⟩
    -- The group is a run of one filter with the combinator of the old run.
    have hgroup := htext (.group c (first :: rest)) [] rfl
    rw [hgroup, renderSiblings, Filter.render, renderAttached, String.append_empty, parenthesized]
    simp only [String.append_assoc]

/-- The run stands inside a quantified filter, behind another condition. -/
theorem runs_compose_quantified :
    let hole : Hole := .quantified [] .none "lines" .any (.among [.isNull "id"] []) []
    let first : Filter := .leaf .or { field := "a", comparator := .isNull }
    let second : Filter := .leaf .and { field := "b", comparator := .isNull }
    renderSiblings (hole.qualifier "") [first, second] = "(i/a eq null) and (i/b eq null)" ∧
      ∃ before after : String,
        renderSiblings "" (hole.fill [first, second])
            = before ++ "(i/a eq null) and (i/b eq null)" ++ after ∧
          renderSiblings "" (hole.fill [.group .or [first, second]])
            = before ++ "(" ++ "(i/a eq null) and (i/b eq null)" ++ ")" ++ after := by
  intro hole first second
  have hrun : renderSiblings (hole.qualifier "") [first, second]
      = "(i/a eq null) and (i/b eq null)" := by
    decide
  have hcombinator : first.combinator = .or := rfl
  obtain ⟨-, -, -, htexts⟩ := runs_compose
  obtain ⟨before, after, htext⟩ := htexts "" hole .or
  obtain ⟨hplain, hgrouped⟩ := htext first [second] hcombinator
  rw [hrun] at hplain hgrouped
  exact ⟨hrun, before, after, hplain, hgrouped⟩

end ODataQuery
