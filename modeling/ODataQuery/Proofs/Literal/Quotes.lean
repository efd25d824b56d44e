import ODataQuery.Literal
import Mathlib.Algebra.Group.Nat.Even

/-!
# Doubled quotes

Inside a literal every quote of the value is written twice. Halving undoes doubling
(`halveQuotes_doubleQuotes`), and a quoted text ends at its own last quote whatever it contains,
provided that no further quote follows (`quoted_append_inj`).

The texts that doubling gives are those whose runs of quotes all have even length. Two notions of
this are related here: `EvenRuns` speaks of maximal runs, `Paired` reads the list from the left.
-/

namespace ODataQuery.Literal

/-! ## Doubling and halving

Inside a literal every quote is doubled. Halving takes that back (`halveQuotes_doubleQuotes`), so
doubling is injective. -/

/-- Other characters are left alone. -/
theorem doubleQuotes_cons_of_ne {c : Char} (h : c ≠ '\'') (rest : List Char) :
    doubleQuotes (c :: rest) = c :: doubleQuotes rest := by
  rw [doubleQuotes]
  exact h

/-- Other characters are left alone, as doubling does. -/
theorem halveQuotes_cons_of_ne {c : Char} (h : c ≠ '\'') (rest : List Char) :
    halveQuotes (c :: rest) = c :: halveQuotes rest := by
  rw [halveQuotes]
  intro _ hc
  exact absurd hc h

/-- Halving undoes doubling. Induction on the value. -/
theorem halveQuotes_doubleQuotes (cs : List Char) : halveQuotes (doubleQuotes cs) = cs := by
  induction cs with
  | nil => rfl
  | cons c cs ih =>
    by_cases hc : c = '\''
    · subst hc
      rw [doubleQuotes, halveQuotes, ih]
    · rw [doubleQuotes_cons_of_ne hc, halveQuotes_cons_of_ne hc, ih]

theorem doubleQuotes_injective {cs ds : List Char} (h : doubleQuotes cs = doubleQuotes ds) :
    cs = ds := by
  rw [← halveQuotes_doubleQuotes cs, h, halveQuotes_doubleQuotes]

/-- Nothing is doubled where there is no quote. -/
theorem doubleQuotes_of_no_quote {cs : List Char} (h : '\'' ∉ cs) : doubleQuotes cs = cs := by
  induction cs with
  | nil => rfl
  | cons c cs ih =>
    have hc : c ≠ '\'' := fun heq => h (heq ▸ List.mem_cons_self)
    rw [doubleQuotes_cons_of_ne hc, ih fun hmem => h (List.mem_cons_of_mem _ hmem)]

/-! ## Quoted texts

A quote that is not followed by another one ends a quoted text. So the text can be told from what
follows it, as long as that does not begin with a quote (`quoted_append_inj`). -/

/-- A value between quotes, its own quotes doubled. -/
def quoted (cs : List Char) : List Char := '\'' :: doubleQuotes cs ++ ['\'']

/-- The closing quote of a quoted text is the first one that no second quote follows. Induction on
the one value, by cases on the other. -/
theorem doubleQuotes_append_inj {cs ds r s : List Char} (hr : r.head? ≠ some '\'')
    (hs : s.head? ≠ some '\'') (h : doubleQuotes cs ++ '\'' :: r = doubleQuotes ds ++ '\'' :: s) :
    cs = ds ∧ r = s := by
  induction cs generalizing ds with
  | nil =>
    cases ds with
    | nil => exact ⟨rfl, (List.cons.inj h).2⟩
    | cons d ds =>
      by_cases hd : d = '\''
      · subst hd
        rw [doubleQuotes] at h
        have hrest : r = '\'' :: (doubleQuotes ds ++ '\'' :: s) := (List.cons.inj h).2
        -- The other text goes on with a doubled quote, so the rest would begin with one.
        exact absurd (by rw [hrest]; rfl) hr
      · rw [doubleQuotes_cons_of_ne hd] at h
        exact absurd (List.cons.inj h).1.symm hd
  | cons c cs ih =>
    cases ds with
    | nil =>
      by_cases hc : c = '\''
      · subst hc
        rw [doubleQuotes] at h
        have hrest : '\'' :: (doubleQuotes cs ++ '\'' :: r) = s := (List.cons.inj h).2
        exact absurd (by rw [← hrest]; rfl) hs
      · rw [doubleQuotes_cons_of_ne hc] at h
        exact absurd (List.cons.inj h).1 hc
    | cons d ds =>
      -- A quote and another character never begin alike, since only the former is doubled.
      by_cases hc : c = '\'' <;> by_cases hd : d = '\''
      · subst hc hd
        simp only [doubleQuotes, List.cons_append, List.cons.injEq, true_and] at h
        obtain ⟨rfl, hrest⟩ := ih h
        exact ⟨rfl, hrest⟩
      · subst hc
        rw [doubleQuotes, doubleQuotes_cons_of_ne hd] at h
        exact absurd (List.cons.inj h).1.symm hd
      · subst hd
        rw [doubleQuotes, doubleQuotes_cons_of_ne hc] at h
        exact absurd (List.cons.inj h).1 hc
      · rw [doubleQuotes_cons_of_ne hc, doubleQuotes_cons_of_ne hd] at h
        obtain ⟨rfl, htail⟩ := List.cons.inj h
        obtain ⟨rfl, hrest⟩ := ih htail
        exact ⟨rfl, hrest⟩

/-- A quoted text can be told from what follows it, unless that begins with a quote. -/
theorem quoted_append_inj {cs ds r s : List Char} (hr : r.head? ≠ some '\'')
    (hs : s.head? ≠ some '\'') (h : quoted cs ++ r = quoted ds ++ s) : cs = ds ∧ r = s := by
  apply doubleQuotes_append_inj hr hs
  simpa [quoted] using h

/-! ## Runs of even length

The same property without reading from the left: a text has its quotes in pairs exactly if all of
its runs of quotes have an even length (`Paired.evenRuns`, `EvenRuns.paired`), and that is what
doubling makes (`paired_iff_doubleQuotes`). -/

section Runs

variable {α β : Type} {x : α}

/-- Every maximal run of `x` has even length. -/
def EvenRuns (x : α) (l : List α) : Prop :=
  ∀ before n after, l = before ++ List.replicate n x ++ after →
    before.getLast? ≠ some x → after.head? ≠ some x → Even n

/-- The `x` of the list come in adjacent pairs, counted from the left. -/
inductive Paired (x : α) : List α → Prop where
  | nil : Paired x []
  | pair {l : List α} (h : Paired x l) : Paired x (x :: x :: l)
  | other {y : α} {l : List α} (hne : y ≠ x) (h : Paired x l) : Paired x (y :: l)

/-- Runs of pairs are even. Induction on the pairs: a run of the list less its first pair is either
the same run, or it lost two elements at its front. -/
theorem Paired.evenRuns {l : List α} (h : Paired x l) : EvenRuns x l := by
  induction h with
  | nil =>
    intro before n after heq _ _
    have hlen := congrArg List.length heq
    simp only [List.length_nil, List.length_append, List.length_replicate] at hlen
    rw [show n = 0 from by omega]
    exact Even.zero
  | @pair l h ih =>
    intro before n after heq hbefore hafter
    match before with
    | [] =>
      -- The run is at the front. It has the whole first pair in it, as it is maximal.
      match n with
      | 0 => exact Even.zero
      | 1 =>
        have hhead : after = x :: l := by simpa using heq.symm
        exact absurd (by rw [hhead]; rfl) hafter
      | n + 2 =>
        have hl : l = [] ++ List.replicate n x ++ after := by
          simpa [List.replicate_succ] using heq
        exact (ih [] n after hl (by simp) hafter).add ⟨1, rfl⟩
    | [y] =>
      -- A run that began within the first pair would not be maximal.
      have hy : y = x := by
        simp only [List.cons_append, List.nil_append, List.cons.injEq] at heq
        exact heq.1.symm
      exact absurd (by rw [hy]; rfl) hbefore
    | y :: z :: before =>
      simp only [List.cons_append, List.cons.injEq] at heq
      refine ih before n after (by simpa using heq.2.2) ?_ hafter
      intro hlast
      exact hbefore (by rw [List.getLast?_cons, List.getLast?_cons, hlast]; rfl)
  | @other y l hne h ih =>
    intro before n after heq hbefore hafter
    match before with
    | [] =>
      match n with
      | 0 => exact Even.zero
      | n + 1 =>
        simp only [List.nil_append, List.replicate_succ, List.cons_append, List.cons.injEq] at heq
        exact absurd heq.1 hne
    | z :: before =>
      simp only [List.cons_append, List.cons.injEq] at heq
      refine ih before n after (by simpa using heq.2) ?_ hafter
      intro hlast
      exact hbefore (by rw [List.getLast?_cons, hlast]; rfl)

/-- A maximal run of what follows some elements is one of the whole list, unless it continues
a run of those elements. -/
theorem EvenRuns.of_append {a l : List α} (h : EvenRuns x (a ++ l))
    (ha : a.getLast? ≠ some x) : EvenRuns x l := by
  intro before n after heq hbefore hafter
  refine h (a ++ before) n after (by rw [heq]; simp) ?_ hafter
  rw [List.getLast?_append]
  cases hlast : before.getLast? with
  | none => simpa using ha
  | some y =>
    rw [hlast] at hbefore
    simpa using hbefore

/-- Where all runs are even, an `x` at the front is followed by a second one. -/
theorem EvenRuns.exists_pair {l : List α} (h : EvenRuns x (x :: l)) : ∃ m, l = x :: m := by
  cases l with
  | nil => exact absurd (h [] 1 [] rfl (by simp) (by simp)) (by decide)
  | cons y m =>
    by_cases hy : y = x
    · exact ⟨m, by rw [hy]⟩
    · exact absurd (h [] 1 (y :: m) rfl (by simp) (by simpa using hy)) (by decide)

/-- Even runs fall into pairs. Recursion on the length: the list loses its first pair, or its
first element if that is not `x`. -/
theorem EvenRuns.paired [DecidableEq α] {l : List α} (h : EvenRuns x l) : Paired x l := by
  match l with
  | [] => exact .nil
  | y :: l =>
    by_cases hy : y = x
    · have hxy : x = y := hy.symm
      subst hxy
      obtain ⟨m, rfl⟩ := h.exists_pair
      have hm : EvenRuns x m := by
        intro before n after heq hbefore hafter
        match before with
        | [] =>
          -- With the pair in front of it the run is two longer, and of the same parity.
          have heven := h [] (n + 2) after (by simp [heq, List.replicate_succ]) (by simp) hafter
          exact (Nat.even_add.mp heven).mpr ⟨1, rfl⟩
        | z :: before =>
          refine h (x :: x :: z :: before) n after (by simp [heq]) ?_ hafter
          simpa using hbefore
      exact .pair (EvenRuns.paired hm)
    · exact .other hy (EvenRuns.of_append (a := [y]) h (by simpa using hy)).paired
termination_by l.length

/-- Pairs survive a function that takes no other element to the image of `x`. -/
theorem Paired.map {f : α → β} {l : List α} (hf : ∀ y ∈ l, f y = f x → y = x) (h : Paired x l) :
    Paired (f x) (l.map f) := by
  induction h with
  | nil => exact .nil
  | pair h ih => exact .pair (ih fun y hy => hf y (by simp [hy]))
  | other hne h ih =>
    refine .other (fun heq => hne (hf _ (by simp) heq)) (ih fun y hy => hf y (by simp [hy]))

/-- What holds no quote can be put in front. -/
theorem Paired.append {a l : List α} (ha : x ∉ a) (h : Paired x l) : Paired x (a ++ l) := by
  induction a with
  | nil => exact h
  | cons y a ih =>
    exact .other (fun heq => ha (heq ▸ List.mem_cons_self))
      (ih fun hmem => ha (List.mem_cons_of_mem _ hmem))

/-- What holds no quote can be taken away in front. -/
theorem Paired.of_append {a l : List α} (ha : x ∉ a) (h : Paired x (a ++ l)) : Paired x l := by
  induction a with
  | nil => exact h
  | cons y a ih =>
    have hsplit : ∀ m, Paired x (y :: m) → Paired x m := by
      intro m hm
      cases hm with
      | pair _ => exact absurd List.mem_cons_self ha
      | other _ hm => exact hm
    exact ih (fun hmem => ha (List.mem_cons_of_mem _ hmem)) (hsplit _ h)

end Runs

/-- Doubling gives exactly the texts whose quotes come in pairs. -/
theorem paired_iff_doubleQuotes {cs : List Char} :
    Paired '\'' cs ↔ ∃ ds, cs = doubleQuotes ds := by
  constructor
  · intro h
    -- Each pair of quotes comes from one quote.
    induction h with
    | nil => exact ⟨[], rfl⟩
    | pair h ih =>
      obtain ⟨ds, rfl⟩ := ih
      exact ⟨'\'' :: ds, rfl⟩
    | other hne h ih =>
      obtain ⟨ds, rfl⟩ := ih
      exact ⟨_ :: ds, (doubleQuotes_cons_of_ne hne ds).symm⟩
  · rintro ⟨ds, rfl⟩
    induction ds with
    | nil => exact .nil
    | cons d ds ih =>
      by_cases hd : d = '\''
      · subst hd
        exact .pair ih
      · rw [doubleQuotes_cons_of_ne hd]
        exact .other hd ih

end ODataQuery.Literal
