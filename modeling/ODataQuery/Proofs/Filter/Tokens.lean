import ODataQuery.Proofs.Filter.Grammar
import ODataQuery.Proofs.Literal.Quotes

/-!
# The smallest parts of a filter expression

Literals, words, operands and the right sides of comparisons end where the reader sees them end,
whatever text follows: each of them is determined by its text and the character after it.
-/

namespace ODataQuery.Expression

/-! ## Literals

Between quotes a quote is doubled, so a literal ends at the first quote that has no other one behind
it. What follows a literal decides where it ends, hence the condition on the first character behind
it. -/

/-- What is read as a text between quotes is this text with its quotes doubled. -/
theorem ReadsInside.eq_doubleQuotes {t v : List Char} (h : ReadsInside t v) :
    t = Literal.doubleQuotes v := by
  induction h with
  | nil => rfl
  | quote h ih => rw [ih, Literal.doubleQuotes]
  | other hne h ih => rw [ih, Literal.doubleQuotes_cons_of_ne hne]

/-- A text with its quotes doubled is read as the text. -/
theorem readsInside_doubleQuotes (v : List Char) : ReadsInside (Literal.doubleQuotes v) v := by
  induction v with
  | nil => exact .nil
  | cons c v ih =>
    by_cases hc : c = '\''
    · subst hc
      exact .quote ih
    · rw [Literal.doubleQuotes_cons_of_ne hc]
      exact .other hc ih

/-- A literal is read as the text whose quotes it doubles. -/
theorem readsLiteral_iff {t : List Char} {value : String} :
    ReadsLiteral t value ↔ t = Literal.quoted value.toList := by
  constructor
  · rintro ⟨h⟩
    rw [h.eq_doubleQuotes]
    rfl
  · rintro rfl
    exact .intro (readsInside_doubleQuotes _)

/-- A literal ends at its closing quote, if no further quote follows. -/
theorem ReadsLiteral.append_inj {t t' r s : List Char} {value value' : String}
    (h : ReadsLiteral t value) (h' : ReadsLiteral t' value') (hr : r.head? ≠ some '\'')
    (hs : s.head? ≠ some '\'') (heq : t ++ r = t' ++ s) : value = value' ∧ r = s := by
  rw [readsLiteral_iff.mp h, readsLiteral_iff.mp h'] at heq
  obtain ⟨hvalues, hrest⟩ := Literal.quoted_append_inj hr hs heq
  exact ⟨String.toList_injective hvalues, hrest⟩

/-- A literal begins with a quote. -/
theorem ReadsLiteral.exists_cons {t : List Char} {value : String} (h : ReadsLiteral t value) :
    ∃ t', t = '\'' :: t' := by
  cases h
  exact ⟨_, rfl⟩

/-- A list of literals ends at the bracket after it. Induction on the one list: each literal ends
where that of the other list does, and then either both lists go on with a comma or none does. -/
theorem ReadsLiterals.append_inj {ts ts' r s : List Char} {values values' : List String}
    (h : ReadsLiterals ts values) (h' : ReadsLiterals ts' values')
    (heq : ts ++ ']' :: r = ts' ++ ']' :: s) : values = values' ∧ r = s := by
  induction h generalizing ts' values' with
  | nil =>
    cases h' with
    | nil => exact ⟨rfl, (List.cons.inj heq).2⟩
    | single hl =>
      obtain ⟨_, rfl⟩ := hl.exists_cons
      exact absurd (List.cons.inj heq).1 (by decide)
    | cons hl _ _ =>
      obtain ⟨_, rfl⟩ := hl.exists_cons
      exact absurd (List.cons.inj heq).1 (by decide)
  | single hl =>
    cases h' with
    | nil =>
      obtain ⟨_, rfl⟩ := hl.exists_cons
      exact absurd (List.cons.inj heq).1 (by decide)
    | single hl' =>
      obtain ⟨rfl, hrest⟩ := hl.append_inj hl' (by simp) (by simp) heq
      exact ⟨rfl, (List.cons.inj hrest).2⟩
    | cons hl' _ _ =>
      -- After the first literal one list ends and the other goes on with a comma.
      rw [List.append_assoc] at heq
      obtain ⟨_, hrest⟩ := hl.append_inj hl' (by simp) (by simp) heq
      exact absurd (List.cons.inj hrest).1 (by decide)
  | cons hl hls hne ih =>
    rw [List.append_assoc] at heq
    cases h' with
    | nil =>
      obtain ⟨_, rfl⟩ := hl.exists_cons
      exact absurd (List.cons.inj heq).1 (by decide)
    | single hl' =>
      obtain ⟨_, hrest⟩ := hl.append_inj hl' (by simp) (by simp) heq
      exact absurd (List.cons.inj hrest).1 (by decide)
    | cons hl' hls' _ =>
      rw [List.append_assoc] at heq
      obtain ⟨rfl, hrest⟩ := hl.append_inj hl' (by simp) (by simp) heq
      obtain ⟨rfl, hrest⟩ := ih hls' (List.cons.inj hrest).2
      exact ⟨rfl, hrest⟩

/-! ## Words and operands

A word ends at the first delimiter. An operand is a word or `tolower` applied to one, so it is also
known where it ends, and the two kinds are told apart by a parenthesis. -/

/-- Two words in front of delimiters can be compared. -/
theorem IsWord.append_inj {w w' : String} {d e : Char} {r s : List Char} (hw : IsWord w)
    (hw' : IsWord w') (hd : d ∈ wordDelimiters) (he : e ∈ wordDelimiters)
    (h : w.toList ++ d :: r = w'.toList ++ e :: s) : w = w' ∧ d = e ∧ r = s :=
  hw.2.append_inj hw'.2 hd he h

/-- A word does not begin with a delimiter. -/
theorem IsWord.append_ne_cons {w : String} {d : Char} {r s : List Char} (hw : IsWord w)
    (hd : d ∈ wordDelimiters) : w.toList ++ r ≠ d :: s :=
  hw.2.append_ne_cons hw.1 hd

theorem Operand.lowered_append (name : String) (r : List Char) :
    (Operand.lowered name).text ++ r = "tolower".toList ++ '(' :: (name.toList ++ ')' :: r) := by
  show "tolower(".toList ++ name.toList ++ [')'] ++ r = _
  rw [show "tolower(".toList = "tolower".toList ++ ['('] from by decide]
  simp only [List.append_assoc, List.cons_append, List.nil_append]

theorem isWord_tolower : IsWord "tolower" := by decide

/-- The characters at which an operand ends: all delimiters but the opening parenthesis. -/
def operandEnds : List Char := [' ', ')', '\'', ',']

theorem operandEnds_subset : operandEnds ⊆ wordDelimiters := by decide

theorem ne_open_of_end {d : Char} (hd : d ∈ operandEnds) : d ≠ '(' := by
  rintro rfl
  exact absurd hd (by decide)

/-- An operand and the delimiter after it are determined by the two together, whatever follows. -/
theorem Operand.append_inj {o o' : Operand} {d e : Char} {r s : List Char} (ho : o.WellFormed)
    (ho' : o'.WellFormed) (hd : d ∈ operandEnds) (he : e ∈ operandEnds)
    (h : o.text ++ d :: r = o'.text ++ e :: s) : o = o' ∧ d = e ∧ r = s := by
  have hopen : '(' ∈ wordDelimiters := by decide
  have hclose : ')' ∈ wordDelimiters := by decide
  cases o with
  | path name =>
    cases o' with
    | path name' =>
      obtain ⟨rfl, hrest⟩ := IsWord.append_inj ho ho' (operandEnds_subset hd)
        (operandEnds_subset he) h
      exact ⟨rfl, hrest⟩
    | lowered name' =>
      -- A path ends where `tolower` has its parenthesis.
      rw [lowered_append] at h
      exact absurd (IsWord.append_inj ho isWord_tolower (operandEnds_subset hd) hopen h).2.1
        (ne_open_of_end hd)
  | lowered name =>
    rw [lowered_append] at h
    cases o' with
    | path name' =>
      exact absurd
        (IsWord.append_inj isWord_tolower ho' hopen (operandEnds_subset he) h).2.1.symm
        (ne_open_of_end he)
    | lowered name' =>
      rw [lowered_append] at h
      obtain ⟨_, _, hrest⟩ := IsWord.append_inj isWord_tolower isWord_tolower hopen hopen h
      obtain ⟨rfl, _, hrest⟩ := IsWord.append_inj ho ho' hclose hclose hrest
      obtain ⟨hde, hrs⟩ := List.cons.inj hrest
      exact ⟨rfl, hde, hrs⟩

/-- An operand does not begin with a delimiter. -/
theorem Operand.append_ne_cons {o : Operand} {d : Char} {r s : List Char} (ho : o.WellFormed)
    (hd : d ∈ wordDelimiters) : o.text ++ r ≠ d :: s := by
  cases o with
  | path name => exact IsWord.append_ne_cons ho hd
  | lowered name =>
    rw [lowered_append]
    exact isWord_tolower.append_ne_cons hd

/-- An operand that ends at `d` is not the beginning of an application: the operand of that would
have to end at a closing parenthesis. -/
theorem Operand.append_ne_application {o o' : Operand} {f : String} {d e : Char}
    {r s : List Char} (ho : o.WellFormed) (hf : IsWord f) (ho' : o'.WellFormed)
    (hd : d ∈ operandEnds) (he : e ∈ operandEnds) (hclose : e ≠ ')') :
    o.text ++ d :: r ≠ f.toList ++ '(' :: (o'.text ++ e :: s) := by
  intro h
  cases o with
  | path name =>
    exact ne_open_of_end hd
      (IsWord.append_inj ho hf (operandEnds_subset hd) (by decide) h).2.1
  | lowered name =>
    rw [lowered_append] at h
    obtain ⟨_, _, hrest⟩ := isWord_tolower.append_inj hf (by decide) (by decide) h
    -- What is lowered is a path that ends at the closing parenthesis.
    have hend := Operand.append_inj (o := .path name) ho ho' (by decide) he hrest
    exact hclose hend.2.1.symm

/-! ## The right side of a comparison

Values are literals or words, and a word has no quotes. -/

/-- The characters at which a comparison ends. -/
def comparisonEnds : List Char := [' ', ')']

/-- A value and the character at which its comparison ends are determined by the two together,
whatever follows. -/
theorem ReadsValue.append_inj {t t' r s : List Char} {value value' : Value} {d e : Char}
    (h : ReadsValue t value) (h' : ReadsValue t' value') (hd : d ∈ comparisonEnds)
    (he : e ∈ comparisonEnds) (heq : t ++ d :: r = t' ++ e :: s) :
    value = value' ∧ d = e ∧ r = s := by
  have hends : comparisonEnds ⊆ valueDelimiters := by decide
  have hquote : '\'' ∉ comparisonEnds := by decide
  have hhead : ∀ c ∈ comparisonEnds, ∀ u : List Char, (c :: u).head? ≠ some '\'' := by
    intro c hc u heq
    exact hquote (Option.some.inj heq ▸ hc)
  -- Either both are literals or both are words, since only a literal begins with a quote.
  cases h with
  | literal hl =>
    cases h' with
    | literal hl' =>
      obtain ⟨rfl, hrest⟩ := hl.append_inj hl' (hhead d hd r) (hhead e he s) heq
      obtain ⟨hde, hrs⟩ := List.cons.inj hrest
      exact ⟨rfl, hde, hrs⟩
    | word hw' =>
      obtain ⟨_, rfl⟩ := hl.exists_cons
      exact absurd heq.symm (hw'.2.append_ne_cons hw'.1 (by decide))
  | word hw =>
    cases h' with
    | literal hl' =>
      obtain ⟨_, rfl⟩ := hl'.exists_cons
      exact absurd heq (hw.2.append_ne_cons hw.1 (by decide))
    | word hw' =>
      obtain ⟨rfl, hrest⟩ := hw.2.append_inj hw'.2 (hends hd) (hends he) heq
      exact ⟨rfl, hrest⟩

end ODataQuery.Expression
