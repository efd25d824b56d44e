import ODataQuery.Proofs.Json.Grammar

/-!
# Numbers as they are read

A phase of the scanner knows which part of a number comes next, and `NumberPhase.Tail` says what
the grammar lets follow it. One character leads from phase to phase exactly where the grammar goes
on (`NumberPhase.tail_cons`), so a number is read as it was written if what follows ends it
(`tokens_numberLexeme`), and nothing else is (`exists_numberLexeme`).
-/

namespace ODataQuery.Json

/-! ## What may follow a phase

The grammar describes a number as a whole. The scanner sees one character at a time, so each part of
the grammar is unfolded here at its first character. -/

/-- Digits, and then what the predicate says. -/
def DigitsThen (p : List Char → Prop) (cs : List Char) : Prop :=
  ∃ ds rest, AreDigits ds ∧ p rest ∧ cs = ds ++ rest

/-- What may follow a leading zero. -/
def FollowsZero (cs : List Char) : Prop :=
  ∃ fraction exponent, IsFraction fraction ∧ IsExponent exponent ∧ cs = fraction ++ exponent

/-- What may follow a point. -/
def FollowsPoint (cs : List Char) : Prop :=
  ∃ d rest, cs = d :: rest ∧ d.isDigit = true ∧ DigitsThen IsExponent rest

/-- What may follow a phase up to the end of the number. -/
def NumberPhase.Tail : NumberPhase → List Char → Prop
  | .minus => IsUnsignedNumber
  | .zero => FollowsZero
  | .whole => DigitsThen FollowsZero
  | .point => FollowsPoint
  | .fraction => DigitsThen IsExponent
  | .mark => IsPower
  | .sign => fun cs => cs ≠ [] ∧ AreDigits cs
  | .exponent => AreDigits

theorem areDigits_nil : AreDigits [] := List.forall_mem_nil _

theorem areDigits_cons {c : Char} {cs : List Char} :
    AreDigits (c :: cs) ↔ c.isDigit = true ∧ AreDigits cs := List.forall_mem_cons

theorem digitsThen_nil {p : List Char → Prop} : DigitsThen p [] ↔ p [] := by
  constructor
  · rintro ⟨ds, rest, -, hp, heq⟩
    obtain ⟨-, rfl⟩ := List.append_eq_nil_iff.mp heq.symm
    exact hp
  · exact fun hp => ⟨[], [], areDigits_nil, hp, rfl⟩

theorem digitsThen_cons {p : List Char → Prop} {c : Char} {cs : List Char} :
    DigitsThen p (c :: cs) ↔ c.isDigit = true ∧ DigitsThen p cs ∨ p (c :: cs) := by
  constructor
  · rintro ⟨ds, rest, hds, hp, heq⟩
    cases ds with
    | nil =>
      obtain rfl := heq
      exact .inr hp
    | cons d ds =>
      obtain ⟨rfl, rfl⟩ := List.cons.inj heq
      obtain ⟨hd, hds⟩ := areDigits_cons.mp hds
      exact .inl ⟨hd, ds, rest, hds, hp, rfl⟩
  · rintro (⟨hc, ds, rest, hds, hp, rfl⟩ | hp)
    · exact ⟨c :: ds, rest, areDigits_cons.mpr ⟨hc, hds⟩, hp, rfl⟩
    · exact ⟨[], c :: cs, areDigits_nil, hp, rfl⟩

theorem isPower_cons {c : Char} {cs : List Char} :
    IsPower (c :: cs) ↔
      c.isDigit = true ∧ AreDigits cs ∨ (c = '+' ∨ c = '-') ∧ cs ≠ [] ∧ AreDigits cs := by
  constructor
  · intro h
    cases h with
    | unsigned _ hds => exact .inl (areDigits_cons.mp hds)
    | signed hsign hne hds => exact .inr ⟨hsign, hne, hds⟩
  · rintro (hds | ⟨hsign, hne, hds⟩)
    · exact .unsigned (List.cons_ne_nil _ _) (areDigits_cons.mpr hds)
    · exact .signed hsign hne hds

theorem isExponent_cons {c : Char} {cs : List Char} :
    IsExponent (c :: cs) ↔ (c = 'e' ∨ c = 'E') ∧ IsPower cs := by
  constructor
  · intro h
    cases h with
    | power hmark h => exact ⟨hmark, h⟩
  · rintro ⟨hmark, h⟩
    exact .power hmark h

/-- A leading zero is followed by a point or by the mark of an exponent. -/
theorem followsZero_cons {c : Char} {cs : List Char} :
    FollowsZero (c :: cs) ↔
      c = '.' ∧ FollowsPoint cs ∨ (c = 'e' ∨ c = 'E') ∧ IsPower cs := by
  constructor
  · rintro ⟨fraction, exponent, hfraction, hexponent, heq⟩
    cases hfraction with
    | none =>
      obtain rfl := heq
      exact .inr (isExponent_cons.mp hexponent)
    | @digits ds hne hds =>
      obtain ⟨rfl, rfl⟩ := List.cons.inj heq
      cases ds with
      | nil => exact absurd rfl hne
      | cons d ds =>
        obtain ⟨hd, hds⟩ := areDigits_cons.mp hds
        exact .inl ⟨rfl, d, ds ++ exponent, rfl, hd, ds, exponent, hds, hexponent, rfl⟩
  · rintro (⟨rfl, d, _, rfl, hd, ds, exponent, hds, hexponent, rfl⟩ | hexponent)
    · have hdigits : AreDigits (d :: ds) := areDigits_cons.mpr ⟨hd, hds⟩
      exact ⟨_, exponent, .digits (List.cons_ne_nil _ _) hdigits, hexponent, rfl⟩
    · exact ⟨[], c :: cs, .none, isExponent_cons.mpr hexponent, rfl⟩

theorem followsPoint_cons {c : Char} {cs : List Char} :
    FollowsPoint (c :: cs) ↔ c.isDigit = true ∧ DigitsThen IsExponent cs := by
  constructor
  · rintro ⟨d, rest, heq, hd, hrest⟩
    obtain ⟨rfl, rfl⟩ := List.cons.inj heq
    exact ⟨hd, hrest⟩
  · exact fun ⟨hd, hrest⟩ => ⟨c, cs, rfl, hd, hrest⟩

/-- A number begins with a zero, or with another digit behind which there may be more. -/
theorem isUnsignedNumber_cons {c : Char} {cs : List Char} :
    IsUnsignedNumber (c :: cs) ↔
      c = '0' ∧ FollowsZero cs ∨ c.isDigit = true ∧ c ≠ '0' ∧ DigitsThen FollowsZero cs := by
  constructor
  · intro h
    generalize htext : c :: cs = text at h
    obtain ⟨hwhole, hfraction, hexponent⟩ := h
    -- The first character belongs to the whole part.
    cases hwhole with
    | zero =>
      obtain ⟨rfl, rfl⟩ := List.cons.inj htext
      exact .inl ⟨rfl, _, _, hfraction, hexponent, rfl⟩
    | digits hd hzero hds =>
      obtain ⟨rfl, rfl⟩ := List.cons.inj htext
      exact .inr ⟨hd, hzero, _, _, hds, ⟨_, _, hfraction, hexponent, rfl⟩, rfl⟩
  · rintro (⟨rfl, fraction, exponent, hfraction, hexponent, rfl⟩ |
      ⟨hd, hzero, ds, _, hds, ⟨fraction, exponent, hfraction, hexponent, rfl⟩, rfl⟩)
    · exact .intro .zero hfraction hexponent
    · exact .intro (.digits hd hzero hds) hfraction hexponent

theorem isExponent_nil : IsExponent [] := .none

theorem followsZero_nil : FollowsZero [] := ⟨[], [], .none, .none, rfl⟩

theorem not_isPower_nil : ¬ IsPower [] := by
  rintro (⟨hne, -⟩)
  exact hne rfl

theorem not_isUnsignedNumber_nil : ¬ IsUnsignedNumber [] := by
  intro h
  generalize htext : [] = text at h
  obtain ⟨hwhole, -, -⟩ := h
  cases hwhole <;> exact absurd htext (by simp)

/-- The characters that can stand right after a value. -/
def valueEnds : List Char := [',', ']', '\x7d', ' ', '\n', '\t', '\r']

/-- What follows ends a number. -/
def EndsNumber (rest : List Char) : Prop := ∀ c ∈ rest.head?, c ∈ valueEnds

namespace NumberPhase

/-- A number may end where nothing has to follow. -/
theorem tail_nil {phase : NumberPhase} : phase.Tail [] ↔ phase.endsBefore ' ' = true := by
  cases phase with
  | minus => simp [Tail, endsBefore, not_isUnsignedNumber_nil]
  | zero => simp [Tail, endsBefore, followsZero_nil]
  | whole => simp [Tail, endsBefore, digitsThen_nil, followsZero_nil]
  | point => simp [Tail, endsBefore, FollowsPoint]
  | fraction => simp [Tail, endsBefore, digitsThen_nil, isExponent_nil]
  | mark => simp [Tail, endsBefore, not_isPower_nil]
  | sign => simp [Tail, endsBefore]
  | exponent => simp [Tail, endsBefore, areDigits_nil]

theorem ne_of_isDigit {c d : Char} (hc : c.isDigit = true) (hd : d.isDigit = false) : c ≠ d := by
  rintro rfl
  rw [hc] at hd
  exact absurd hd (by decide)

/-- A character goes on with a number where the machine has a step for it. -/
theorem tail_cons {phase : NumberPhase} {c : Char} {cs : List Char} :
    phase.Tail (c :: cs) ↔ ∃ phase', phase.next? c = some phase' ∧ phase'.Tail cs := by
  have hdigit : c.isDigit = true → c ≠ '.' ∧ c ≠ 'e' ∧ c ≠ 'E' ∧ c ≠ '+' ∧ c ≠ '-' := fun hc =>
    ⟨ne_of_isDigit hc (by decide), ne_of_isDigit hc (by decide), ne_of_isDigit hc (by decide),
      ne_of_isDigit hc (by decide), ne_of_isDigit hc (by decide)⟩
  -- The other characters have a meaning in few phases, so digits are dealt with first.
  by_cases hc : c.isDigit = true
  · obtain ⟨hpoint, he, hE, hplus, hminus⟩ := hdigit hc
    cases phase with
    | minus =>
      by_cases hzero : c = '0'
      · simp [Tail, next?, isUnsignedNumber_cons, hzero]
      · simp [Tail, next?, isUnsignedNumber_cons, hzero, hc]
    | zero => simp [Tail, next?, followsZero_cons, hc, hpoint, he, hE]
    | whole => simp [Tail, next?, digitsThen_cons, followsZero_cons, hc, hpoint, he, hE]
    | point => simp [Tail, next?, followsPoint_cons, hc]
    | fraction => simp [Tail, next?, digitsThen_cons, isExponent_cons, hc, he, hE]
    | mark => simp [Tail, next?, isPower_cons, hc, hplus, hminus]
    | sign => simp [Tail, next?, areDigits_cons, hc]
    | exponent => simp [Tail, next?, areDigits_cons, hc]
  · cases phase with
    | minus =>
      have hzero : c ≠ '0' := by
        rintro rfl
        exact hc rfl
      simp [Tail, next?, isUnsignedNumber_cons, hzero, hc]
    | zero | whole =>
      by_cases hpoint : c = '.'
      · simp [Tail, next?, digitsThen_cons, followsZero_cons, hpoint]
      · by_cases hmark : c = 'e' ∨ c = 'E'
        · simp [Tail, next?, digitsThen_cons, followsZero_cons, hc, hpoint, hmark]
        · simp [Tail, next?, digitsThen_cons, followsZero_cons, hc, hpoint, hmark]
    | point => simp [Tail, next?, followsPoint_cons, hc]
    | fraction =>
      by_cases hmark : c = 'e' ∨ c = 'E'
      · simp [Tail, next?, digitsThen_cons, isExponent_cons, hc, hmark]
      · simp [Tail, next?, digitsThen_cons, isExponent_cons, hc, hmark]
    | mark =>
      by_cases hsign : c = '+' ∨ c = '-'
      · simp [Tail, next?, isPower_cons, hc, hsign]
      · simp [Tail, next?, isPower_cons, hc, hsign]
    | sign => simp [Tail, next?, areDigits_cons, hc]
    | exponent => simp [Tail, next?, areDigits_cons, hc]

/-- A number that may end somewhere ends before what may stand after it. -/
theorem next?_of_mem_valueEnds {phase : NumberPhase} (h : phase.endsBefore ' ' = true) {c : Char}
    (hc : c ∈ valueEnds) : phase.next? c = none ∧ phase.endsBefore c = true := by
  simp only [valueEnds, List.mem_cons, List.not_mem_nil, or_false] at hc
  revert h
  rcases hc with rfl | rfl | rfl | rfl | rfl | rfl | rfl <;> cases phase <;> decide

/-- A phase that ends before some character ends before a blank. -/
theorem endsBefore_blank {phase : NumberPhase} {c : Char} (h : phase.endsBefore c = true) :
    phase.endsBefore ' ' = true := by
  cases phase with
  | zero => rfl
  | whole | fraction | exponent => rfl
  | minus | point | mark | sign => exact absurd h (by simp [endsBefore])

end NumberPhase

/-! ## Numbers are read up to their end

What ends a number is a blank, a comma, a closing bracket or the end of the text. A number in front
of one of these is read as it is written; and in a text without stray tokens, what is read as a
number is one. -/

/-- The rest of a number is read to its end. Induction on the rest, one phase after the other. -/
theorem tokens_number {phase : NumberPhase} {cs rest : List Char} (h : phase.Tail cs)
    (hrest : EndsNumber rest) (seen : List Char) :
    (Scan.number phase seen).tokens (cs ++ rest)
      = .number (String.ofList (seen.reverse ++ cs)) :: Scan.gap.tokens rest := by
  induction cs generalizing phase seen with
  | nil =>
    -- The number is at an end, and what follows ends it.
    have hends := NumberPhase.tail_nil.mp h
    rw [List.nil_append, List.append_nil]
    cases rest with
    | nil => rw [Scan.tokens, Scan.finish, if_pos hends, Scan.tokens, Scan.finish]
    | cons c rest =>
      obtain ⟨hnext, hends⟩ := NumberPhase.next?_of_mem_valueEnds hends (hrest c rfl)
      have hstep : (Scan.number phase seen).step c
          = (.number (String.ofList seen.reverse) :: (Scan.start c).1, (Scan.start c).2) := by
        simp only [Scan.step, hnext, hends, if_true]
      rw [Scan.tokens, hstep]
      rfl
  | cons c cs ih =>
    obtain ⟨phase', hnext, htail⟩ := NumberPhase.tail_cons.mp h
    have hstep : (Scan.number phase seen).step c = ([], .number phase' (c :: seen)) := by
      simp only [Scan.step, hnext]
    rw [List.cons_append, Scan.tokens, hstep, List.nil_append, ih htail]
    simp

/-- What the scanner takes for a number is the rest of one. -/
theorem exists_number_of_tokens {phase : NumberPhase} {seen cs : List Char}
    (h : Token.stray ∉ (Scan.number phase seen).tokens cs) :
    ∃ more rest, cs = more ++ rest ∧ phase.Tail more ∧
      (Scan.number phase seen).tokens cs
        = .number (String.ofList (seen.reverse ++ more)) :: Scan.gap.tokens rest := by
  induction cs generalizing phase seen with
  | nil =>
    by_cases hends : phase.endsBefore ' ' = true
    · refine ⟨[], [], rfl, NumberPhase.tail_nil.mpr hends, ?_⟩
      rw [Scan.tokens, Scan.finish, if_pos hends, List.append_nil]
      rfl
    · rw [Scan.tokens, Scan.finish, if_neg hends] at h
      exact absurd List.mem_cons_self h
  | cons c cs ih =>
    -- The character belongs to the number, ends it, or makes the scanner stray.
    cases hnext : phase.next? c with
    | some phase' =>
      have hstep : (Scan.number phase seen).step c = ([], .number phase' (c :: seen)) := by
        simp only [Scan.step, hnext]
      rw [Scan.tokens, hstep] at h ⊢
      obtain ⟨more, rest, rfl, htail, htokens⟩ := ih h
      refine ⟨c :: more, rest, rfl, NumberPhase.tail_cons.mpr ⟨phase', hnext, htail⟩, ?_⟩
      rw [List.nil_append, htokens]
      simp
    | none =>
      by_cases hends : phase.endsBefore c = true
      · have hstep : (Scan.number phase seen).step c
            = (.number (String.ofList seen.reverse) :: (Scan.start c).1, (Scan.start c).2) := by
          simp only [Scan.step, hnext, hends, if_true]
        have htail := NumberPhase.tail_nil.mpr (NumberPhase.endsBefore_blank hends)
        refine ⟨[], c :: cs, rfl, htail, ?_⟩
        rw [Scan.tokens, hstep, List.append_nil]
        rfl
      · have hstep : (Scan.number phase seen).step c = ([.stray], .stuck) := by
          simp only [Scan.step, hnext, hends, if_false, Bool.false_eq_true]
        rw [Scan.tokens, hstep] at h
        exact absurd List.mem_cons_self h

/-! ## The first character

A number begins with a minus sign or a digit, and the first character decides in which phase the
scanner starts. -/

/-- A digit other than zero begins the whole part. -/
theorem start_of_isDigit {d : Char} (hd : d.isDigit = true) (hzero : d ≠ '0') :
    Scan.start d = ([], .number .whole [d]) := by
  unfold Scan.start
  split
  case h_16 => exact absurd rfl hzero
  case h_17 => rw [if_pos hd]
  all_goals exact absurd hd (by decide)

/-- The first character decides in which phase a number begins. -/
theorem phase_of_start {c : Char} {phase : NumberPhase} {seen : List Char}
    (h : Scan.start c = ([], .number phase seen)) :
    c = '-' ∧ phase = .minus ∨ c = '0' ∧ phase = .zero ∨
      c.isDigit = true ∧ c ≠ '0' ∧ phase = .whole := by
  have hphase : ∀ {first : NumberPhase},
      (([] : List Token), Scan.number first [c]) = ([], .number phase seen) → phase = first := by
    intro first h
    injection h with _ h
    injection h with h
    exact h.symm
  -- Only three of the cases of the scanner begin a number.
  unfold Scan.start at h
  split at h
  case h_15 => exact .inl ⟨rfl, hphase h⟩
  case h_16 => exact .inr (.inl ⟨rfl, hphase h⟩)
  case h_17 hzero =>
    split at h
    · next hd => exact .inr (.inr ⟨hd, hzero, hphase h⟩)
    · exact absurd h (by simp)
  all_goals exact absurd h (by simp)

/-- A number begins with a character that starts one, and its phase says what follows. -/
theorem isNumber_cons {c : Char} {cs : List Char} :
    IsNumber (c :: cs) ↔ ∃ phase, Scan.start c = ([], .number phase [c]) ∧ phase.Tail cs := by
  constructor
  · intro h
    cases h with
    | positive h =>
      rcases isUnsignedNumber_cons.mp h with ⟨rfl, htail⟩ | ⟨hd, hzero, htail⟩
      · exact ⟨.zero, rfl, htail⟩
      · exact ⟨.whole, start_of_isDigit hd hzero, htail⟩
    | negative h => exact ⟨.minus, rfl, h⟩
  · rintro ⟨phase, hstart, htail⟩
    rcases phase_of_start hstart with ⟨rfl, rfl⟩ | ⟨rfl, rfl⟩ | ⟨hd, hzero, rfl⟩
    · exact .negative htail
    · exact .positive (isUnsignedNumber_cons.mpr (.inl ⟨rfl, htail⟩))
    · exact .positive (isUnsignedNumber_cons.mpr (.inr ⟨hd, hzero, htail⟩))

theorem not_isNumber_nil : ¬ IsNumber [] := by
  intro h
  cases h with
  | positive h => exact not_isUnsignedNumber_nil h

/-- A number is read as it was written, if what follows ends it. -/
theorem tokens_numberLexeme {lexeme rest : List Char} (h : IsNumber lexeme)
    (hrest : EndsNumber rest) :
    Scan.gap.tokens (lexeme ++ rest)
      = .number (String.ofList lexeme) :: Scan.gap.tokens rest := by
  cases lexeme with
  | nil => exact absurd h not_isNumber_nil
  | cons c cs =>
    obtain ⟨phase, hstart, htail⟩ := isNumber_cons.mp h
    rw [List.cons_append, Scan.tokens, Scan.step, hstart, List.nil_append,
      tokens_number htail hrest]
    rfl

/-- Where a number begins, one is read. -/
theorem exists_numberLexeme {c : Char} {cs : List Char} {phase : NumberPhase}
    (hstart : Scan.start c = ([], .number phase [c]))
    (h : Token.stray ∉ Scan.gap.tokens (c :: cs)) :
    ∃ lexeme rest, c :: cs = lexeme ++ rest ∧ IsNumber lexeme ∧
      Scan.gap.tokens (c :: cs) = .number (String.ofList lexeme) :: Scan.gap.tokens rest := by
  rw [Scan.tokens, Scan.step, hstart] at h ⊢
  obtain ⟨more, rest, rfl, htail, htokens⟩ := exists_number_of_tokens h
  exact ⟨c :: more, rest, rfl, isNumber_cons.mpr ⟨phase, hstart, htail⟩, htokens⟩

end ODataQuery.Json
