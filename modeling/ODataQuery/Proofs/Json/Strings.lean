import ODataQuery.Proofs.Json.Grammar
import ODataQuery.Proofs.Text.Percent

/-!
# Strings as they are read

The scanner reads the inside of a string unit by unit, exactly where the grammar has units
(`tokens_units`, `exists_units_of_tokens`), and units stand for a text exactly where the grammar
spells one (`spellsText_iff`). So a string is read as its text, whatever follows
(`tokens_stringLexeme`), and nothing else is (`exists_stringLexeme`).
-/

namespace ODataQuery.Json

/-! ## Digits and escapes

What the functions of the scanner accept is what the grammar says about one character. -/

/-- Hexadecimal digits have the values that the grammar gives them. -/
theorem hexValue?_eq_some_iff {c : Char} {v : Nat} :
    Percent.hexValue? c = some v ↔ HasHexValue c v := by
  constructor
  · intro h
    -- nothing above the letter f has a value, so the characters to look at are few
    have htable : ∀ n < 103, ∀ w ∈ Percent.hexValue? (Char.ofNat n),
        HasHexValue (Char.ofNat n) w := by
      unfold HasHexValue
      decide +kernel
    have hcode : c.toNat < 103 := by
      have hcodes : '9'.toNat < 103 ∧ 'F'.toNat < 103 ∧ 'f'.toNat < 103 := by decide
      have hle : ∀ d : Char, c ≤ d → c.toNat ≤ d.toNat := fun _ hc => hc
      unfold Percent.hexValue? at h
      split at h
      · next hdigit => exact Nat.lt_of_le_of_lt (hle _ hdigit.2) hcodes.1
      · split at h
        · next hupper => exact Nat.lt_of_le_of_lt (hle _ hupper.2) hcodes.2.1
        · split at h
          · next hlower => exact Nat.lt_of_le_of_lt (hle _ hlower.2) hcodes.2.2
          · exact absurd h (by simp)
    have hvalue := htable c.toNat hcode v
    rw [Char.ofNat_toNat] at hvalue
    exact hvalue h
  · have hread : ∀ digits : List Char,
        digits.map Percent.hexValue? = (List.range 16).map some → digits[v]? = some c →
          Percent.hexValue? c = some v := by
      intro digits hdigits hdigit
      have hvalue := congrArg (·[v]?) hdigits
      simp only [List.getElem?_map, hdigit, Option.map_some] at hvalue
      obtain ⟨w, hw, hsame⟩ := Option.map_eq_some_iff.mp hvalue.symm
      obtain ⟨_, hrange⟩ := List.getElem?_eq_some_iff.mp hw
      rw [← hsame, ← hrange, List.getElem_range]
    rintro (h | h)
    · exact hread _ (by decide +kernel) h
    · exact hread _ (by decide +kernel) h

/-- Short escapes are those in the table. -/
theorem escaped?_eq_some_iff {letter : Char} {unit : Nat} :
    escaped? letter = some unit ↔ ∃ c, (letter, c) ∈ shortEscapes ∧ unit = c.toNat := by
  constructor
  · intro h
    refine ⟨Char.ofNat unit, ?_⟩
    unfold escaped? at h
    split at h
    case h_9 => exact absurd h (by simp)
    all_goals
      obtain rfl := Option.some.inj h
      decide
  · rintro ⟨c, hc, rfl⟩
    have htable : ∀ p ∈ shortEscapes, escaped? p.1 = some p.2.toNat := by decide
    exact htable _ hc

/-- An escape with four digits is a 16-bit unit. -/
theorem SpellsEscape.lt {unit : Nat} {spelling : List Char} (h : SpellsEscape unit spelling) :
    unit < 0x10000 := by
  have hdigit : ∀ {c : Char} {v : Nat}, HasHexValue c v → v < 16 := by
    rintro c v (h | h) <;> exact (List.getElem?_eq_some_iff.mp h).1
  obtain ⟨ha, hb, hc, hd⟩ := h
  have := hdigit ha
  have := hdigit hb
  have := hdigit hc
  have := hdigit hd
  omega

/-! ## Units are read one by one

A string is a sequence of 16-bit units to the scanner, and only at its end it becomes a text. So
this part knows nothing of surrogate pairs. -/

/-- The scanner takes a unit, however it is written. -/
theorem tokens_unit {unit : Nat} {spelling : List Char} (h : SpellsUnit unit spelling)
    (units : List Nat) (rest : List Char) :
    (Scan.text .plain units).tokens (spelling ++ rest)
      = (Scan.text .plain (unit :: units)).tokens rest := by
  -- A unit is written as it is, with a short escape or with its digits.
  cases h with
  | @verbatim c h =>
    obtain ⟨hquote, hbackslash, hcontrol⟩ := h
    have hstep : Scan.stepText .plain units c = ([], .text .plain (c.toNat :: units)) := by
      rw [Scan.stepText, if_neg hquote, if_neg hbackslash, if_neg (by omega)]
    rw [List.cons_append, Scan.tokens, Scan.step, hstep]
    rfl
  | @short c letter h =>
    have hletters : ∀ p ∈ shortEscapes, p.1 ≠ 'u' := by decide
    have hletter : letter ≠ 'u' := hletters _ h
    have hunit := escaped?_eq_some_iff.mpr ⟨c, h, rfl⟩
    have hbackslash : Scan.stepText .plain units '\\' = ([], .text .escape units) := rfl
    have hstep : Scan.stepText .escape units letter
        = ([], .text .plain (c.toNat :: units)) := by
      rw [Scan.stepText, if_neg hletter, hunit]
    simp only [List.cons_append, Scan.tokens, Scan.step, hbackslash, hstep, List.nil_append]
  | escape h =>
    obtain ⟨ha, hb, hc, hd⟩ := h
    rw [← hexValue?_eq_some_iff] at ha hb hc hd
    simp [Scan.tokens, Scan.step, Scan.stepText, ha, hb, hc, hd]

/-- The scanner takes units one after the other. -/
theorem tokens_units {units : List Nat} {inside : List Char} (h : SpellsUnits units inside)
    (before : List Nat) (rest : List Char) :
    (Scan.text .plain before).tokens (inside ++ rest)
      = (Scan.text .plain (units.reverse ++ before)).tokens rest := by
  induction h generalizing before with
  | nil => rfl
  | cons hunit _ ih =>
    rw [List.append_assoc, tokens_unit hunit, ih]
    simp

/-- A string is read as what its units stand for. -/
theorem tokens_quoted {units : List Nat} {inside : List Char} (h : SpellsUnits units inside)
    (rest : List Char) :
    Scan.gap.tokens ('"' :: (inside ++ '"' :: rest))
      = .string ((charsOfUnits units).map String.ofList) :: Scan.gap.tokens rest := by
  have hopen : ∀ rest, Scan.gap.tokens ('"' :: rest) = (Scan.text .plain []).tokens rest :=
    fun _ => rfl
  have hclose : ∀ units rest, (Scan.text .plain units).tokens ('"' :: rest)
      = stringToken units :: Scan.gap.tokens rest := fun _ _ => rfl
  rw [hopen, tokens_units h, hclose, stringToken, List.append_nil, List.reverse_reverse]

/-- A digit of an escape is the next character, or the text stops being JSON. -/
theorem exists_hexDigit {count value : Nat} {units : List Nat} {cs : List Char}
    (h : Token.stray ∉ (Scan.text (.hex count value) units).tokens cs) :
    ∃ d v rest, cs = d :: rest ∧ HasHexValue d v ∧
      (Scan.text (.hex count value) units).tokens cs
        = (if count = 3 then Scan.text .plain ((16 * value + v) :: units)
          else Scan.text (.hex (count + 1) (16 * value + v)) units).tokens rest := by
  cases cs with
  | nil => exact absurd List.mem_cons_self h
  | cons d rest =>
    -- Anything but a digit makes the scanner stray.
    cases hd : Percent.hexValue? d with
    | none =>
      have hstep : Scan.stepText (.hex count value) units d = ([.stray], .stuck) := by
        rw [Scan.stepText, hd]
      rw [Scan.tokens, Scan.step, hstep] at h
      exact absurd List.mem_cons_self h
    | some v =>
      refine ⟨d, v, rest, rfl, hexValue?_eq_some_iff.mp hd, ?_⟩
      rw [Scan.tokens, Scan.step, Scan.stepText, hd]
      dsimp only
      split <;> rfl

/-- Behind the letter of a long escape there are four digits. -/
theorem exists_escape_of_tokens {units : List Nat} {cs : List Char}
    (h : Token.stray ∉ (Scan.text (.hex 0 0) units).tokens cs) :
    ∃ unit spelling rest, '\\' :: 'u' :: cs = spelling ++ rest ∧ SpellsEscape unit spelling := by
  obtain ⟨a, i, cs₁, rfl, ha, hstep₁⟩ := exists_hexDigit h
  rw [hstep₁, if_neg (by decide)] at h
  obtain ⟨b, j, cs₂, rfl, hb, hstep₂⟩ := exists_hexDigit h
  rw [hstep₂, if_neg (by decide)] at h
  obtain ⟨c, k, cs₃, rfl, hc, hstep₃⟩ := exists_hexDigit h
  rw [hstep₃, if_neg (by decide)] at h
  obtain ⟨d, l, rest, rfl, hd, -⟩ := exists_hexDigit h
  exact ⟨_, _, rest, rfl, .intro ha hb hc hd⟩

/-- Where the text goes on being JSON, a string ends or has a further unit. -/
theorem exists_unit_of_tokens {units : List Nat} {cs : List Char}
    (h : Token.stray ∉ (Scan.text .plain units).tokens cs) :
    (∃ rest, cs = '"' :: rest) ∨
      ∃ unit spelling rest, cs = spelling ++ rest ∧ SpellsUnit unit spelling := by
  match cs with
  | [] => exact absurd List.mem_cons_self h
  | c :: cs =>
    by_cases hquote : c = '"'
    · exact .inl ⟨cs, by rw [hquote]⟩
    refine .inr ?_
    by_cases hbackslash : c = '\\'
    · subst hbackslash
      replace h : Token.stray ∉ (Scan.text .escape units).tokens cs := h
      match cs with
      | [] => exact absurd List.mem_cons_self h
      | letter :: cs =>
        by_cases hletter : letter = 'u'
        · subst hletter
          obtain ⟨unit, spelling, rest, hcs, hunit⟩ := exists_escape_of_tokens h
          exact ⟨unit, spelling, rest, hcs, .escape hunit⟩
        cases hunit : escaped? letter with
        | none =>
          have hstep : Scan.stepText .escape units letter = ([.stray], .stuck) := by
            rw [Scan.stepText, if_neg hletter, hunit]
          rw [Scan.tokens, Scan.step, hstep] at h
          exact absurd List.mem_cons_self h
        | some unit =>
          obtain ⟨c, hc, rfl⟩ := escaped?_eq_some_iff.mp hunit
          exact ⟨c.toNat, ['\\', letter], cs, rfl, .short hc⟩
    -- Control characters have to be escaped.
    by_cases hcontrol : c.toNat < 0x20
    · have hstep : Scan.stepText .plain units c = ([.stray], .stuck) := by
        rw [Scan.stepText, if_neg hquote, if_neg hbackslash, if_pos hcontrol]
      rw [Scan.tokens, Scan.step, hstep] at h
      exact absurd List.mem_cons_self h
    · exact ⟨c.toNat, [c], cs, rfl, .verbatim ⟨hquote, hbackslash, by omega⟩⟩

theorem SpellsUnit.length_pos {unit : Nat} {spelling : List Char} (h : SpellsUnit unit spelling) :
    0 < spelling.length := by
  cases h with
  | verbatim _ | short _ => exact Nat.succ_pos _
  | escape h =>
    cases h
    exact Nat.succ_pos _

/-- What the scanner takes up to the closing quote is the inside of a string. Induction on the
length: a unit has one character, two or six. -/
theorem exists_units_of_tokens (before : List Nat) (cs : List Char)
    (h : Token.stray ∉ (Scan.text .plain before).tokens cs) :
    ∃ units inside rest, cs = inside ++ '"' :: rest ∧ SpellsUnits units inside := by
  rcases exists_unit_of_tokens h with ⟨rest, rfl⟩ | ⟨unit, spelling, rest, hcs, hunit⟩
  · exact ⟨[], [], rest, rfl, .nil⟩
  · rw [hcs, tokens_unit hunit] at h
    have hlength : rest.length < cs.length := by
      rw [hcs, List.length_append]
      exact Nat.lt_add_of_pos_left hunit.length_pos
    obtain ⟨units, inside, rest, rfl, hunits⟩ := exists_units_of_tokens _ rest h
    exact ⟨unit :: units, spelling ++ inside, rest, by simp [hcs], .cons hunit hunits⟩
termination_by cs.length

/-! ## Units stand for texts

A unit that is no surrogate stands for its character. A high surrogate stands for a character
together with the low one behind it, and otherwise for nothing. -/

/-- A unit that is a character stands for it. -/
theorem charsOfUnits_cons_char (c : Char) (units : List Nat) :
    charsOfUnits (c.toNat :: units) = (charsOfUnits units).map (c :: ·) := by
  have hvalid := c.valid
  simp only [UInt32.isValidChar, Nat.isValidChar] at hvalid
  have hhigh : isHighSurrogate c.toNat = false := by
    simp only [isHighSurrogate, Char.toNat, Bool.and_eq_false_iff, decide_eq_false_iff_not]
    omega
  have hlow : isLowSurrogate c.toNat = false := by
    simp only [isLowSurrogate, Char.toNat, Bool.and_eq_false_iff, decide_eq_false_iff_not]
    omega
  cases units with
  | nil => simp [charsOfUnits, hhigh, hlow, Char.ofNat_toNat]
  | cons next units => simp [charsOfUnits, hhigh, hlow, Char.ofNat_toNat]

/-- A pair of code units stands for one character. -/
theorem charsOfUnits_cons_pair {high low : Nat} {c : Char} (hhigh : 0xD800 ≤ high ∧ high ≤ 0xDBFF)
    (hlow : 0xDC00 ≤ low ∧ low ≤ 0xDFFF)
    (hc : c.toNat = 0x10000 + (high - 0xD800) * 0x400 + (low - 0xDC00)) (units : List Nat) :
    charsOfUnits (high :: low :: units) = (charsOfUnits units).map (c :: ·) := by
  have hhigh' : isHighSurrogate high = true := by simpa [isHighSurrogate] using hhigh
  have hlow' : isLowSurrogate low = true := by simpa [isLowSurrogate] using hlow
  have hofNat : c = Char.ofNat (0x10000 + (high - 0xD800) * 0x400 + (low - 0xDC00)) := by
    rw [← hc, Char.ofNat_toNat]
  rw [charsOfUnits, if_pos hhigh', if_pos hlow', ← hofNat]

/-- Half of a pair stands for no text, unless it is the first half and the other one follows. -/
theorem exists_low_of_charsOfUnits {unit : Nat} {units : List Nat} {cs : List Char}
    (hunit : 0xD800 ≤ unit ∧ unit ≤ 0xDFFF) (h : charsOfUnits (unit :: units) = some cs) :
    unit ≤ 0xDBFF ∧ ∃ low rest, units = low :: rest ∧ 0xDC00 ≤ low ∧ low ≤ 0xDFFF := by
  by_cases hhigh : unit ≤ 0xDBFF
  · have hhigh' : isHighSurrogate unit = true := by simp [isHighSurrogate, hunit.1, hhigh]
    cases units with
    | nil => simp [charsOfUnits, hhigh'] at h
    | cons low rest =>
      refine ⟨hhigh, low, rest, rfl, ?_⟩
      rw [charsOfUnits, if_pos hhigh'] at h
      split at h
      · next hlow => simpa [isLowSurrogate] using hlow
      · exact absurd h (by simp)
  · have hhigh' : isHighSurrogate unit = false := by simp [isHighSurrogate]; omega
    have hlow : isLowSurrogate unit = true := by simp [isLowSurrogate]; omega
    cases units <;> simp [charsOfUnits, hhigh', hlow] at h

/-- Half of a pair is no character, so it is written with four digits. -/
theorem SpellsUnit.escape_of_surrogate {unit : Nat} {spelling : List Char}
    (h : SpellsUnit unit spelling) (hunit : 0xD800 ≤ unit ∧ unit ≤ 0xDFFF) :
    SpellsEscape unit spelling := by
  have hchar : ∀ c : Char, ¬ (0xD800 ≤ c.toNat ∧ c.toNat ≤ 0xDFFF) := by
    intro c hc
    have hvalid := c.valid
    simp only [UInt32.isValidChar, Nat.isValidChar] at hvalid
    simp only [Char.toNat] at hc
    omega
  cases h with
  | verbatim _ | short _ => exact absurd hunit (hchar _)
  | escape h => exact h

/-- A unit that is no surrogate is a character. -/
theorem SpellsUnit.exists_char {unit : Nat} {spelling : List Char}
    (h : SpellsUnit unit spelling) (hunit : ¬ (0xD800 ≤ unit ∧ unit ≤ 0xDFFF)) :
    ∃ c : Char, unit = c.toNat := by
  cases h with
  | @verbatim c _ => exact ⟨c, rfl⟩
  | @short c _ _ => exact ⟨c, rfl⟩
  | escape h =>
    have hlt := h.lt
    have hvalid : unit.isValidChar := by
      simp only [Nat.isValidChar]
      omega
    exact ⟨Char.ofNat unit, (Percent.toNat_ofNat_of_isValidChar hvalid).symm⟩

/-- A text is written as units that stand for it. -/
theorem SpellsText.exists_units {cs inside : List Char} (h : SpellsText cs inside) :
    ∃ units, SpellsUnits units inside ∧ charsOfUnits units = some cs := by
  induction h with
  | nil => exact ⟨[], .nil, rfl⟩
  | @cons c cs _ rest hchar _ ih =>
    obtain ⟨units, hunits, hcs⟩ := ih
    cases hchar with
    | unit hunit =>
      refine ⟨c.toNat :: units, .cons hunit hunits, ?_⟩
      rw [charsOfUnits_cons_char, hcs, Option.map_some]
    | @pair high low _ _ hfirst hsecond hhigh hlow hc =>
      refine ⟨high :: low :: units, ?_, ?_⟩
      · rw [List.append_assoc]
        exact .cons (.escape hfirst) (.cons (.escape hsecond) hunits)
      · rw [charsOfUnits_cons_pair hhigh hlow hc, hcs, Option.map_some]

/-- The first character of a text is its first unit or a pair of units. -/
theorem SpellsUnits.exists_first {unit : Nat} {units : List Nat} {spelling rest cs : List Char}
    (hunit : SpellsUnit unit spelling) (hunits : SpellsUnits units rest)
    (hcs : charsOfUnits (unit :: units) = some cs) :
    ∃ c cs' first units' inside, cs = c :: cs' ∧ spelling ++ rest = first ++ inside ∧
      SpellsChar c first ∧ SpellsUnits units' inside ∧ units'.length ≤ units.length ∧
      charsOfUnits units' = some cs' := by
  -- The first character takes two units if the first one is a surrogate.
  by_cases hsurrogate : 0xD800 ≤ unit ∧ unit ≤ 0xDFFF
  · have hfirst := hunit.escape_of_surrogate hsurrogate
    obtain ⟨hhigh, low, units, rfl, hlow⟩ := exists_low_of_charsOfUnits hsurrogate hcs
    cases hunits with
    | cons hnext hunits =>
      have hsecond : SpellsEscape low _ := hnext.escape_of_surrogate (by omega)
      have hvalid : (0x10000 + (unit - 0xD800) * 0x400 + (low - 0xDC00)).isValidChar := by
        simp only [Nat.isValidChar]
        omega
      have hchar := Percent.toNat_ofNat_of_isValidChar hvalid
      have hpair := SpellsChar.pair hfirst hsecond ⟨hsurrogate.1, hhigh⟩ hlow hchar
      rw [charsOfUnits_cons_pair ⟨hsurrogate.1, hhigh⟩ hlow hchar] at hcs
      obtain ⟨cs', hcs', rfl⟩ := Option.map_eq_some_iff.mp hcs
      exact ⟨_, cs', _, units, _, rfl, (List.append_assoc _ _ _).symm, hpair, hunits,
        Nat.le_succ _, hcs'⟩
  · obtain ⟨c, rfl⟩ := hunit.exists_char hsurrogate
    rw [charsOfUnits_cons_char] at hcs
    obtain ⟨cs', hcs', rfl⟩ := Option.map_eq_some_iff.mp hcs
    exact ⟨c, cs', spelling, units, rest, rfl, rfl, .unit hunit, hunits, Nat.le_refl _, hcs'⟩

/-- Units that stand for a text are a way to write it. -/
theorem SpellsUnits.spellsText {units : List Nat} {inside cs : List Char}
    (h : SpellsUnits units inside) (hcs : charsOfUnits units = some cs) : SpellsText cs inside := by
  match h with
  | .nil =>
    obtain rfl := Option.some.inj hcs
    exact .nil
  | @SpellsUnits.cons _ units _ _ hunit hunits =>
    obtain ⟨c, cs, first, units', inside, rfl, hinside, hchar, hunits', hlength, hcs'⟩ :=
      hunits.exists_first hunit hcs
    rw [hinside]
    exact .cons hchar (hunits'.spellsText hcs')
termination_by units.length
decreasing_by exact Nat.lt_succ_of_le hlength

/-- A text is spelled by units that stand for it. -/
theorem spellsText_iff {cs inside : List Char} :
    SpellsText cs inside ↔ ∃ units, SpellsUnits units inside ∧ charsOfUnits units = some cs :=
  ⟨SpellsText.exists_units, fun ⟨_, hunits, hcs⟩ => hunits.spellsText hcs⟩

/-! ## Strings

A string is what stands between two quotes, and it is a text unless a surrogate in it is alone. -/

/-- A string is read as it was written. -/
theorem tokens_stringLexeme {text : Option String} {lexeme : List Char}
    (h : Lexeme (.string text) lexeme) (rest : List Char) :
    Scan.gap.tokens (lexeme ++ rest) = .string text :: Scan.gap.tokens rest := by
  have hquoted : ∀ inside : List Char, ('"' :: (inside ++ ['"'])) ++ rest
      = '"' :: (inside ++ '"' :: rest) := by simp
  cases h with
  | text h =>
    obtain ⟨units, hunits, hcs⟩ := spellsText_iff.mp h
    rw [hquoted, tokens_quoted hunits, hcs, Option.map_some, String.ofList_toList]
  | @noText units _ hunits hnone =>
    have hcs : charsOfUnits units = none := by
      rw [Option.eq_none_iff_forall_ne_some]
      exact fun cs hcs => hnone cs (hunits.spellsText hcs)
    rw [hquoted, tokens_quoted hunits, hcs, Option.map_none]

/-- What is read behind a quote is the rest of a string. -/
theorem exists_stringLexeme {cs : List Char} (h : Token.stray ∉ Scan.gap.tokens ('"' :: cs)) :
    ∃ text lexeme rest, '"' :: cs = lexeme ++ rest ∧ Lexeme (.string text) lexeme := by
  obtain ⟨units, inside, rest, rfl, hunits⟩ := exists_units_of_tokens [] cs h
  have hquoted : '"' :: (inside ++ '"' :: rest) = ('"' :: (inside ++ ['"'])) ++ rest := by simp
  cases hcs : charsOfUnits units with
  | some text =>
    have htext : SpellsText (String.ofList text).toList inside := by
      rw [String.toList_ofList]
      exact hunits.spellsText hcs
    exact ⟨_, _, rest, hquoted, .text htext⟩
  | none =>
    refine ⟨none, _, rest, hquoted, .noText hunits ?_⟩
    -- The inside would be read as the text and as no text.
    intro text htext
    obtain ⟨units', hunits', hcs'⟩ := spellsText_iff.mp htext
    have hsame := (tokens_quoted hunits []).symm.trans (tokens_quoted hunits' [])
    rw [hcs, hcs'] at hsame
    simp at hsame

end ODataQuery.Json
