import Mathlib.Data.List.Chain
import ODataQuery.Proofs.Json.Numerals
import ODataQuery.Proofs.Json.Strings

/-!
# Texts as they are scanned

The scanner finds the tokens that the grammar has (`tokens_of_lexes`), if no number runs into the
token after it, and every text without a stray token consists of those that it finds
(`lexes_tokens`).
-/

namespace ODataQuery.Json

/-! ## What may follow a token

Only a number goes on as long as it can. All other tokens end by themselves. -/

/-- The tokens that end what stands before them. -/
def closers : List Token := [.comma, .closeArray, .closeObject]

/-- The second token ends the first one, if that is a number. -/
def Token.Precedes (token next : Token) : Prop :=
  (∃ lexeme, token = .number lexeme) → next ∈ closers

/-- Blanks are skipped. -/
theorem tokens_blanks {before : List Char} (h : before ⊆ blanks) (rest : List Char) :
    Scan.gap.tokens (before ++ rest) = Scan.gap.tokens rest := by
  induction before with
  | nil => rfl
  | cons c before ih =>
    obtain ⟨hc, hbefore⟩ := List.cons_subset.mp h
    have hstart : Scan.start c = ([], .gap) := by
      simp only [blanks, List.mem_cons, List.not_mem_nil, or_false] at hc
      rcases hc with rfl | rfl | rfl | rfl <;> rfl
    rw [List.cons_append, Scan.tokens, Scan.step, hstart, List.nil_append, ih hbefore]

/-- A token is read as it was written, if what follows ends it. -/
theorem tokens_lexeme {token : Token} {lexeme rest : List Char} (h : Lexeme token lexeme)
    (hrest : (∃ number, token = .number number) → EndsNumber rest) :
    Scan.gap.tokens (lexeme ++ rest) = token :: Scan.gap.tokens rest := by
  cases h with
  | number h => exact tokens_numberLexeme h (hrest ⟨_, rfl⟩)
  | text h => exact tokens_stringLexeme (.text h) rest
  | noText h hnone => exact tokens_stringLexeme (.noText h hnone) rest
  | _ => rfl

/-- What ends a number stands in front of a token that does. -/
theorem Lexes.endsNumber {tokens : List Token} {cs : List Char} (h : Lexes tokens cs)
    (hnext : ∀ token ∈ tokens.head?, token ∈ closers) : EndsNumber cs := by
  have hblank : blanks ⊆ valueEnds := by decide
  intro c hc
  cases h with
  | nil h => exact hblank (h (List.mem_of_mem_head? hc))
  | @cons token _ before _ _ hbefore hlexeme _ =>
    cases before with
    | cons b before =>
      obtain rfl := Option.some.inj hc
      exact hblank (hbefore List.mem_cons_self)
    | nil =>
      have hcloser : token ∈ closers := hnext token rfl
      simp only [closers, List.mem_cons, List.not_mem_nil, or_false] at hcloser
      rcases hcloser with rfl | rfl | rfl <;> cases hlexeme <;>
        obtain rfl := Option.some.inj hc <;> decide

/-- The tokens of the grammar are found. -/
theorem tokens_of_lexes {tokens : List Token} {cs : List Char} (h : Lexes tokens cs)
    (hchain : tokens.IsChain Token.Precedes) : Scan.gap.tokens cs = tokens := by
  induction h with
  | nil h =>
    have hblanks := tokens_blanks h []
    rw [List.append_nil] at hblanks
    exact hblanks
  | cons hbefore hlexeme hrest ih =>
    obtain ⟨hnext, hchain⟩ := List.isChain_cons.mp hchain
    have hends := fun hnumber => hrest.endsNumber fun next hmem => hnext next hmem hnumber
    rw [tokens_blanks hbefore, tokens_lexeme hlexeme hends, ih hchain]

/-! ## What is found is in the grammar

The first character tells what kind of token begins, and each kind of token is read to its end by a
lemma of its own. -/

/-- What a character that belongs to no token begins. -/
theorem start_cases (c : Char) :
    (c ∈ blanks ∧ Scan.start c = ([], .gap)) ∨
    (∃ token, Lexeme token [c] ∧ Scan.start c = ([token], .gap)) ∨
    (∃ x left token, Lexeme token (c :: x :: left) ∧
      Scan.start c = ([], .word (x :: left) token)) ∨
    (c = '"' ∧ Scan.start c = ([], .text .plain [])) ∨
    (∃ phase, Scan.start c = ([], .number phase [c])) ∨
    Scan.start c = ([.stray], .stuck) := by
  -- One case for each character that the scanner tells apart.
  unfold Scan.start
  split
  case h_17 =>
    split
    · exact .inr (.inr (.inr (.inr (.inl ⟨.whole, rfl⟩))))
    · exact .inr (.inr (.inr (.inr (.inr rfl))))
  case h_5 => exact .inr (.inl ⟨_, .openArray, rfl⟩)
  case h_6 => exact .inr (.inl ⟨_, .closeArray, rfl⟩)
  case h_7 => exact .inr (.inl ⟨_, .openObject, rfl⟩)
  case h_8 => exact .inr (.inl ⟨_, .closeObject, rfl⟩)
  case h_9 => exact .inr (.inl ⟨_, .comma, rfl⟩)
  case h_10 => exact .inr (.inl ⟨_, .colon, rfl⟩)
  case h_11 => exact .inr (.inr (.inl ⟨_, _, _, .null, rfl⟩))
  case h_12 => exact .inr (.inr (.inl ⟨_, _, _, .true, rfl⟩))
  case h_13 => exact .inr (.inr (.inl ⟨_, _, _, .false, rfl⟩))
  case h_14 => exact .inr (.inr (.inr (.inl ⟨rfl, rfl⟩)))
  case h_15 => exact .inr (.inr (.inr (.inr (.inl ⟨.minus, rfl⟩))))
  case h_16 => exact .inr (.inr (.inr (.inr (.inl ⟨.zero, rfl⟩))))
  all_goals exact .inl ⟨by decide, rfl⟩

/-- A word is read to its end. Induction on what is left of it. -/
theorem exists_word_of_tokens {x : Char} {left : List Char} {token : Token} {cs : List Char}
    (h : Token.stray ∉ (Scan.word (x :: left) token).tokens cs) :
    ∃ rest, cs = x :: left ++ rest ∧
      (Scan.word (x :: left) token).tokens cs = token :: Scan.gap.tokens rest := by
  -- Induction over the letters that are still missing.
  induction left generalizing x cs with
  | nil =>
    cases cs with
    | nil => exact absurd List.mem_cons_self h
    | cons c cs =>
      by_cases hc : c = x
      · rw [Scan.tokens, Scan.step, if_pos hc]
        exact ⟨cs, by rw [hc]; rfl, rfl⟩
      · rw [Scan.tokens, Scan.step, if_neg hc] at h
        exact absurd List.mem_cons_self h
  | cons y left ih =>
    cases cs with
    | nil => exact absurd List.mem_cons_self h
    | cons c cs =>
      have hstep : (Scan.word (x :: y :: left) token).step c
          = if c = x then ([], .word (y :: left) token) else ([.stray], .stuck) := rfl
      by_cases hc : c = x
      · rw [Scan.tokens, hstep, if_pos hc] at h ⊢
        obtain ⟨rest, rfl, htokens⟩ := ih h
        exact ⟨rest, by rw [hc]; rfl, htokens⟩
      · rw [Scan.tokens, hstep, if_neg hc] at h
        exact absurd List.mem_cons_self h

/-- Where a text goes on being JSON, a blank or a token comes next. -/
theorem exists_lexeme_of_tokens {c : Char} {cs : List Char}
    (h : Token.stray ∉ Scan.gap.tokens (c :: cs)) :
    c ∈ blanks ∨ ∃ token lexeme rest, c :: cs = lexeme ++ rest ∧ Lexeme token lexeme ∧
      Scan.gap.tokens (c :: cs) = token :: Scan.gap.tokens rest := by
  -- In the order of `start_cases`: a blank, a bracket or separator, a word, a string, a number.
  rcases start_cases c with ⟨hc, -⟩ | ⟨token, hlexeme, hstart⟩ |
    ⟨x, left, token, hlexeme, hstart⟩ | ⟨rfl, -⟩ | ⟨phase, hstart⟩ | hstart
  · exact .inl hc
  · refine .inr ⟨token, [c], cs, rfl, hlexeme, ?_⟩
    rw [Scan.tokens, Scan.step, hstart]
    rfl
  · rw [Scan.tokens, Scan.step, hstart] at h ⊢
    obtain ⟨rest, rfl, htokens⟩ := exists_word_of_tokens h
    exact .inr ⟨token, _, rest, rfl, hlexeme, htokens⟩
  · obtain ⟨text, lexeme, rest, hcs, hlexeme⟩ := exists_stringLexeme h
    refine .inr ⟨_, lexeme, rest, hcs, hlexeme, ?_⟩
    rw [hcs, tokens_stringLexeme hlexeme]
  · obtain ⟨lexeme, rest, hcs, hnumber, htokens⟩ := exists_numberLexeme hstart h
    exact .inr ⟨_, lexeme, rest, hcs, .number hnumber, htokens⟩
  · rw [Scan.tokens, Scan.step, hstart] at h
    exact absurd List.mem_cons_self h

theorem Lexeme.length_pos {token : Token} {lexeme : List Char} (h : Lexeme token lexeme) :
    0 < lexeme.length := by
  cases h with
  | number h =>
    cases lexeme with
    | nil => exact absurd h not_isNumber_nil
    | cons c cs => exact Nat.succ_pos _
  | _ => exact Nat.succ_pos _

/-- There may be one more blank in front of the tokens. -/
theorem Lexes.cons_blank {c : Char} {tokens : List Token} {cs : List Char} (hc : c ∈ blanks)
    (h : Lexes tokens cs) : Lexes tokens (c :: cs) := by
  cases h with
  | nil h => exact .nil (List.cons_subset.mpr ⟨hc, h⟩)
  | cons hbefore hlexeme hrest =>
    exact .cons (List.cons_subset.mpr ⟨hc, hbefore⟩) hlexeme hrest

/-- A text without a stray token consists of its tokens. Induction on its length. -/
theorem lexes_tokens {cs : List Char} (h : Token.stray ∉ Scan.gap.tokens cs) :
    Lexes (Scan.gap.tokens cs) cs := by
  match cs with
  | [] => exact .nil (List.nil_subset _)
  | c :: cs =>
    rcases exists_lexeme_of_tokens h with hc | ⟨token, lexeme, rest, hcs, hlexeme, htokens⟩
    · have hskip : Scan.gap.tokens (c :: cs) = Scan.gap.tokens cs :=
        tokens_blanks (List.cons_subset.mpr ⟨hc, List.nil_subset _⟩) cs
      rw [hskip] at h ⊢
      exact (lexes_tokens h).cons_blank hc
    · have hlength : rest.length < (c :: cs).length := by
        rw [hcs, List.length_append]
        exact Nat.lt_add_of_pos_left hlexeme.length_pos
      rw [htokens] at h ⊢
      rw [hcs]
      exact .cons (List.nil_subset _) hlexeme (lexes_tokens (List.not_mem_of_not_mem_cons h))
termination_by cs.length
decreasing_by
  · exact Nat.lt_succ_self _
  · exact hlength

end ODataQuery.Json
