import ODataQuery.Proofs.Filter.LooseForm
import ODataQuery.Proofs.Text.LowerCase

/-!
# Spellings of keywords

A name is read as a keyword if it spells it: if separators are left out, the two are the same up to
the case of ASCII letters (`ofName?_eq_some_iff_spells`). Names are lower-cased by rules that know
all letters, but no letter outside ASCII is read as one of a keyword: none of the keywords has a
`k`, the one letter that another character has as its lower-case form (`fold_eq_iff_spells`).
-/

namespace ODataQuery

namespace Keyword

open LowerCase

/-! ## Names and words

A name spells a word if their letters are the same up to case, where separators do not count as
letters. Folding a name keeps the letters in lower case, also beyond ASCII, and only ASCII letters
fold to those of a plain word. -/

/-- What is left of a name without separators. -/
def letters (name : String) : List Char := name.toList.filter (· ∉ ['_', '-', ' '])

/-- The texts are the same up to the case of ASCII letters. -/
def SameLetters (cs ds : List Char) : Prop := cs.map Char.toLower = ds.map Char.toLower

instance (cs ds : List Char) : Decidable (SameLetters cs ds) :=
  inferInstanceAs (Decidable (_ = _))

/-- The name without separators is the word, up to the case of ASCII letters. -/
def Spells (name word : String) : Prop := SameLetters (letters name) word.toList

instance (name word : String) : Decidable (Spells name word) :=
  inferInstanceAs (Decidable (SameLetters _ _))

/-- The word is in ASCII and has no `k`. -/
def IsPlainWord (word : String) : Prop :=
  ∀ d ∈ word.toList.map Char.toLower, IsAscii d ∧ d ≠ 'k'

instance (word : String) : Decidable (IsPlainWord word) :=
  List.decidableBAll (fun d => IsAscii d ∧ d ≠ 'k') _

variable {name word : String}

/-- Folding a name folds its letters. -/
theorem fold_eq : fold name = (letters name).flatMap lowerChar := by
  have hseparator : ∀ c, (!isSeparator c) = decide (c ∉ ['_', '-', ' ']) := by
    intro c
    simp [isSeparator, Bool.or_assoc]
  rw [fold, letters]
  simp only [hseparator]

/-- A name folds to a plain word if it spells the word. -/
theorem fold_eq_iff_spells (hword : IsPlainWord word) :
    fold name = word.toList.map Char.toLower ↔ Spells name word := by
  rw [fold_eq, flatMap_lowerChar_eq_iff hword]
  rfl

/-- Whoever spells a plain word writes in ASCII. -/
theorem Spells.ascii (hword : IsPlainWord word) (h : Spells name word) :
    ∀ c ∈ name.toList, IsAscii c := by
  intro c hc
  by_cases hseparator : c ∈ ['_', '-', ' ']
  · obtain rfl | rfl | rfl : c = '_' ∨ c = '-' ∨ c = ' ' := by simpa using hseparator
    all_goals decide
  · have hletter : c ∈ letters name := List.mem_filter.mpr ⟨hc, decide_eq_true hseparator⟩
    exact ascii_of_map_toLower (fun d hd => (hword d hd).1) h c hletter

/-- Names with the same letters spell the same words. -/
theorem spells_congr {name' : String} (h : SameLetters (letters name) (letters name')) :
    Spells name word ↔ Spells name' word := by
  rw [Spells, Spells, SameLetters, SameLetters, h]

/-! ## Tables of keywords

A table can be searched if its words are plain, in lower case and different. Then the entry that is
found is the one that the name spells. -/

/-- An entry is found if it is there, provided that no two entries are wanted. -/
theorem find?_eq_some_iff_of_unique {α : Type} {p : α → Bool} {entries : List α} {a : α}
    (hunique : ∀ b ∈ entries, ∀ c ∈ entries, p b = true → p c = true → b = c) :
    entries.find? p = some a ↔ a ∈ entries ∧ p a = true := by
  constructor
  · exact fun h => ⟨List.mem_of_find?_eq_some h, List.find?_some h⟩
  · rintro ⟨hmem, ha⟩
    obtain ⟨b, hb⟩ := Option.isSome_iff_exists.mp (List.find?_isSome.mpr ⟨a, hmem, ha⟩)
    rw [hb, hunique b (List.mem_of_find?_eq_some hb) a hmem (List.find?_some hb) ha]

/-- The words of a table are plain and in lower case, and no two entries have the same one. -/
structure IsTable {α : Type} (table : List (String × α)) : Prop where
  plain : ∀ k ∈ table, IsPlainWord k.1
  lower : ∀ k ∈ table, k.1.toList.map Char.toLower = k.1.toList
  unique : ∀ k ∈ table, ∀ k' ∈ table, k.1 = k'.1 → k = k'

/-- A search finds what belongs to the word that the name spells. -/
theorem IsTable.lookup_eq_some_iff {α : Type} {table : List (String × α)} (htable : IsTable table)
    {a : α} :
    (table.find? fun k => k.1.toList == fold name).map (·.2) = some a ↔
      ∃ word, (word, a) ∈ table ∧ Spells name word := by
  -- No two entries have the same word, so whatever is found is the only candidate.
  have hunique : ∀ k ∈ table, ∀ k' ∈ table, (k.1.toList == fold name) = true →
      (k'.1.toList == fold name) = true → k = k' := by
    intro k hk k' hk' hname hname'
    rw [beq_iff_eq] at hname hname'
    exact htable.unique k hk k' hk' (String.toList_injective (hname.trans hname'.symm))
  have hspells : ∀ k ∈ table, (k.1.toList == fold name) = true ↔ Spells name k.1 := by
    intro k hk
    rw [← fold_eq_iff_spells (htable.plain k hk), htable.lower k hk, beq_iff_eq, eq_comm]
  rw [Option.map_eq_some_iff]
  constructor
  · rintro ⟨⟨word, b⟩, hfound, rfl⟩
    obtain ⟨hmem, hname⟩ := (find?_eq_some_iff_of_unique hunique).mp hfound
    exact ⟨word, hmem, (hspells _ hmem).mp hname⟩
  · rintro ⟨word, hmem, hname⟩
    exact ⟨(word, a), (find?_eq_some_iff_of_unique hunique).mpr
      ⟨hmem, (hspells _ hmem).mpr hname⟩, rfl⟩

end Keyword

/-! ## Comparators

The names of comparators are compared with the folded names of all of them, so the search is one
through a table. -/

namespace Comparator

theorem mem_all (c : Comparator) : c ∈ all := by
  cases c <;> decide

/-- The display names are plain words. -/
theorem isPlainWord_name (c : Comparator) : Keyword.IsPlainWord c.name := by
  cases c <;> decide

/-- A display name folds to its own letters. -/
theorem fold_name (c : Comparator) : Keyword.fold c.name = c.name.toList.map Char.toLower := by
  have hspells : Keyword.Spells c.name c.name := by cases c <;> decide
  exact (Keyword.fold_eq_iff_spells c.isPlainWord_name).mpr hspells

/-- No two comparators have one name, since each is read by its own. -/
theorem fold_name_inj {c d : Comparator} (h : Keyword.fold c.name = Keyword.fold d.name) :
    c = d := by
  have hread : ofName? c.name = ofName? d.name := by rw [ofName?, ofName?, h]
  rw [ofName?_name, ofName?_name] at hread
  exact Option.some.inj hread

/-- A name is read as a comparator if it spells its display name. -/
theorem ofName?_eq_some_iff {name : String} {c : Comparator} :
    ofName? name = some c ↔ Keyword.Spells name c.name := by
  have hunique : ∀ b ∈ all, ∀ c ∈ all, (Keyword.fold b.name == Keyword.fold name) = true →
      (Keyword.fold c.name == Keyword.fold name) = true → b = c := by
    intro b _ c _ hb hc
    rw [beq_iff_eq] at hb hc
    exact fold_name_inj (hb.trans hc.symm)
  rw [ofName?, Keyword.find?_eq_some_iff_of_unique hunique, and_iff_right c.mem_all, beq_iff_eq,
    fold_name, ← Keyword.fold_eq_iff_spells c.isPlainWord_name, eq_comm]

end Comparator

/-! ## Combinators and quantifiers

These parsers search tables that are written out, one word for a quantifier and up to three for a
combinator. -/

theorem Combinator.isTable_keywords : Keyword.IsTable Combinator.keywords := by
  refine ⟨?_, ?_, ?_⟩
  · decide
  · decide
  · decide

theorem Quantifier.isTable_keywords : Keyword.IsTable Quantifier.keywords := by
  refine ⟨?_, ?_, ?_⟩
  · decide
  · decide
  · decide

/-- The words for a combinator. -/
def Combinator.words : Combinator → List String
  | .none => ["", "none"]
  | .and => ["and"]
  | .or => ["or"]
  | .not => ["not"]
  | .andNot => ["andnot"]
  | .orNot => ["ornot"]

theorem Combinator.mem_keywords_iff {word : String} {c : Combinator} :
    (word, c) ∈ keywords ↔ word ∈ c.words := by
  cases c <;> simp [keywords, words]

/-- A name is read as a combinator if it spells one of its words. -/
theorem Combinator.ofName?_eq_some_iff {name : String} {c : Combinator} :
    ofName? name = some c ↔ ∃ word ∈ c.words, Keyword.Spells name word := by
  rw [ofName?, isTable_keywords.lookup_eq_some_iff]
  simp only [mem_keywords_iff]

theorem Quantifier.mem_keywords_iff {word : String} {q : Quantifier} :
    (word, q) ∈ keywords ↔ word = q.token := by
  cases q <;> simp [keywords, token]

/-- A name is read as a quantifier if it spells its token. -/
theorem Quantifier.ofName?_eq_some_iff {name : String} {q : Quantifier} :
    ofName? name = some q ↔ Keyword.Spells name q.token := by
  rw [ofName?, isTable_keywords.lookup_eq_some_iff]
  simp only [mem_keywords_iff, exists_eq_left]

/-! ## What names are read as

The three parsers together, as one statement about all names. -/

open Keyword LowerCase

/-- No name spells two comparators. -/
theorem Comparator.eq_of_spells {name : String} {c d : Comparator} (hc : Spells name c.name)
    (hd : Spells name d.name) : c = d :=
  Option.some.inj ((ofName?_eq_some_iff.mpr hc).symm.trans (ofName?_eq_some_iff.mpr hd))

/-- The words for combinators are plain. -/
theorem Combinator.isPlainWord_of_mem_words {word : String} {c : Combinator} (h : word ∈ c.words) :
    IsPlainWord word :=
  isTable_keywords.plain _ (mem_keywords_iff.mpr h)

/-- The tokens of quantifiers are plain words. -/
theorem Quantifier.isPlainWord_token (q : Quantifier) : IsPlainWord q.token :=
  isTable_keywords.plain _ (mem_keywords_iff.mpr rfl)

/-- A name is read as the comparator, the combinator or the quantifier whose word it spells: the two
are the same up to separators and the case of ASCII letters. So whatever is read is written in
ASCII, no name spells two comparators, and names that differ in separators and the case of ASCII
letters only are read alike. -/
theorem ofName?_eq_some_iff_spells (name : String) :
    (∀ c : Comparator, Comparator.ofName? name = some c ↔ Spells name c.name) ∧
    (∀ c : Combinator, Combinator.ofName? name = some c ↔ ∃ word ∈ c.words, Spells name word) ∧
    (∀ q : Quantifier, Quantifier.ofName? name = some q ↔ Spells name q.token) ∧
    ((Comparator.ofName? name).isSome = true ∨ (Combinator.ofName? name).isSome = true ∨
        (Quantifier.ofName? name).isSome = true →
      ∀ c ∈ name.toList, IsAscii c) ∧
    (∀ c d : Comparator, Spells name c.name → Spells name d.name → c = d) ∧
    ∀ name', SameLetters (letters name) (letters name') →
      Comparator.ofName? name = Comparator.ofName? name' ∧
      Combinator.ofName? name = Combinator.ofName? name' ∧
      Quantifier.ofName? name = Quantifier.ofName? name' := by
  refine ⟨fun _ => Comparator.ofName?_eq_some_iff, fun _ => Combinator.ofName?_eq_some_iff,
    fun _ => Quantifier.ofName?_eq_some_iff, ?_, fun _ _ => Comparator.eq_of_spells,
    fun name' hsame => ⟨Option.ext fun c => ?_, Option.ext fun c => ?_, Option.ext fun q => ?_⟩⟩
  · -- A name that is read spells a plain word, so its characters are ASCII.
    rintro (hread | hread | hread)
    · -- Whatever is read spells a plain word, and such a name is in ASCII.
      obtain ⟨c, hc⟩ := Option.isSome_iff_exists.mp hread
      exact (Comparator.ofName?_eq_some_iff.mp hc).ascii c.isPlainWord_name
    · obtain ⟨c, hc⟩ := Option.isSome_iff_exists.mp hread
      obtain ⟨word, hword, hspells⟩ := Combinator.ofName?_eq_some_iff.mp hc
      exact hspells.ascii (Combinator.isPlainWord_of_mem_words hword)
    · obtain ⟨q, hq⟩ := Option.isSome_iff_exists.mp hread
      exact (Quantifier.ofName?_eq_some_iff.mp hq).ascii q.isPlainWord_token
  · rw [Comparator.ofName?_eq_some_iff, Comparator.ofName?_eq_some_iff, spells_congr hsame]
  · rw [Combinator.ofName?_eq_some_iff, Combinator.ofName?_eq_some_iff]
    simp only [spells_congr hsame]
  · rw [Quantifier.ofName?_eq_some_iff, Quantifier.ofName?_eq_some_iff, spells_congr hsame]

/-- A name with separators in unusual places, and letters of both cases. -/
theorem ofName?_eq_some_iff_spells_mixed :
    let name := "-multi_SELECT contains__"
    (Comparator.ofName? name).isSome = true ∧ (∀ c ∈ name.toList, IsAscii c) ∧
      Spells name Comparator.multiSelectContains.name ∧
      (∀ c : Comparator, Spells name c.name → Comparator.multiSelectContains = c) ∧
      SameLetters (letters name) (letters "MultiSelectContains") ∧
      Comparator.ofName? name = Comparator.ofName? "MultiSelectContains" := by
  intro name
  obtain ⟨-, -, -, hascii, hunique, hsame⟩ := ofName?_eq_some_iff_spells name
  have hread : (Comparator.ofName? name).isSome = true := by decide +kernel
  have hspells : Spells name Comparator.multiSelectContains.name := by decide +kernel
  have hletters : SameLetters (letters name) (letters "MultiSelectContains") := by decide +kernel
  exact ⟨hread, hascii (.inl hread), hspells, fun c => hunique _ c hspells, hletters,
    (hsame _ hletters).1⟩

/-- The capital with a dot is no `i`, although its lower case begins with one. -/
example : Comparator.ofName? "İsNull" = none := by decide +kernel

end ODataQuery
