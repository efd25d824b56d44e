import ODataQuery.Proofs.Filter.Characters
import ODataQuery.Proofs.Literal.Quotes

/-!
# Filter expressions after percent-decoding

Decoding the text of a tree undoes the encoding of its literals and changes nothing else, if no part
of the tree holds a `%` of its own. Both texts fill the same template (`decode?_renderSiblings`).

The trees that this is about keep the `readableRules`. These say which names and values are written
without any protection, and so must not hold a character that delimits something.
-/

namespace ODataQuery

/-! ## Trees whose text can be read

A percent sign in a name would be decoded as well, so names and what is copied may not hold any. -/

/-- The delimiters of words, and the character that introduces an encoded byte. -/
def readableDelimiters : List Char := '%' :: wordDelimiters

/-- What a condition writes as it is holds nothing that delimits it. Values that are compared as
text are free. -/
structure Condition.IsReadable (condition : Condition) : Prop where
  field : Avoids condition.field readableDelimiters
  value : condition.comparator ∈ Comparator.verbatims → Avoids condition.value readableDelimiters
  multiSelectValues : condition.comparator ∈ Comparator.choices →
    ∀ value ∈ condition.multiSelectValues, Avoids value ['\'', '%']

instance (condition : Condition) : Decidable condition.IsReadable :=
  decidable_of_iff (_ ∧ _ ∧ _)
    ⟨fun ⟨hfield, hvalue, hvalues⟩ => ⟨hfield, hvalue, hvalues⟩,
      fun h => ⟨h.field, h.value, h.multiSelectValues⟩⟩

/-- There is no text of an expression, names and values are readable, and each combinator is one
that an expression has a word for. -/
def readableRules : TreeRules where
  raw _ := False
  condition := Condition.IsReadable
  collection field := Avoids field readableDelimiters
  attachment c := c ∈ [.and, .or, .andNot, .orNot]

/-! ## Decoding a filled template

Decoding goes through the text from left to right. In the fixed parts there is nothing to decode, so
it decodes the fillings one by one (`Template.bytes_fill`). -/

/-- What is decoded piece by piece is decoded as a whole: if a text in place of each gap decodes to
another one whatever follows, then the template filled with the former decodes to the template
filled with the latter. Induction on the template. -/
theorem Template.bytes_fill {α : Type} {f g : α → String} {t : Template} (ht : t.Avoids ['%'])
    (hfg : ∀ a rest, Percent.bytes ((f a).toList ++ rest)
      = Percent.utf8 (g a).toList ++ Percent.bytes rest) (l : List α) (rest : List Char) :
    Percent.bytes ((t.fill (l.map f)).toList ++ rest)
      = Percent.utf8 (t.fill (l.map g)).toList ++ Percent.bytes rest := by
  have hplain : ∀ {s : String}, ODataQuery.Avoids s ['%'] → ∀ rest,
      Percent.bytes (s.toList ++ rest) = Percent.utf8 s.toList ++ Percent.bytes rest :=
    fun hs rest => Percent.bytes_append_of_no_percent (hs.not_mem (by decide)) rest
  -- Induction over the template: each gap uses up one of the fillings.
  induction t generalizing l with
  | text s => exact hplain ht rest
  | gap before after ih =>
    cases l with
    | nil =>
      have hafter := ih ht.2 []
      simp only [List.map_nil] at hafter
      simp only [List.map_nil, fill, String.toList_append, List.append_assoc,
        hplain ht.1, hafter, Percent.utf8_append]
    | cons a l =>
      simp only [List.map_cons, fill, String.toList_append, List.append_assoc, hplain ht.1, hfg,
        ih ht.2, Percent.utf8_append]

/-- The literal of a condition as a reader sees it. -/
def Condition.decodedLiteral (condition : Condition) : String :=
  String.ofList (Literal.quoted
    (Literal.foldCase condition.value condition.caseInsensitive).toList)

/-- Decoding a literal gives the literal of the decoded text, whatever follows it. -/
theorem Condition.bytes_literal_append (condition : Condition) (rest : List Char) :
    Percent.bytes (condition.literal.toList ++ rest)
      = Percent.utf8 condition.decodedLiteral.toList ++ Percent.bytes rest := by
  have hquote : ∀ rest, Percent.bytes ('\'' :: rest) = Percent.utf8 ['\''] ++ Percent.bytes rest :=
    fun rest => Percent.bytes_append_of_no_percent (by decide : '%' ∉ ['\'']) rest
  simp only [Condition.literal, Literal.encode, Condition.decodedLiteral, Literal.quoted,
    String.toList_append, String.toList_ofList, List.append_assoc, List.cons_append]
  rw [show "'".toList = ['\''] from by decide]
  simp only [List.cons_append, List.nil_append, hquote, Percent.bytes_encode_append,
    String.toList_ofList, Percent.utf8_cons, Percent.utf8_append, List.append_assoc,
    Percent.utf8_nil]

/-! ## Texts of readable trees

The decoded text of a tree is what is written of it with decoded literals. -/

/-- Trees that can be read hold no percent sign outside of their literals. -/
theorem plainRules_percent_impliedBy : (plainRules ['%']).ImpliedBy readableRules where
  raw h := h.elim
  condition h :=
    { field := h.field.mono (by decide)
      value := fun hmem => (h.value hmem).mono (by decide)
      multiSelectValues := fun hmem value hvalue =>
        (h.multiSelectValues hmem value hvalue).mono (by decide) }
  collection h := h.mono (by decide)
  children _ := trivial
  attachment _ := trivial

/-- The text of a readable tree decodes to the same text with decoded literals. -/
theorem decode?_renderSiblings {qualifier : String} {filters : List Filter}
    (hqualifier : Avoids qualifier ['%']) (h : SiblingsKeep readableRules filters) :
    Percent.decode? (renderSiblings qualifier filters)
      = some (writtenSiblings Condition.decodedLiteral qualifier filters) := by
  have htemplate := avoids_siblingsTemplate (by decide) hqualifier
    (h.mono plainRules_percent_impliedBy)
  have hbytes :=
    Template.bytes_fill htemplate Condition.bytes_literal_append (textConditions filters) []
  rw [renderSiblings_eq_written, writtenSiblings, writtenSiblings]
  rw [List.append_nil] at hbytes
  rw [Percent.decode?_of_bytes (hbytes.trans (List.append_nil _)), String.ofList_toList]

end ODataQuery
