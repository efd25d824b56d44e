import Mathlib.Data.List.TakeDrop
import Mathlib.Data.List.TakeWhile
import ODataQuery.Proofs.Json.Written
import ODataQuery.Store.Contexts

/-!
# Stored records

What is stored is read again as it was: a context from its JSON text (`Context.read_toText`), and
the name of one from its own (`Store.readName_toText`).
-/

namespace ODataQuery

open Json

/-! ## Numbers

A page size is written in decimal digits and read by the same rules as any other number of a
document. -/

namespace Json

/-- The digits of a natural number are its whole part, without sign, fraction and exponent. -/
theorem Numeral.ofLexeme_repr (n : Nat) :
    Numeral.ofLexeme (Nat.repr n) = ⟨false, Nat.toDigits 10 n, [], none⟩ := by
  have hdigit : ∀ c ∈ Nat.toDigits 10 n, c.isDigit = true := fun c hc =>
    Nat.isDigit_of_mem_toDigits (by decide) (by decide) hc
  have hsign : (Nat.toDigits 10 n).head? ≠ some '-' := by
    intro hhead
    have := hdigit '-' (List.mem_of_mem_head? hhead)
    exact absurd this (by decide)
  have hspan : (Nat.toDigits 10 n).span Char.isDigit = (Nat.toDigits 10 n, []) := by
    rw [List.span_eq_takeWhile_dropWhile, List.takeWhile_eq_self_iff.mpr hdigit,
      List.dropWhile_eq_nil_iff.mpr hdigit]
  simp only [Numeral.ofLexeme, Nat.toList_repr, hsign, decide_false, if_false, hspan]

/-- A natural number with 64 bits is read as an integer. -/
theorem Number.ofLexeme?_repr {n : Nat} (hn : n < UInt64.size) :
    Number.ofLexeme? (Nat.repr n) = some (.integer n) := by
  have hvalue : Numeral.ofDigits (Nat.toDigits 10 n) = n :=
    Nat.ofDigitChars_toDigits (by decide) (by decide)
  simp [Number.ofLexeme?, Numeral.ofLexeme_repr, Numeral.isWhole, hvalue, hn]

/-- A number with 32 bits is read back. -/
theorem asWord_nat (n : UInt32) : asWord (.nat n.toNat) = .ok n := by
  have hbound : n.toNat < UInt32.size := n.toNat_lt_size
  have hword : n.toNat < UInt64.size := Nat.lt_trans hbound (by decide)
  have hrange : (0 : Int) ≤ n.toNat ∧ (n.toNat : Int) < UInt32.size := by omega
  simp only [asWord, Json.nat, Number.ofLexeme?_repr hword, if_pos hrange]
  simp

end Json

/-! ## Contexts

The members of a context are written in the order of its fields, each with its own name, so reading
them fills all fields. -/

/-- Compile options are read back. -/
theorem CompileOptions.read_record (options : CompileOptions) (presentation : Presentation)
    (room : Nat) :
    CompileOptions.read presentation (room + 1)
      (.record
        [("legacy_contains_fallback", .bool options.legacyContainsFallback),
         ("reject_empty_multi_select", .bool options.rejectEmptyMultiSelect)]) = .ok options := by
  simp [CompileOptions.read, RecordForm.decode, Json.record, RecordForm.fillMembers, form,
    RecordForm.keys, Field.optional, setField, asBool, bind, Except.bind, pure, Except.pure]

namespace Context

/-- What is written for a context is plain. -/
theorem isPlain_toJson (context : Context) : context.toJson.IsPlain := by
  have hpageSize : (Json.nat context.pageSize.toNat).IsPlain := ⟨_, rfl⟩
  simp [toJson, Json.record, IsPlain, MembersArePlain, Json.text, hpageSize]

/-- What is written for a context is read as the context. -/
theorem read_toJson (context : Context) (presentation : Presentation) (room : Nat) :
    Context.read presentation (room + 2) context.toJson = .ok context := by
  have hoptions := context.options.read_record presentation room
  simp only [Json.record, List.map_cons, List.map_nil] at hoptions
  simp [Context.read, RecordForm.decode, toJson, Json.record, RecordForm.fillMembers, form,
    RecordForm.keys, Field.required, Field.optional, setField, asString, asBool, asWord_nat,
    Json.text, hoptions, bind, Except.bind, pure, Except.pure]

/-- A context is read from its own text. -/
theorem read_toText (context : Context) : Context.read.ofText context.toText = .ok context := by
  rw [toText, Reader.ofText_toText _ context.isPlain_toJson]
  exact read_toJson context .text 125

end Context

/-- The name of a context is read from its own text. -/
theorem Store.readName_toText (name : String) :
    Store.readName.ofText (Json.text name).toText = .ok name := by
  have hplain : (Json.text name).IsPlain := rfl
  rw [Reader.ofText_toText _ hplain]
  rfl

end ODataQuery
