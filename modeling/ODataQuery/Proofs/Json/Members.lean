import ODataQuery.Json.Decode
import ODataQuery.Proofs.Log

/-!
# Records that are read

A record is filled from an object member by member, in their order (`fillMembers_eq_ok`). If it is
strict, what was filled it knows and fills once (`exists_keys_of_fillMembers`), and nothing in an
object or array is passed over (`exists_set_of_mem`, `exists_set_of_getElem?`).
-/

namespace ODataQuery.Json

/-! ## Lists

The items of a list are read one after the other, and reading fails at the first item that cannot be
read. -/

/-- If a list was read, each of its items was. -/
theorem exists_read_of_mem {α : Type} {read : Json → Except Fault α} {items : List Json}
    {values : List α} (h : readItems read items = .ok values) {item : Json} (hitem : item ∈ items) :
    ∃ value, read item = .ok value := by
  induction items generalizing values with
  | nil => exact absurd hitem List.not_mem_nil
  | cons first items ih =>
    obtain ⟨value, hfirst, hrest⟩ := bind_eq_ok_iff.mp h
    obtain ⟨rest, hrest, -⟩ := bind_eq_ok_iff.mp hrest
    rcases List.mem_cons.mp hitem with rfl | hitem
    · exact ⟨value, hfirst⟩
    · exact ih hrest hitem

/-- A list that does not nest too deep is read if its items are. -/
theorem asList_eq_ok {α : Type} {room : Nat} {read : Json → Except Fault α} {items : List Json}
    {values : List α} (hroom : (Json.list items).depth ≤ room)
    (h : readItems read items = .ok values) : asList room read (.list items) = .ok values := by
  have hne : room ≠ 0 := by
    simp only [Json.list, depth] at hroom
    omega
  simp [Json.list, asList, hne, h, bind, Except.bind, pure, Except.pure]

/-- A list that may be absent and is there. -/
theorem asOption_list {α : Type} (room : Nat) (read : Json → Except Fault α) (items : List Json) :
    asOption (asList room read) (.list items) = (asList room read (.list items)).map some := rfl

/-- What is read as a list is an array that ends, with items that are read. -/
theorem exists_items_of_asList {α : Type} {room : Nat} {read : Json → Except Fault α} {j : Json}
    {values : List α} (h : asList room read j = .ok values) :
    ∃ items, j = .array items true ∧ readItems read items = .ok values := by
  cases j with
  | array items closed =>
    rw [asList] at h
    split at h
    · exact absurd h (by simp)
    · obtain ⟨values', hread, h⟩ := bind_eq_ok_iff.mp h
      cases closed with
      | false => exact absurd h (by simp)
      | true =>
        obtain rfl := Except.ok.inj h
        exact ⟨items, rfl, hread⟩
  | _ => exact absurd h (by simp [asList])

/-! ## Nesting

How deep an object nests is determined by the deepest of its members. -/

theorem depthMembers_le_iff {members : List (Option String × Json)} {n : Nat} :
    depthMembers members ≤ n ↔ ∀ member ∈ members, member.2.depth ≤ n := by
  induction members with
  | nil => simp [depthMembers]
  | cons member members ih => rw [depthMembers, Nat.max_le, ih, List.forall_mem_cons]

namespace RecordForm

variable {ρ : Type} {form : RecordForm} {set : ρ → String → Json → Except Fault ρ}

/-- A record is filled step by step. `filled` says what it is when some fields are. -/
theorem fillMembers_eq_ok {filled : List String → ρ} {members : List (String × Json)}
    (hknown : ∀ member ∈ members, member.1 ∈ form.keys)
    (hset : ∀ member ∈ members, ∀ seen,
      set (filled seen) member.1 member.2 = .ok (filled (member.1 :: seen)))
    (hkeys : (members.map Prod.fst).Nodup) (seen : List String)
    (hseen : ∀ member ∈ members, member.1 ∉ seen) :
    form.fillMembers set seen (filled seen) (members.map fun (key, value) => (some key, value))
      = .ok ((members.map Prod.fst).reverse ++ seen,
          filled ((members.map Prod.fst).reverse ++ seen)) := by
  induction members generalizing seen with
  | nil => rfl
  | cons member members ih =>
    obtain ⟨key, value⟩ := member
    obtain ⟨hknown, hknowns⟩ := List.forall_mem_cons.mp hknown
    obtain ⟨hset, hsets⟩ := List.forall_mem_cons.mp hset
    obtain ⟨hseen, hseens⟩ := List.forall_mem_cons.mp hseen
    rw [List.map_cons, List.nodup_cons] at hkeys
    obtain ⟨hkey, hkeys⟩ := hkeys
    -- The key of the first member is now used up, and no other member has it.
    have hfresh : ∀ member ∈ members, member.1 ∉ key :: seen := by
      intro member hmem hmem'
      rcases List.mem_cons.mp hmem' with heq | hmem'
      · have hkey' : member.1 ∈ members.map Prod.fst := List.mem_map_of_mem hmem
        exact hkey (heq ▸ hkey')
      · exact hseens member hmem hmem'
    have hrest := ih hknowns hsets hkeys (key :: seen) hfresh
    rw [List.map_cons, fillMembers, if_pos hknown, if_neg hseen, hset]
    simpa [bind, Except.bind] using hrest

/-- An object that fills every field that must be there is read as the record. -/
theorem decode_object_eq_ok {presentation : Presentation} {room : Nat} {blank record : ρ}
    {members : List (Option String × Json)} {seen : List String}
    (hfill : form.fillMembers set [] blank members = .ok (seen, record))
    (hrequired : ∀ field ∈ form.fields, field.inObject = true → field.name ∈ seen) :
    form.decode presentation (room + 1) blank set (.object members true) = .ok record := by
  have hfind : form.fields.find? (fun field => field.inObject && decide (field.name ∉ seen))
      = none := by
    simpa using hrequired
  rw [decode, if_neg (Nat.succ_ne_zero room), hfill]
  simp only [bind, Except.bind, hfind]
  rfl

/-- What fills a strict record has only known keys, and each one once. -/
theorem exists_keys_of_fillMembers (hstrict : form.strict = true) {seen : List String} {record : ρ}
    {members : List (Option String × Json)} {result : List String × ρ}
    (h : form.fillMembers set seen record members = .ok result) :
    ∃ keys : List String, members.map Prod.fst = keys.map some ∧ keys.Nodup ∧
      ∀ key ∈ keys, key ∈ form.keys ∧ key ∉ seen := by
  induction members generalizing seen record with
  | nil => exact ⟨[], rfl, List.nodup_nil, List.forall_mem_nil _⟩
  | cons member members ih =>
    obtain ⟨key?, value⟩ := member
    cases key? with
    | none => exact absurd h (by simp [fillMembers])
    | some key =>
      rw [fillMembers] at h
      -- A strict reading fails at a key that is unknown or was seen before.
      split at h
      case isFalse => exact absurd h (by simp)
      case isTrue hknown =>
        split at h
        case isTrue => exact absurd h (by simp)
        case isFalse hseen =>
          obtain ⟨record', -, hrest⟩ := bind_eq_ok_iff.mp h
          obtain ⟨keys, hmembers, hnodup, hkeys⟩ := ih hrest
          have hkey : key ∉ keys := fun hmem => (hkeys key hmem).2 List.mem_cons_self
          refine ⟨key :: keys, ?_, List.nodup_cons.mpr ⟨hkey, hnodup⟩, ?_⟩
          · rw [List.map_cons, List.map_cons, hmembers]
          · refine List.forall_mem_cons.mpr ⟨⟨hknown, hseen⟩, fun other hmem => ?_⟩
            obtain ⟨hother, hother'⟩ := hkeys other hmem
            exact ⟨hother, List.not_mem_of_not_mem_cons hother'⟩

/-- Every member with a known key has filled a field. -/
theorem exists_set_of_mem {seen : List String} {record : ρ}
    {members : List (Option String × Json)} {result : List String × ρ}
    (h : form.fillMembers set seen record members = .ok result) {key : String} {value : Json}
    (hmember : (some key, value) ∈ members) (hkey : key ∈ form.keys) :
    ∃ before after, set before key value = .ok after := by
  induction members generalizing seen record with
  | nil => exact absurd hmember List.not_mem_nil
  | cons member members ih =>
    obtain ⟨key', value'⟩ := member
    cases key' with
    | none => exact absurd h (by simp [fillMembers])
    | some key' =>
      rw [fillMembers] at h
      split at h
      -- A known key is seen for the first time, or the reading fails.
      case isTrue =>
        split at h
        · exact absurd h (by simp)
        · obtain ⟨record', hset, hrest⟩ := bind_eq_ok_iff.mp h
          rcases List.mem_cons.mp hmember with heq | hmember
          · injection heq with hkey' hvalue
            obtain rfl := Option.some.inj hkey'
            obtain rfl := hvalue
            exact ⟨record, record', hset⟩
          · exact ih hrest hmember
      case isFalse hunknown =>
        rcases List.mem_cons.mp hmember with heq | hmember
        · injection heq with hkey' _
          obtain rfl := Option.some.inj hkey'
          exact absurd hkey hunknown
        · split at h
          · exact absurd h (by simp)
          · split at h
            · exact ih h hmember
            · exact absurd h (by simp)

/-- Every item that a field waits for has filled it. -/
theorem exists_set_of_getElem? {closed : Bool} {index : Nat} {record : ρ} {fields : List Field}
    {items : List Json} {result : ρ × List Json}
    (h : form.fillItems set closed index record fields items = .ok result) {i : Nat}
    {field : Field} {item : Json} (hfield : fields[i]? = some field)
    (hitem : items[i]? = some item) :
    ∃ before after, set before field.name item = .ok after := by
  induction fields generalizing index record items i with
  | nil => exact absurd hfield (by simp)
  | cons first fields ih =>
    cases items with
    | nil => exact absurd hitem (by simp)
    | cons next items =>
      obtain ⟨record', hset, hrest⟩ := bind_eq_ok_iff.mp h
      -- The first item fills the first field.
      cases i with
      | zero =>
        obtain rfl := Option.some.inj hfield
        obtain rfl := Option.some.inj hitem
        exact ⟨record, record', hset⟩
      | succ i => exact ih hrest hfield hitem

/-- A record is read from an object of which all its fields are filled, or from an array. -/
theorem exists_fill_of_decode {presentation : Presentation} {room : Nat} {blank record : ρ}
    {j : Json} (h : form.decode presentation room blank set j = .ok record) :
    (∃ members result, j = .object members true ∧
      form.fillMembers set [] blank members = .ok result) ∨
    ∃ items result, j = .array items true ∧
      form.fillItems set true 0 blank form.fields items = .ok result := by
  -- Only objects and arrays are records, and both have to end.
  cases j with
  | object members closed =>
    rw [decode] at h
    split at h
    · exact absurd h (by simp)
    · obtain ⟨result, hfill, h⟩ := bind_eq_ok_iff.mp h
      cases closed with
      | false => exact absurd h (by simp)
      | true => exact .inl ⟨members, result, rfl, hfill⟩
  | array items closed =>
    rw [decode] at h
    split at h
    · exact absurd h (by simp)
    · obtain ⟨⟨record', rest⟩, hfill, h⟩ := bind_eq_ok_iff.mp h
      cases closed with
      | true => exact .inr ⟨items, _, rfl, hfill⟩
      | false =>
        cases rest with
        | nil => exact absurd h (by simp)
        | cons _ _ => cases presentation <;> exact absurd h (by simp)
  | _ => exact absurd h (by simp [decode])

end RecordForm

end ODataQuery.Json
