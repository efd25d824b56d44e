import ODataQuery.Proofs.Json.Members

/-!
# Rearranged objects

The members of an object may stand in another order, and members that a record does not know may
come and go (`Rearranges`). A record that is not strict is read from such an object as before
(`RecordForm.decode_object_rearranged`). It depends on nothing but the members that it knows
(`RecordForm.fillMembers_eq_ok_iff`): each of them is there once, and they fill the record in any
order if filling one field does not interfere with filling another (`FieldsCommute`).

So any member can be taken to be the one that is filled last (`RecordForm.fills_cons_iff`), and the
record before that is what the object without the member says (`RecordForm.Fills.without_member`).
-/

namespace ODataQuery.Json

/-- The second members are the first ones in some order, with members added or removed whose keys
are not `known`. A key is a text, and so none of a text with half of a surrogate pair. -/
inductive Rearranges (known : List String) :
    List (Option String × Json) → List (Option String × Json) → Prop where
  | reorder {members members' : List (Option String × Json)} (h : members.Perm members') :
    Rearranges known members members'
  | add {key : String} {value : Json} {members : List (Option String × Json)} (hkey : key ∉ known)
    (hvalue : value.complete = true) : Rearranges known members ((some key, value) :: members)
  | remove {key : String} {value : Json} {members : List (Option String × Json)}
    (hkey : key ∉ known) : Rearranges known ((some key, value) :: members) members
  | trans {members members' members'' : List (Option String × Json)}
    (h : Rearranges known members members') (h' : Rearranges known members' members'') :
    Rearranges known members members''

/-- Two fields are filled in either order with the same result. -/
structure FieldsCommute {ρ : Type} (set : ρ → String → Json → Except Fault ρ) : Prop where
  swap {record first both : ρ} {key key' : String} {value value' : Json} (hne : key ≠ key')
    (hfirst : set record key value = .ok first) (hboth : set first key' value' = .ok both) :
    ∃ other, set record key' value' = .ok other ∧ set other key value = .ok both

/-- Fields commute if filling one is an edit that its key and value decide, and edits commute. -/
theorem FieldsCommute.of_edits {ρ : Type} {set : ρ → String → Json → Except Fault ρ}
    {Edits : String → Json → (ρ → ρ) → Prop}
    (hset : ∀ {record key value record'},
      set record key value = .ok record' ↔ ∃ edit, Edits key value edit ∧ edit record = record')
    (hcomm : ∀ {key key' value value' edit edit'}, key ≠ key' → Edits key value edit →
      Edits key' value' edit' → ∀ record, edit' (edit record) = edit (edit' record)) :
    FieldsCommute set := by
  refine ⟨fun {record first both key key' value value'} hne hfirst hboth => ?_⟩
  obtain ⟨edit, hedit, rfl⟩ := hset.mp hfirst
  obtain ⟨edit', hedit', rfl⟩ := hset.mp hboth
  refine ⟨edit' record, hset.mpr ⟨edit', hedit', rfl⟩, hset.mpr ⟨edit, hedit, ?_⟩⟩
  exact (hcomm hne hedit hedit' record).symm

namespace RecordForm

variable {ρ : Type} {form : RecordForm} {set : ρ → String → Json → Except Fault ρ}

/-! ## The members that a record knows

Members with unknown keys leave no trace in the record. They only have to be complete. -/

/-- The members that a record has a field for. -/
def knownMembers (form : RecordForm) (members : List (Option String × Json)) :
    List (String × Json) :=
  members.filterMap fun
    | (some key, value) => if key ∈ form.keys then some (key, value) else none
    | (none, _) => none

/-- The keys of these members. -/
def knownKeys (form : RecordForm) (members : List (Option String × Json)) : List String :=
  (form.knownMembers members).map Prod.fst

/-- The member has a key, and a value that can be skipped if the record has no field for it. -/
def Passes (form : RecordForm) (member : Option String × Json) : Prop :=
  ∃ key, member.1 = some key ∧ (key ∉ form.keys → member.2.complete = true)

theorem knownMembers_cons_of_mem {key : String} (hkey : key ∈ form.keys) (value : Json)
    (members : List (Option String × Json)) :
    form.knownMembers ((some key, value) :: members) = (key, value) :: form.knownMembers members :=
  List.filterMap_cons_some (if_pos hkey)

theorem knownMembers_cons_of_not_mem {key : String} (hkey : key ∉ form.keys) (value : Json)
    (members : List (Option String × Json)) :
    form.knownMembers ((some key, value) :: members) = form.knownMembers members :=
  List.filterMap_cons_none (if_neg hkey)

/-- Fills the record from known members, one after the other. -/
def fillKnown (set : ρ → String → Json → Except Fault ρ) (record : ρ)
    (members : List (String × Json)) : Except Fault ρ :=
  members.foldlM (fun record member => set record member.1 member.2) record

/-- The members make the record of a blank one: each field is filled once at most, and what it has
no field for is skipped. -/
structure Fills (form : RecordForm) (set : ρ → String → Json → Except Fault ρ) (blank : ρ)
    (members : List (Option String × Json)) (record : ρ) : Prop where
  passes : ∀ member ∈ members, form.Passes member
  nodup : (form.knownKeys members).Nodup
  filled : fillKnown set blank (form.knownMembers members) = .ok record

theorem knownKeys_cons_of_mem {key : String} (hkey : key ∈ form.keys) (value : Json)
    (members : List (Option String × Json)) :
    form.knownKeys ((some key, value) :: members) = key :: form.knownKeys members := by
  rw [knownKeys, knownMembers_cons_of_mem hkey]
  rfl

theorem knownKeys_cons_of_not_mem {key : String} (hkey : key ∉ form.keys) (value : Json)
    (members : List (Option String × Json)) :
    form.knownKeys ((some key, value) :: members) = form.knownKeys members := by
  rw [knownKeys, knownMembers_cons_of_not_mem hkey]
  rfl

theorem passes_iff_of_mem {key : String} (hkey : key ∈ form.keys) (value : Json) :
    form.Passes (some key, value) ↔ True :=
  iff_of_true ⟨key, rfl, fun hunknown => absurd hkey hunknown⟩ trivial

theorem passes_iff_of_not_mem {key : String} (hkey : key ∉ form.keys) (value : Json) :
    form.Passes (some key, value) ↔ value.complete = true := by
  constructor
  · rintro ⟨key', heq, hcomplete⟩
    obtain rfl := Option.some.inj heq
    exact hcomplete hkey
  · exact fun hcomplete => ⟨key, rfl, fun _ => hcomplete⟩

/-! ## Filling a record

A record that is not strict is filled by the members that it knows, in their order, and each of them
may be there once (`Fills`). All that is said below about order and about single members is said of
this. -/

/-- A member that is known fills its field, unless it was there before. -/
theorem fillMembers_cons_of_mem {key : String} (hkey : key ∈ form.keys) {value : Json}
    {seen : List String} {record : ρ} {members : List (Option String × Json)}
    {result : List String × ρ} :
    form.fillMembers set seen record ((some key, value) :: members) = .ok result ↔
      key ∉ seen ∧ ∃ record', set record key value = .ok record' ∧
        form.fillMembers set (key :: seen) record' members = .ok result := by
  rw [fillMembers, if_pos hkey]
  split
  · next hseen => exact iff_of_false (by rintro ⟨⟩) fun h => h.1 hseen
  · next hseen => rw [bind_eq_ok_iff, and_iff_right hseen]

/-- A member that is unknown is skipped. -/
theorem fillMembers_cons_of_not_mem (hstrict : form.strict = false) {key : String}
    (hkey : key ∉ form.keys) {value : Json} {seen : List String} {record : ρ}
    {members : List (Option String × Json)} {result : List String × ρ} :
    form.fillMembers set seen record ((some key, value) :: members) = .ok result ↔
      value.complete = true ∧ form.fillMembers set seen record members = .ok result := by
  rw [fillMembers, if_neg hkey, hstrict, if_neg Bool.false_ne_true]
  split
  · next hcomplete => rw [and_iff_right hcomplete]
  · next hcomplete => exact iff_of_false (by rintro ⟨⟩) fun h => hcomplete h.1

theorem fillKnown_cons {key : String} {value : Json} {record record' : ρ}
    {members : List (String × Json)} :
    fillKnown set record ((key, value) :: members) = .ok record' ↔
      ∃ next, set record key value = .ok next ∧ fillKnown set next members = .ok record' :=
  bind_eq_ok_iff

/-- What a record is filled with depends on the members that it knows. Induction on the members,
with some fields filled already. -/
theorem fillMembers_eq_ok_iff (hstrict : form.strict = false) {seen seen' : List String}
    {record record' : ρ} {members : List (Option String × Json)} (hseen : seen.Nodup) :
    form.fillMembers set seen record members = .ok (seen', record') ↔
      (∀ member ∈ members, form.Passes member) ∧
        fillKnown set record (form.knownMembers members) = .ok record' ∧
        seen' = (form.knownKeys members).reverse ++ seen ∧ seen'.Nodup := by
  induction members generalizing seen record with
  | nil =>
    have hnil : form.fillMembers set seen record [] = .ok (seen', record') ↔
        record = record' ∧ seen' = seen := by
      rw [fillMembers, Except.ok.injEq, Prod.mk.injEq, and_comm, eq_comm (a := seen)]
    rw [hnil]
    constructor
    · rintro ⟨rfl, rfl⟩
      exact ⟨List.forall_mem_nil _, rfl, rfl, hseen⟩
    · rintro ⟨-, hfilled, rfl, -⟩
      exact ⟨Except.ok.inj hfilled, rfl⟩
  | cons member members ih =>
    obtain ⟨key?, value⟩ := member
    cases key? with
    | none =>
      -- Such a key is neither read nor skipped.
      have hpasses : ¬ form.Passes (none, value) := by
        rintro ⟨_, ⟨⟩, _⟩
      exact iff_of_false (by rintro ⟨⟩) fun h => hpasses (h.1 _ List.mem_cons_self)
    | some key =>
      by_cases hkey : key ∈ form.keys
      · rw [fillMembers_cons_of_mem hkey, List.forall_mem_cons, passes_iff_of_mem hkey,
          true_and, knownKeys_cons_of_mem hkey, knownMembers_cons_of_mem hkey, fillKnown_cons,
          List.reverse_cons, List.append_assoc, List.singleton_append]
        constructor
        · rintro ⟨hfresh, next, hset, hfill⟩
          obtain ⟨hpasses, hfilled, hseen'⟩ := (ih (List.nodup_cons.mpr ⟨hfresh, hseen⟩)).mp hfill
          exact ⟨hpasses, ⟨next, hset, hfilled⟩, hseen'⟩
        · rintro ⟨hpasses, ⟨next, hset, hfilled⟩, rfl, hnodup⟩
          have hnext : (key :: seen).Nodup := (List.nodup_append.mp hnodup).2.1
          exact ⟨(List.nodup_cons.mp hnext).1, next, hset,
            (ih hnext).mpr ⟨hpasses, hfilled, rfl, hnodup⟩⟩
      · rw [fillMembers_cons_of_not_mem hstrict hkey, ih hseen, List.forall_mem_cons,
          passes_iff_of_not_mem hkey, knownKeys_cons_of_not_mem hkey,
          knownMembers_cons_of_not_mem hkey, and_assoc]

/-- From the beginning, the members are read if they fill the record. -/
theorem fillMembers_eq_ok_iff_fills (hstrict : form.strict = false) {seen : List String}
    {blank record : ρ} {members : List (Option String × Json)} :
    form.fillMembers set [] blank members = .ok (seen, record) ↔
      form.Fills set blank members record ∧ seen = (form.knownKeys members).reverse := by
  rw [fillMembers_eq_ok_iff hstrict List.nodup_nil, List.append_nil]
  constructor
  · rintro ⟨hpasses, hfilled, rfl, hnodup⟩
    exact ⟨⟨hpasses, (List.reverse_perm _).nodup_iff.mp hnodup, hfilled⟩, rfl⟩
  · rintro ⟨⟨hpasses, hnodup, hfilled⟩, rfl⟩
    exact ⟨hpasses, hfilled, rfl, (List.reverse_perm _).nodup_iff.mpr hnodup⟩

/-- An object whose members fill a record is read as it, or refused for the first field that should
be there. -/
theorem Fills.decode_object (hstrict : form.strict = false) {presentation : Presentation}
    {room : Nat} (hroom : room ≠ 0) {blank record : ρ} {members : List (Option String × Json)}
    (hfills : form.Fills set blank members record) :
    form.decode presentation room blank set (.object members true)
      = match form.fields.find? fun field =>
          field.inObject && field.name ∉ form.knownKeys members with
        | some field => .error (.mismatch (.missingField field.name))
        | none => .ok record := by
  have hfill := (fillMembers_eq_ok_iff_fills hstrict).mpr ⟨hfills, rfl⟩
  rw [decode, if_neg hroom, hfill]
  simp only [bind, Except.bind, List.mem_reverse]
  rfl

/-- An object is read as a record if and only if its members fill the record and every field that
must be there is filled. -/
theorem decode_object_eq_ok_iff (hstrict : form.strict = false) {presentation : Presentation}
    {room : Nat} {blank record : ρ} {members : List (Option String × Json)} :
    form.decode presentation room blank set (.object members true) = .ok record ↔
      room ≠ 0 ∧ form.Fills set blank members record ∧
        ∀ field ∈ form.fields, field.inObject = true → field.name ∈ form.knownKeys members := by
  constructor
  · intro h
    have hroom : room ≠ 0 := by
      rintro rfl
      exact absurd h nofun
    -- What was read was filled from an object.
    rcases exists_fill_of_decode h with ⟨_, ⟨seen, record'⟩, heq, hfill⟩ | ⟨_, _, heq, -⟩
    · injection heq with heq
      obtain ⟨hfills, -⟩ := (fillMembers_eq_ok_iff_fills hstrict).mp (heq ▸ hfill)
      rw [hfills.decode_object hstrict hroom] at h
      split at h
      · exact absurd h nofun
      · next hfind =>
        obtain rfl := Except.ok.inj h
        refine ⟨hroom, hfills, ?_⟩
        simpa using hfind
    · exact absurd heq nofun
  · rintro ⟨hroom, hfills, hrequired⟩
    have hfind : (form.fields.find? fun field =>
        field.inObject && field.name ∉ form.knownKeys members) = none := by
      simpa using hrequired
    rw [hfills.decode_object hstrict hroom, hfind]

/-- An object in which one field is missing is refused for that. -/
theorem Fills.decode_object_missing (hstrict : form.strict = false) {presentation : Presentation}
    {room : Nat} (hroom : room ≠ 0) {blank record : ρ} {members : List (Option String × Json)}
    (hfills : form.Fills set blank members record) {field : Field} (hfield : field ∈ form.fields)
    (hin : field.inObject = true) (hmissing : field.name ∉ form.knownKeys members)
    (hothers : ∀ other ∈ form.fields, other.inObject = true → other.name ≠ field.name →
      other.name ∈ form.knownKeys members) :
    form.decode presentation room blank set (.object members true)
      = .error (.mismatch (.missingField field.name)) := by
  rw [hfills.decode_object hstrict hroom]
  split
  · -- Of all fields that are required, only this one can be missing.
    next other hfind =>
    have hother := List.find?_some hfind
    rw [Bool.and_eq_true, decide_eq_true_eq] at hother
    have hname : other.name = field.name := Decidable.byContradiction fun hne =>
      hother.2 (hothers other (List.mem_of_find?_eq_some hfind) hother.1 hne)
    rw [hname]
  · next hfind =>
    -- Without a missing field the object would be read.
    have hnone := List.find?_eq_none.mp hfind field hfield
    exact absurd (by simp [hin, hmissing]) hnone

/-! ## The order of the members

Swapping two neighbours makes no difference if the fields commute, and every order comes from such
swaps. -/

/-- Members in another order fill the same record. -/
theorem fillKnown_perm (hcomm : FieldsCommute set) {members members' : List (String × Json)}
    (h : members.Perm members') (hkeys : (members.map Prod.fst).Nodup) {record record' : ρ}
    (hfilled : fillKnown set record members = .ok record') :
    fillKnown set record members' = .ok record' := by
  induction h generalizing record with
  | nil => exact hfilled
  | cons member _ ih =>
    obtain ⟨next, hset, hfilled⟩ := fillKnown_cons.mp hfilled
    exact fillKnown_cons.mpr ⟨next, hset, ih (List.nodup_cons.mp hkeys).2 hfilled⟩
  | swap member member' members =>
    obtain ⟨first, hfirst, hrest⟩ := fillKnown_cons.mp hfilled
    obtain ⟨both, hboth, hrest⟩ := fillKnown_cons.mp hrest
    have hne : member'.1 ≠ member.1 := by
      intro heq
      exact (List.nodup_cons.mp hkeys).1 (by simp [heq])
    -- The first two members fill different fields.
    obtain ⟨other, hother, hboth⟩ := hcomm.swap hne hfirst hboth
    exact fillKnown_cons.mpr ⟨other, hother, fillKnown_cons.mpr ⟨both, hboth, hrest⟩⟩
  | trans h _ ih ih' =>
    exact ih' ((h.map Prod.fst).nodup_iff.mp hkeys) (ih hkeys hfilled)

/-- Filling a record does not depend on the order of the members. -/
theorem Fills.perm (hcomm : FieldsCommute set) {blank record : ρ}
    {members members' : List (Option String × Json)} (hfills : form.Fills set blank members record)
    (h : members.Perm members') : form.Fills set blank members' record where
  passes member hmem := hfills.passes member (h.mem_iff.mpr hmem)
  nodup := ((h.filterMap _).map Prod.fst).nodup_iff.mp hfills.nodup
  filled := fillKnown_perm hcomm (h.filterMap _) hfills.nodup hfills.filled

/-- An unknown member can be taken away. -/
theorem fills_cons_of_not_mem {key : String} (hkey : key ∉ form.keys) {value : Json}
    {blank record : ρ} {members : List (Option String × Json)} :
    form.Fills set blank ((some key, value) :: members) record ↔
      value.complete = true ∧ form.Fills set blank members record := by
  constructor
  · rintro ⟨hpasses, hnodup, hfilled⟩
    obtain ⟨hvalue, hpasses⟩ := List.forall_mem_cons.mp hpasses
    rw [knownKeys_cons_of_not_mem hkey] at hnodup
    rw [knownMembers_cons_of_not_mem hkey] at hfilled
    exact ⟨(passes_iff_of_not_mem hkey value).mp hvalue, hpasses, hnodup, hfilled⟩
  · rintro ⟨hvalue, hpasses, hnodup, hfilled⟩
    refine ⟨List.forall_mem_cons.mpr ⟨(passes_iff_of_not_mem hkey value).mpr hvalue, hpasses⟩,
      ?_, ?_⟩
    · rwa [knownKeys_cons_of_not_mem hkey]
    · rwa [knownMembers_cons_of_not_mem hkey]

/-- A rearranged object fills the same record. -/
theorem Fills.rearranged (hcomm : FieldsCommute set) {blank record : ρ}
    {members members' : List (Option String × Json)} (hfills : form.Fills set blank members record)
    (h : Rearranges form.keys members members') : form.Fills set blank members' record := by
  induction h with
  | reorder h => exact hfills.perm hcomm h
  | add hkey hvalue => exact (fills_cons_of_not_mem hkey).mpr ⟨hvalue, hfills⟩
  | remove hkey => exact ((fills_cons_of_not_mem hkey).mp hfills).2
  | trans _ _ ih ih' => exact ih' (ih hfills)

/-- Rearranged objects have the same known keys. -/
theorem mem_knownKeys_rearranged {members members' : List (Option String × Json)}
    (h : Rearranges form.keys members members') {key : String} :
    key ∈ form.knownKeys members' ↔ key ∈ form.knownKeys members := by
  induction h with
  | reorder h => exact ((h.filterMap _).map Prod.fst).mem_iff.symm
  | add hkey _ | remove hkey => rw [knownKeys_cons_of_not_mem hkey]
  | trans _ _ ih ih' => rw [ih', ih]

/-- A rearranged object is read as the same record. -/
theorem decode_object_rearranged (hstrict : form.strict = false) (hcomm : FieldsCommute set)
    {presentation : Presentation} {room : Nat} {blank record : ρ}
    {members members' : List (Option String × Json)} (h : Rearranges form.keys members members')
    (hread : form.decode presentation room blank set (.object members true) = .ok record) :
    form.decode presentation room blank set (.object members' true) = .ok record := by
  rw [decode_object_eq_ok_iff hstrict] at hread ⊢
  obtain ⟨hroom, hfills, hrequired⟩ := hread
  refine ⟨hroom, hfills.rearranged hcomm h, fun field hfield hin => ?_⟩
  exact (mem_knownKeys_rearranged h).mpr (hrequired field hfield hin)

/-! ## One member

Since the order does not matter, a member can be taken to the end. Then the record before it is what
the object without it says. -/

theorem fillKnown_concat {key : String} {value : Json} {record record' : ρ}
    {members : List (String × Json)} :
    fillKnown set record (members ++ [(key, value)]) = .ok record' ↔
      ∃ before, fillKnown set record members = .ok before ∧ set before key value = .ok record' := by
  simp [fillKnown, List.foldlM_append, bind_eq_ok_iff]

/-- A member can be taken to be the last one that is filled. -/
theorem fills_cons_iff (hcomm : FieldsCommute set) {key : String} (hkey : key ∈ form.keys)
    {value : Json} {blank record : ρ} {members : List (Option String × Json)} :
    form.Fills set blank ((some key, value) :: members) record ↔
      key ∉ form.knownKeys members ∧
        ∃ before, form.Fills set blank members before ∧ set before key value = .ok record := by
  -- The member is moved behind all others.
  have hperm : ((key, value) :: form.knownMembers members).Perm
      (form.knownMembers members ++ [(key, value)]) := (List.perm_append_singleton _ _).symm
  constructor
  · rintro ⟨hpasses, hnodup, hfilled⟩
    rw [knownKeys_cons_of_mem hkey] at hnodup
    rw [knownMembers_cons_of_mem hkey] at hfilled
    obtain ⟨before, hbefore, hset⟩ :=
      fillKnown_concat.mp (fillKnown_perm hcomm hperm hnodup hfilled)
    obtain ⟨hfresh, hnodup⟩ := List.nodup_cons.mp hnodup
    exact ⟨hfresh, before, ⟨(List.forall_mem_cons.mp hpasses).2, hnodup, hbefore⟩, hset⟩
  · rintro ⟨hfresh, before, ⟨hpasses, hnodup, hbefore⟩, hset⟩
    have hkeys : (((key, value) :: form.knownMembers members).map Prod.fst).Nodup :=
      List.nodup_cons.mpr ⟨hfresh, hnodup⟩
    have hfilled := fillKnown_concat.mpr ⟨before, hbefore, hset⟩
    refine ⟨List.forall_mem_cons.mpr ⟨(passes_iff_of_mem hkey value).mpr trivial, hpasses⟩, ?_, ?_⟩
    · rwa [knownKeys_cons_of_mem hkey]
    · rw [knownMembers_cons_of_mem hkey]
      exact fillKnown_perm hcomm hperm.symm ((hperm.map Prod.fst).nodup_iff.mp hkeys) hfilled

/-- What holds of a blank record, and is kept wherever a member fills a field, holds of the record
that the members fill. -/
theorem Fills.keeps {P : ρ → Prop} {blank record : ρ} {members : List (Option String × Json)}
    (hfills : form.Fills set blank members record) (hblank : P blank)
    (hset : ∀ {before after key value}, key ∈ form.knownKeys members →
      set before key value = .ok after → P before → P after) : P record := by
  obtain ⟨-, -, hfilled⟩ := hfills
  rw [knownKeys] at hset
  generalize form.knownMembers members = known at hset hfilled
  induction known generalizing blank with
  | nil =>
    obtain rfl := Except.ok.inj hfilled
    exact hblank
  | cons member known ih =>
    obtain ⟨next, hnext, hfilled⟩ := fillKnown_cons.mp hfilled
    have hkey : member.1 ∈ (member :: known).map Prod.fst := List.mem_cons_self
    exact ih (hset hkey hnext hblank) (fun hmem => hset (List.mem_cons_of_mem _ hmem)) hfilled

/-- What holds of a blank record, and is kept by all members but one, holds of the record that the
others fill. -/
theorem Fills.without_member (hcomm : FieldsCommute set) {key : String} (hkey : key ∈ form.keys)
    {P : ρ → Prop} {value : Json} {blank record : ρ} {members : List (Option String × Json)}
    (hfills : form.Fills set blank ((some key, value) :: members) record) (hblank : P blank)
    (hset : ∀ {before after other value}, other ≠ key →
      set before other value = .ok after → P before → P after) :
    ∃ before, form.Fills set blank members before ∧ P before ∧
      set before key value = .ok record := by
  obtain ⟨hfresh, before, hbefore, hlast⟩ := (fills_cons_iff hcomm hkey).mp hfills
  refine ⟨before, hbefore, hbefore.keeps hblank fun hmem => ?_, hlast⟩
  exact hset fun heq => hfresh (heq ▸ hmem)

end RecordForm

end ODataQuery.Json
