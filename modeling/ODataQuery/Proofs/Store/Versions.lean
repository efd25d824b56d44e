import ODataQuery.Proofs.Json.Rearranged
import ODataQuery.Proofs.Store.Records

/-!
# Contexts of other versions

The text of a stored context may have been written by another version: with its members in another
order, with members that this version does not know, and without some of the compile options.
`Context.Revises` lists these differences. Each of them keeps the context but for the options that
it takes away (`Context.read_of_revises`), while a text without any other member is refused
(`Context.read_of_missing`).

Both rest on what one member does to a record (`Edits`): it replaces one field by a value that
depends on nothing else, so it does not matter when this is done.
-/

namespace ODataQuery

open Json

variable {presentation : Presentation} {room : Nat} {key : String} {value : Json}
  {members members' : List (Option String × Json)}

/-! ## Compile options

Both options may be absent, and then they are off. What a member does to them is one of three edits,
and two edits with different keys commute. -/

namespace CompileOptions

/-- The options with those of the lost keys at their defaults. -/
def without (options : CompileOptions) (lost : List String) : CompileOptions where
  legacyContainsFallback := options.legacyContainsFallback && "legacy_contains_fallback" ∉ lost
  rejectEmptyMultiSelect := options.rejectEmptyMultiSelect && "reject_empty_multi_select" ∉ lost

@[simp] theorem without_nil (options : CompileOptions) : options.without [] = options := by
  simp [without]

@[simp] theorem without_without (options : CompileOptions) (lost lost' : List String) :
    (options.without lost).without lost' = options.without (lost ++ lost') := by
  simp [without, Bool.and_assoc]

@[simp] theorem without_keys (options : CompileOptions) : options.without form.keys = {} := by
  simp [without, form, RecordForm.keys, Field.optional]

/-- What a member with this key and value does to options. -/
inductive Edits : String → Json → (CompileOptions → CompileOptions) → Prop where
  | fallback {value : Json} {b : Bool} (h : asBool value = .ok b) :
    Edits "legacy_contains_fallback" value ({ · with legacyContainsFallback := b })
  | rejectEmpty {value : Json} {b : Bool} (h : asBool value = .ok b) :
    Edits "reject_empty_multi_select" value ({ · with rejectEmptyMultiSelect := b })
  | unknown {key : String} {value : Json} (h : key ∉ form.keys) : Edits key value id

theorem setField_of_not_mem (h : key ∉ form.keys) (options : CompileOptions) (value : Json) :
    setField options key value = .ok options := by
  unfold setField
  split
  case h_3 => rfl
  all_goals exact absurd (by decide) h

/-- Filling a field is an edit of the options. -/
theorem setField_eq_ok_iff {options options' : CompileOptions} :
    setField options key value = .ok options' ↔
      ∃ edit, Edits key value edit ∧ edit options = options' := by
  constructor
  · intro h
    unfold setField at h
    split at h
    · obtain ⟨b, hread, heq⟩ := bind_eq_ok_iff.mp h
      exact ⟨_, .fallback hread, Except.ok.inj heq⟩
    · obtain ⟨b, hread, heq⟩ := bind_eq_ok_iff.mp h
      exact ⟨_, .rejectEmpty hread, Except.ok.inj heq⟩
    · -- The key is neither of the two.
      next hfallback hreject =>
      have hkey : ¬ key ∈ form.keys := by
        simpa [form, RecordForm.keys, Field.optional] using ⟨hfallback, hreject⟩
      exact ⟨id, .unknown hkey, Except.ok.inj h⟩
  · rintro ⟨edit, hedit, rfl⟩
    cases hedit with
    | fallback hread => exact bind_eq_ok_iff.mpr ⟨_, hread, rfl⟩
    | rejectEmpty hread => exact bind_eq_ok_iff.mpr ⟨_, hread, rfl⟩
    | unknown hkey => exact setField_of_not_mem hkey options value

/-- Edits of options with different keys commute. -/
theorem Edits.comm {key' : String} {value' : Json} {edit edit' : CompileOptions → CompileOptions}
    (hne : key ≠ key') (h : Edits key value edit) (h' : Edits key' value' edit')
    (options : CompileOptions) : edit' (edit options) = edit (edit' options) := by
  cases h <;> cases h' <;> first | rfl | exact absurd rfl hne

theorem fieldsCommute : FieldsCommute setField := .of_edits setField_eq_ok_iff Edits.comm

/-- An option is lost alike before and after another one is set. -/
theorem Edits.without_of_ne {other : String} {edit : CompileOptions → CompileOptions}
    (hne : key ≠ other) (h : Edits key value edit) (options : CompileOptions) :
    (edit options).without [other] = edit (options.without [other]) := by
  cases h with
  | fallback | rejectEmpty => simp [without, hne]
  | unknown => rfl

/-- What an option was set to is lost with it. -/
theorem Edits.without_self {edit : CompileOptions → CompileOptions} (h : Edits key value edit)
    (options : CompileOptions) : (edit options).without [key] = options.without [key] := by
  cases h with
  | fallback | rejectEmpty => simp [without]
  | unknown => rfl

/-- Options are read from an object that fills them. -/
theorem read_object_eq_ok_iff {options : CompileOptions} :
    read presentation room (.object members true) = .ok options ↔
      room ≠ 0 ∧ form.Fills setField {} members options := by
  have hoptional : ∀ field ∈ form.fields, field.inObject = true →
      field.name ∈ form.knownKeys members := by
    simp [form, Field.optional]
  rw [read, RecordForm.decode_object_eq_ok_iff rfl, and_iff_left hoptional]

theorem read_rearranged {options : CompileOptions} (h : Rearranges form.keys members members')
    (hread : read presentation room (.object members true) = .ok options) :
    read presentation room (.object members' true) = .ok options :=
  RecordForm.decode_object_rearranged rfl fieldsCommute h hread

/-- Without its member an option has its default. -/
theorem read_without_member {options : CompileOptions} (hkey : key ∈ form.keys)
    (hread : read presentation room (.object ((some key, value) :: members) true) = .ok options) :
    read presentation room (.object members true) = .ok (options.without [key]) := by
  rw [read_object_eq_ok_iff] at hread ⊢
  obtain ⟨hroom, hfills⟩ := hread
  have hothers : ∀ {options after : CompileOptions} {other : String} {value : Json}, other ≠ key →
      setField options other value = .ok after → options.without [key] = options →
        after.without [key] = after := by
    intro options after other value hne hset hkeep
    obtain ⟨edit, hedit, rfl⟩ := setField_eq_ok_iff.mp hset
    rw [hedit.without_of_ne hne, hkeep]
  obtain ⟨before, hbefore, hwithout, hset⟩ :=
    hfills.without_member fieldsCommute hkey (by simp [without]) hothers
  obtain ⟨edit, hedit, rfl⟩ := setField_eq_ok_iff.mp hset
  rw [hedit.without_self, hwithout]
  exact ⟨hroom, hbefore⟩

end CompileOptions

/-! ## Contexts

A context has seven members with keys of its own, of which only the compile options may be absent.
All others are edits of one field each. -/

namespace Context

/-- What a member with this key and value does to a context. -/
inductive Edits (presentation : Presentation) (room : Nat) :
    String → Json → (Context → Context) → Prop where
  | name {value : Json} {s : String} (h : asString value = .ok s) :
    Edits presentation room "name" value ({ · with name := s })
  | base {value : Json} {s : String} (h : asString value = .ok s) :
    Edits presentation room "url_base" value ({ · with base := s })
  | version {value : Json} {s : String} (h : asString value = .ok s) :
    Edits presentation room "odata_version" value ({ · with version := s })
  | maxVersion {value : Json} {s : String} (h : asString value = .ok s) :
    Edits presentation room "odata_max_version" value ({ · with maxVersion := s })
  | pageSize {value : Json} {n : UInt32} (h : asWord value = .ok n) :
    Edits presentation room "page_size" value ({ · with pageSize := n })
  | useSkipTokens {value : Json} {b : Bool} (h : asBool value = .ok b) :
    Edits presentation room "use_skip_tokens" value ({ · with useSkipTokens := b })
  | options {value : Json} {options : CompileOptions}
    (h : CompileOptions.read presentation room value = .ok options) :
    Edits presentation room "compile_options" value ({ · with options := options })
  | unknown {key : String} {value : Json} (h : key ∉ form.keys) :
    Edits presentation room key value id

theorem setField_of_not_mem (h : key ∉ form.keys) (context : Context) (value : Json) :
    setField presentation room context key value = .ok context := by
  unfold setField
  split
  case h_8 => rfl
  all_goals exact absurd (by decide) h

/-- Filling a field is an edit of the context. -/
theorem setField_eq_ok_iff {context context' : Context} :
    setField presentation room context key value = .ok context' ↔
      ∃ edit, Edits presentation room key value edit ∧ edit context = context' := by
  constructor
  · intro h
    unfold setField at h
    split at h
    case h_8 hname hbase hversion hmaxVersion hpageSize huseSkipTokens hoptions =>
      have hkey : ¬ key ∈ form.keys := by
        simpa [form, RecordForm.keys, Field.required, Field.optional] using
          ⟨hname, hbase, hversion, hmaxVersion, hpageSize, huseSkipTokens, hoptions⟩
      exact ⟨id, .unknown hkey, Except.ok.inj h⟩
    all_goals obtain ⟨part, hread, heq⟩ := bind_eq_ok_iff.mp h
    · exact ⟨_, .name hread, Except.ok.inj heq⟩
    · exact ⟨_, .base hread, Except.ok.inj heq⟩
    · exact ⟨_, .version hread, Except.ok.inj heq⟩
    · exact ⟨_, .maxVersion hread, Except.ok.inj heq⟩
    · exact ⟨_, .pageSize hread, Except.ok.inj heq⟩
    · exact ⟨_, .useSkipTokens hread, Except.ok.inj heq⟩
    · exact ⟨_, .options hread, Except.ok.inj heq⟩
  · rintro ⟨edit, hedit, rfl⟩
    cases hedit with
    | unknown hkey => exact setField_of_not_mem hkey context value
    | _ hread => exact bind_eq_ok_iff.mpr ⟨_, hread, rfl⟩

/-- Edits of contexts with different keys commute. -/
theorem Edits.comm {key' : String} {value' : Json} {edit edit' : Context → Context}
    (hne : key ≠ key') (h : Edits presentation room key value edit)
    (h' : Edits presentation room key' value' edit') (context : Context) :
    edit' (edit context) = edit (edit' context) := by
  cases h <;> cases h' <;> first | rfl | exact absurd rfl hne

theorem fieldsCommute : FieldsCommute (setField presentation room) :=
  .of_edits setField_eq_ok_iff Edits.comm

/-- No other member sets the compile options. -/
theorem Edits.options_of_ne {edit : Context → Context} (hne : key ≠ "compile_options")
    (h : Edits presentation room key value edit) (context : Context) :
    (edit context).options = context.options := by
  cases h with
  | options => exact absurd rfl hne
  | _ => rfl

/-- The keys of the members that every context has. -/
def requiredKeys : List String :=
  ["name", "url_base", "odata_version", "odata_max_version", "page_size", "use_skip_tokens"]

/-- A context is read from an object that fills it and has all required members. -/
theorem read_object_eq_ok_iff {context : Context} :
    read presentation room (.object members true) = .ok context ↔
      room ≠ 0 ∧
        form.Fills (setField presentation (room - 1)) { name := "", base := "" } members context ∧
        ∀ key ∈ requiredKeys, key ∈ form.knownKeys members := by
  have hrequired :
      (∀ field ∈ form.fields, field.inObject = true → field.name ∈ form.knownKeys members) ↔
        ∀ key ∈ requiredKeys, key ∈ form.knownKeys members := by
    simp [requiredKeys, form, Field.required, Field.optional]
  rw [read, RecordForm.decode_object_eq_ok_iff rfl, hrequired]

/-! ## Other versions

What another version may do to a text is generated by four kinds of differences, so that the results
below are inductions over them. -/

/-- The second members are the first ones as another version may write them: rearranged, with its
compile options rearranged, or without one of these or all of them. The options that are lost on the
way are listed by their keys. -/
inductive Revises : (lost : List String) → List (Option String × Json) →
    List (Option String × Json) → Prop where
  | rearranged {members members' : List (Option String × Json)}
    (h : Rearranges form.keys members members') : Revises [] members members'
  | optionsRearranged {options options' members : List (Option String × Json)}
    (h : Rearranges CompileOptions.form.keys options options') :
    Revises [] ((some "compile_options", .object options true) :: members)
      ((some "compile_options", .object options' true) :: members)
  | withoutOption {key : String} {value : Json} {options members : List (Option String × Json)}
    (hkey : key ∈ CompileOptions.form.keys) :
    Revises [key] ((some "compile_options", .object ((some key, value) :: options) true) :: members)
      ((some "compile_options", .object options true) :: members)
  | withoutOptions {value : Json} {members : List (Option String × Json)} :
    Revises CompileOptions.form.keys ((some "compile_options", value) :: members) members
  | trans {lost lost' : List String} {members members' members'' : List (Option String × Json)}
    (h : Revises lost members members') (h' : Revises lost' members' members'') :
    Revises (lost ++ lost') members members''

/-- A change of what the compile options are read from changes them in the context. -/
theorem read_of_options {value' : Json} {context : Context}
    {change : CompileOptions → CompileOptions}
    (hvalue : ∀ {options}, CompileOptions.read presentation (room - 1) value = .ok options →
      CompileOptions.read presentation (room - 1) value' = .ok (change options))
    (hread : read presentation room (.object ((some "compile_options", value) :: members) true)
      = .ok context) :
    read presentation room (.object ((some "compile_options", value') :: members) true)
      = .ok { context with options := change context.options } := by
  have hkey : "compile_options" ∈ form.keys := by decide
  rw [read_object_eq_ok_iff, RecordForm.knownKeys_cons_of_mem hkey,
    RecordForm.fills_cons_iff fieldsCommute hkey] at hread ⊢
  obtain ⟨hroom, ⟨hfresh, before, hbefore, hset⟩, hrequired⟩ := hread
  -- The options are filled last, so the other fields are the same before and after.
  obtain ⟨options, hoptions, heq⟩ := bind_eq_ok_iff.mp hset
  obtain rfl := Except.ok.inj heq
  have hset' : setField presentation (room - 1) before "compile_options" value'
      = .ok { before with options := change options } :=
    bind_eq_ok_iff.mpr ⟨_, hvalue hoptions, rfl⟩
  exact ⟨hroom, ⟨hfresh, before, hbefore, hset'⟩, hrequired⟩

/-- Without their member the compile options are the default ones. -/
theorem read_without_options {context : Context}
    (hread : read presentation room (.object ((some "compile_options", value) :: members) true)
      = .ok context) :
    read presentation room (.object members true) = .ok { context with options := {} } := by
  have hkey : "compile_options" ∈ form.keys := by decide
  rw [read_object_eq_ok_iff, RecordForm.knownKeys_cons_of_mem hkey] at hread
  obtain ⟨hroom, hfills, hrequired⟩ := hread
  -- No other member touches the options, so without theirs they keep their defaults.
  have hothers : ∀ {context after : Context} {other : String} {value : Json},
      other ≠ "compile_options" →
        setField presentation (room - 1) context other value = .ok after →
          context.options = {} → after.options = {} := by
    intro context after other value hne hset hkeep
    obtain ⟨edit, hedit, rfl⟩ := setField_eq_ok_iff.mp hset
    rw [hedit.options_of_ne hne, hkeep]
  obtain ⟨before, hbefore, hdefault, hset⟩ :=
    hfills.without_member (P := fun context => context.options = {}) fieldsCommute hkey rfl hothers
  obtain ⟨options, -, heq⟩ := bind_eq_ok_iff.mp hset
  obtain rfl := Except.ok.inj heq
  rw [read_object_eq_ok_iff]
  refine ⟨hroom, ?_, fun key hmem => ?_⟩
  · have hkept : { before with options := {} } = before := by rw [← hdefault]
    show form.Fills _ _ members { before with options := {} }
    rwa [hkept]
  · have hne : key ≠ "compile_options" := by
      rintro rfl
      exact absurd hmem (by decide)
    exact List.mem_of_ne_of_mem hne (hrequired key hmem)

/-- A context is read from what another version writes for it, but for the lost options. Induction
on the differences. -/
theorem read_of_revises {lost : List String} (h : Revises lost members members')
    {context : Context} (hread : read presentation room (.object members true) = .ok context) :
    read presentation room (.object members' true)
      = .ok { context with options := context.options.without lost } := by
  -- One case for each kind of difference.
  induction h generalizing context with
  | rearranged h =>
    rw [CompileOptions.without_nil]
    exact RecordForm.decode_object_rearranged rfl fieldsCommute h hread
  | optionsRearranged h =>
    rw [CompileOptions.without_nil]
    exact read_of_options (fun hoptions => CompileOptions.read_rearranged h hoptions) hread
  | withoutOption hkey =>
    exact read_of_options (fun hoptions => CompileOptions.read_without_member hkey hoptions) hread
  | withoutOptions =>
    rw [CompileOptions.without_keys]
    exact read_without_options hread
  | trans _ _ ih ih' =>
    rw [ih' (ih hread), CompileOptions.without_without]

/-- A text without one of the required members is refused for it. -/
theorem read_of_missing {context : Context} (hkey : key ∈ requiredKeys)
    (hread : read presentation room (.object ((some key, value) :: members) true) = .ok context) :
    read presentation room (.object members true)
      = .error (.mismatch (.missingField key)) := by
  have hknown : ∀ key ∈ requiredKeys, key ∈ form.keys := by decide
  rw [read_object_eq_ok_iff, RecordForm.knownKeys_cons_of_mem (hknown key hkey),
    RecordForm.fills_cons_iff fieldsCommute (hknown key hkey)] at hread
  obtain ⟨hroom, ⟨hfresh, before, hbefore, -⟩, hrequired⟩ := hread
  have hfield : ∀ key ∈ requiredKeys, Field.required key ∈ form.fields := by decide
  have hothers : ∀ field ∈ form.fields, field.inObject = true → field.name ∈ requiredKeys := by
    decide
  refine hbefore.decode_object_missing rfl hroom (hfield key hkey) rfl hfresh ?_
  intro other hother hin hne
  exact List.mem_of_ne_of_mem hne (hrequired other.name (hothers other hother hin))

/-! ## Texts

The same for texts: two trees that differ in this way may be spelled in any way. -/

/-- What another version writes for a context is read as the context. In whatever order its members
stand, and those of its compile options, and whatever members it has besides, on either level and of
any depth, it is read as the context that the first text is read as. Compile options that it does
not have are off, and nothing else changes with them. Without one of the required members it is
refused for that. -/
theorem readable_across_versions {text : String} {members : List (Option String × Json)}
    {context : Context} (hspelled : (Json.object members true).SpelledBy text)
    (hread : Context.read.ofText text = .ok context) :
    (∀ (members' : List (Option String × Json)) (text' : String), Revises [] members members' →
      (Json.object members' true).SpelledBy text' → Context.read.ofText text' = .ok context) ∧
    (∀ (lost : List String) (members' : List (Option String × Json)) (text' : String),
      Revises lost members members' → (Json.object members' true).SpelledBy text' →
      Context.read.ofText text'
        = .ok { context with options := context.options.without lost }) ∧
    ∀ (lost : List String) (key : String) (value : Json) (rest : List (Option String × Json))
      (text' : String), key ∈ requiredKeys → Revises lost members ((some key, value) :: rest) →
      (Json.object rest true).SpelledBy text' →
      Context.read.ofText text' = .error (.mismatch (.missingField key)) := by
  rw [Context.read.ofText_of_spelledBy hspelled] at hread
  refine ⟨fun members' text' h hspelled' => ?_, fun lost members' text' h hspelled' => ?_,
    fun lost key value rest text' hkey h hspelled' => ?_⟩
  · rw [Context.read.ofText_of_spelledBy hspelled', read_of_revises h hread,
      CompileOptions.without_nil]
  · rw [Context.read.ofText_of_spelledBy hspelled', read_of_revises h hread]
  · rw [Context.read.ofText_of_spelledBy hspelled', read_of_missing hkey (read_of_revises h hread)]

/-- A context with other settings than the usual ones. -/
def customContext : Context where
  name := "dev"
  base := "https://host"
  pageSize := 10
  useSkipTokens := true
  options := { legacyContainsFallback := true, rejectEmptyMultiSelect := true }

/-- The members of its text but for the compile options, as an older version wrote them. -/
def olderMembers : List (Option String × Json) :=
  [(some "name", .text "dev"), (some "url_base", .text "https://host"),
   (some "odata_version", .text "4.0"), (some "odata_max_version", .text "4.0"),
   (some "page_size", .nat 10), (some "use_skip_tokens", .bool true)]

/-- The members of its compile options. -/
def customOptions : List (Option String × Json) :=
  [(some "legacy_contains_fallback", .bool true), (some "reject_empty_multi_select", .bool true)]

/-- The members of its text backwards, with unknown ones on both levels and one key there twice. -/
def newerMembers : List (Option String × Json) :=
  (some "v", .list [.list [], .nat 18446744073709551616]) :: (some "v", .null) ::
    (some "compile_options",
      .object ((some "v", .record [("name", .nat 0)]) :: customOptions.reverse) true) ::
    olderMembers.reverse

/-- The newer version has the members of the older one and more. -/
theorem revises_newerMembers :
    Revises [] (olderMembers ++ [(some "compile_options", .object customOptions true)])
      newerMembers := by
  have hoptions : Rearranges CompileOptions.form.keys customOptions
      ((some "v", .record [("name", .nat 0)]) :: customOptions.reverse) :=
    .trans (.reorder (List.reverse_perm _).symm) (.add (by decide) rfl)
  have hunknown : Rearranges form.keys
      ((some "compile_options",
        .object ((some "v", .record [("name", .nat 0)]) :: customOptions.reverse) true) ::
        olderMembers.reverse) newerMembers :=
    .trans (.add (by decide) rfl) (.add (by decide) rfl)
  refine .trans (.rearranged (.reorder (List.reverse_perm _).symm)) ?_
  exact .trans (.optionsRearranged hoptions) (.rearranged hunknown)

/-- The newer text says the same, the older one has the default options, and one without a name is
refused. -/
theorem readable_across_versions_custom :
    Context.read.ofText customContext.toText = .ok customContext ∧
    Context.read.ofText (Json.object newerMembers true).toText = .ok customContext ∧
    Context.read.ofText (Json.object olderMembers true).toText
      = .ok { customContext with options := {} } ∧
    Context.read.ofText (Json.object olderMembers.tail true).toText
      = .error (.mismatch (.missingField "name")) := by
  have hspelled : (Json.object
      (olderMembers ++ [(some "compile_options", .object customOptions true)]) true).SpelledBy
      customContext.toText := spelledBy_toText customContext.isPlain_toJson
  -- The options are taken to the front and lost there.
  have holder : Revises CompileOptions.form.keys
      (olderMembers ++ [(some "compile_options", .object customOptions true)]) olderMembers :=
    .trans (.rearranged (.reorder (List.perm_append_singleton _ _))) .withoutOptions
  have hnat : ∀ n, (Json.nat n).IsPlain := fun n => ⟨n, rfl⟩
  have holder_plain : (Json.object olderMembers true).IsPlain := by
    simp [olderMembers, IsPlain, MembersArePlain, hnat, Json.text]
  have hnewer_plain : (Json.object newerMembers true).IsPlain := by
    simp [newerMembers, olderMembers, customOptions, IsPlain, MembersArePlain, ArePlain, hnat,
      Json.list, Json.record, Json.text]
  obtain ⟨hsame, hlost, hmissing⟩ := readable_across_versions hspelled customContext.read_toText
  refine ⟨customContext.read_toText, ?_, ?_, ?_⟩
  · exact hsame _ _ revises_newerMembers (spelledBy_toText hnewer_plain)
  · exact hlost _ _ _ holder (spelledBy_toText holder_plain)
  · exact hmissing _ _ _ olderMembers.tail _ (by decide) holder
      (spelledBy_toText ⟨rfl, holder_plain.2.2.2⟩)

end Context

end ODataQuery
