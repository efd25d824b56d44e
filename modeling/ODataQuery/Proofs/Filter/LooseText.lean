import ODataQuery.Filter.LooseReader
import ODataQuery.Proofs.Json.Members
import ODataQuery.Proofs.Json.Reading

/-!
# Loose filters as text

A loose filter is presented by objects whose members say what is there, in any order
(`LooseFilter.Presents`). Whatever text spells such an object is read as the filter, and a text that
is read as filters has only known members wherever it has one, none of them twice
(`LooseFilter.text_read_losslessly_and_strictly`).
-/

namespace ODataQuery.LooseFilter

open Json

/-! ## Objects that present a filter

An object presents a filter if each of its members says what the filter has there and all that the
filter has is said. What is absent may be left out or be said to be `null`. -/

/-- The keys of a filter. -/
def memberKeys : List String :=
  ["combinator", "field", "comparator", "value", "case_insensitive", "multi_select_values", "raw",
   "collection_operator", "group"]

/-- The parts of a filter that are texts, by their keys. -/
def texts (filter : LooseFilter) : List (String × Option String) :=
  [("combinator", filter.combinator), ("field", filter.field), ("comparator", filter.comparator),
   ("value", filter.value), ("raw", filter.raw), ("collection_operator", filter.quantifier)]

/-- The keys of the parts that are there. -/
def presentKeys (filter : LooseFilter) : List String :=
  (filter.texts.filter fun (_, text) => text.isSome).map Prod.fst
    ++ (if filter.caseInsensitive then ["case_insensitive"] else [])
    ++ (if filter.multiSelectValues.isSome then ["multi_select_values"] else [])
    ++ (if filter.group.isSome then ["group"] else [])

/-- What stands for a part that may be absent. -/
def orNull (part : Option Json) : Json := part.getD .null

mutual
/-- The object has a member for each part that is there, and whatever members it has say what the
filter is. Their order does not matter, and a part that is absent may be left out. -/
inductive Presents : LooseFilter → Json → Prop where
  | intro {filter : LooseFilter} {members : List (String × Json)}
    (hkeys : (members.map Prod.fst).Nodup)
    (hmembers : ∀ member ∈ members, Says filter member.1 member.2)
    (hpresent : ∀ key ∈ filter.presentKeys, key ∈ members.map Prod.fst) :
    Presents filter (.record members)

/-- The member with this key and value says what the filter has there. -/
inductive Says : LooseFilter → String → Json → Prop where
  | text {filter : LooseFilter} {key : String} {text : Option String}
    (h : (key, text) ∈ filter.texts) : Says filter key (orNull (text.map .text))
  | caseInsensitive {filter : LooseFilter} :
    Says filter "case_insensitive" (.bool filter.caseInsensitive)
  | multiSelectValues {filter : LooseFilter} :
    Says filter "multi_select_values"
      (orNull (filter.multiSelectValues.map fun values => .list (values.map .text)))
  | noGroup {filter : LooseFilter} (h : filter.group = none) : Says filter "group" .null
  | group {filter : LooseFilter} {children : List LooseFilter} {items : List Json}
    (h : filter.group = some children) (hitems : PresentsAll children items) :
    Says filter "group" (.list items)

/-- Each item presents the filter in its place. -/
inductive PresentsAll : List LooseFilter → List Json → Prop where
  | nil : PresentsAll [] []
  | cons {filter : LooseFilter} {filters : List LooseFilter} {item : Json} {items : List Json}
    (h : Presents filter item) (hrest : PresentsAll filters items) :
    PresentsAll (filter :: filters) (item :: items)
end

/-- The tree stands where a filter is read: in the list of the whole text, or in the group of such a
tree. The group of an array is its ninth item. -/
inductive StandsForFilter (root : Json) : Json → Prop where
  | top {items : List Json} {j : Json} (hroot : root = .list items) (hj : j ∈ items) :
    StandsForFilter root j
  | member {members : List (Option String × Json)} {closed : Bool} {items : List Json} {j : Json}
    (h : StandsForFilter root (.object members closed))
    (hgroup : (some "group", .list items) ∈ members) (hj : j ∈ items) : StandsForFilter root j
  | element {parts : List Json} {closed : Bool} {items : List Json} {j : Json}
    (h : StandsForFilter root (.array parts closed))
    (hgroup : parts[8]? = some (.list items)) (hj : j ∈ items) : StandsForFilter root j

/-! ## One step of reading

A member fills the part of its key and touches no other one, so a filter is filled part by part:
`only` is the filter with the parts that have been read. -/

/-- An object or array takes one level of the room, and a group another one. -/
theorem read_succ (presentation : Presentation) (room : Nat) :
    read presentation (room + 1)
      = form.decode presentation (room + 1) {} (setField room (read presentation (room - 1))) := by
  cases room with
  | succ room => rfl
  | zero =>
    -- Without room no group is entered, so it does not matter what would read it.
    have hgroup : ∀ (nested nested' : Json → Except Fault LooseFilter) (value : Json),
        asOption (asList 0 nested) value = asOption (asList 0 nested') value := by
      intro nested nested' value
      cases value <;> rfl
    have hset : ∀ nested nested' : Json → Except Fault LooseFilter,
        setField 0 nested = setField 0 nested' := by
      intro nested nested'
      funext filter key value
      unfold setField
      rw [hgroup nested nested']
    show form.decode presentation 1 {} (setField 0 fun _ => .error .malformed) = _
    rw [hset]

/-- The filter with the parts of these keys only. -/
def only (keys : List String) (filter : LooseFilter) : LooseFilter where
  combinator := if "combinator" ∈ keys then filter.combinator else none
  field := if "field" ∈ keys then filter.field else none
  comparator := if "comparator" ∈ keys then filter.comparator else none
  value := if "value" ∈ keys then filter.value else none
  caseInsensitive := if "case_insensitive" ∈ keys then filter.caseInsensitive else false
  multiSelectValues := if "multi_select_values" ∈ keys then filter.multiSelectValues else none
  raw := if "raw" ∈ keys then filter.raw else none
  quantifier := if "collection_operator" ∈ keys then filter.quantifier else none
  group := if "group" ∈ keys then filter.group else none

/-- With all its parts, a filter is the filter itself. -/
theorem only_eq_self {filter : LooseFilter} {keys : List String}
    (h : ∀ key ∈ filter.presentKeys, key ∈ keys) : filter.only keys = filter := by
  -- A part that is not blank has its key among those that are kept.
  have hkeep : ∀ {α : Type} {key : String} {part blank : α},
      (part ≠ blank → key ∈ filter.presentKeys) → (if key ∈ keys then part else blank) = part := by
    intro α key part blank hpart
    by_cases hblank : part = blank
    · rw [hblank, ite_self]
    · rw [if_pos (h key (hpart hblank))]
  have htext : ∀ {key : String} {text : Option String}, (key, text) ∈ filter.texts →
      text ≠ none → key ∈ filter.presentKeys := by
    intro key text hmem hne
    have hfilter : (key, text) ∈ filter.texts.filter fun (_, text) => text.isSome :=
      List.mem_filter.mpr ⟨hmem, Option.isSome_iff_ne_none.mpr hne⟩
    simp only [presentKeys, List.mem_append]
    exact .inl (.inl (.inl (List.mem_map_of_mem hfilter)))
  have hflag : filter.caseInsensitive ≠ false → "case_insensitive" ∈ filter.presentKeys := by
    intro hne
    simp [presentKeys, hne]
  have hvalues : filter.multiSelectValues ≠ none →
      "multi_select_values" ∈ filter.presentKeys := by
    intro hne
    simp [presentKeys, Option.isSome_iff_ne_none.mpr hne]
  have hgroup : filter.group ≠ none → "group" ∈ filter.presentKeys := by
    intro hne
    simp [presentKeys, Option.isSome_iff_ne_none.mpr hne]
  -- The nine parts, in the order of the fields.
  rw [only, hkeep (htext (by simp [texts])), hkeep (htext (by simp [texts])),
    hkeep (htext (by simp [texts])), hkeep (htext (by simp [texts])), hkeep hflag, hkeep hvalues,
    hkeep (htext (by simp [texts])), hkeep (htext (by simp [texts])), hkeep hgroup]
  cases filter
  rfl

theorem asOption_asString (text : Option String) :
    asOption asString (orNull (text.map .text)) = .ok text := by
  cases text <;> rfl

theorem readItems_asString (values : List String) :
    readItems asString (values.map .text) = .ok values := by
  induction values with
  | nil => rfl
  | cons value values ih =>
    rw [List.map_cons, readItems, ih]
    rfl

/-- Each of the six texts fills the part of its key. -/
theorem setField_of_text {filter : LooseFilter} {key : String} {text : Option String}
    (h : (key, text) ∈ filter.texts) (room : Nat) (nested : Json → Except Fault LooseFilter)
    (seen : List String) :
    setField room nested (filter.only seen) key (orNull (text.map .text))
      = .ok (filter.only (key :: seen)) := by
  simp only [texts, List.mem_cons, List.not_mem_nil, or_false, Prod.mk.injEq] at h
  rcases h with ⟨rfl, rfl⟩ | ⟨rfl, rfl⟩ | ⟨rfl, rfl⟩ | ⟨rfl, rfl⟩ | ⟨rfl, rfl⟩ | ⟨rfl, rfl⟩ <;>
    simp [setField, asOption_asString, only, bind, Except.bind, pure, Except.pure]

/-- The filters of a group are read from items that present them. -/
theorem readItems_of_presentsAll {nested : Json → Except Fault LooseFilter} {room : Nat}
    (hnested : ∀ {filter item}, Presents filter item → item.depth ≤ room →
      nested item = .ok filter)
    {filters : List LooseFilter} {items : List Json} (h : PresentsAll filters items)
    (hdepth : depthItems items ≤ room) : readItems nested items = .ok filters := by
  induction items generalizing filters with
  | nil =>
    cases h
    rfl
  | cons item items ih =>
    cases h with
    | cons hfirst hrest =>
      rw [depthItems, Nat.max_le] at hdepth
      rw [readItems, hnested hfirst hdepth.1, ih hrest hdepth.2]
      rfl

/-- A member that says what the filter has fills its part. -/
theorem setField_of_says {filter : LooseFilter} {key : String} {value : Json}
    (h : Says filter key value) {room : Nat} (hroom : value.depth ≤ room)
    {nested : Json → Except Fault LooseFilter}
    (hnested : ∀ {filter item}, Presents filter item → item.depth ≤ room - 1 →
      nested item = .ok filter) (seen : List String) :
    setField room nested (filter.only seen) key value = .ok (filter.only (key :: seen)) := by
  cases h with
  | text h => exact setField_of_text h room nested seen
  | caseInsensitive => simp [setField, asBool, only, bind, Except.bind, pure, Except.pure]
  | multiSelectValues =>
    have hread : asOption (asList room asString)
        (orNull (filter.multiSelectValues.map fun values => .list (values.map .text)))
          = .ok filter.multiSelectValues := by
      cases hvalues : filter.multiSelectValues with
      | none => rfl
      | some values =>
        rw [hvalues] at hroom
        have hlist := asList_eq_ok hroom (readItems_asString values)
        rw [Option.map_some, orNull, Option.getD_some, asOption_list, hlist]
        rfl
    simp [setField, hread, only, bind, Except.bind, pure, Except.pure]
  | noGroup h => simp [setField, asOption, only, h, bind, Except.bind, pure, Except.pure]
  | @group _ children items h hitems =>
    -- The items are one level below the list, and the filters in them have to fit there.
    have hdepth : depthItems items ≤ room - 1 := by
      simp only [Json.list, depth] at hroom
      omega
    have hlist := asList_eq_ok hroom (readItems_of_presentsAll hnested hitems hdepth)
    have hread : asOption (asList room nested) (.list items) = .ok (some children) := by
      rw [asOption_list, hlist]
      rfl
    simp [setField, hread, only, h, bind, Except.bind, pure, Except.pure]

/-- Only known keys say anything about a filter. -/
theorem Says.mem_memberKeys {filter : LooseFilter} {key : String} {value : Json}
    (h : Says filter key value) : key ∈ memberKeys := by
  cases h with
  | text h =>
    have htexts : ∀ part ∈ filter.texts, part.1 ∈ memberKeys := by simp [texts, memberKeys]
    exact htexts _ h
  | caseInsensitive | multiSelectValues | noGroup _ | group _ _ => decide

/-- A filter is read from what presents it. Induction on the room, of which its groups have
less. -/
theorem read_of_presents (presentation : Presentation) {room : Nat} {filter : LooseFilter}
    {tree : Json} (h : Presents filter tree) (hdepth : tree.depth ≤ room) :
    read presentation room tree = .ok filter := by
  induction room using Nat.strongRecOn generalizing filter tree with
  | _ room ih =>
    cases h with
    | @intro _ members hkeys hmembers hpresent =>
      -- An object takes one level, so there is room for it.
      cases room with
      | zero => exact absurd hdepth (by simp [Json.record, depth])
      | succ room =>
        have hnested : ∀ {filter item}, Presents filter item → item.depth ≤ room - 1 →
            read presentation (room - 1) item = .ok filter :=
          fun h hdepth => ih (room - 1) (by omega) h hdepth
        have hroom : ∀ member ∈ members, member.2.depth ≤ room := by
          rw [Json.record, depth, Nat.add_le_add_iff_right, depthMembers_le_iff] at hdepth
          exact fun member hmem => hdepth _ (List.mem_map_of_mem hmem)
        have hset : ∀ member ∈ members, ∀ seen,
            setField room (read presentation (room - 1)) (filter.only seen) member.1 member.2
              = .ok (filter.only (member.1 :: seen)) :=
          fun member hmem => setField_of_says (hmembers member hmem) (hroom member hmem) hnested
        have hknown : ∀ member ∈ members, member.1 ∈ form.keys :=
          fun member hmem => (hmembers member hmem).mem_memberKeys
        -- All parts that the filter has were filled in the end, in any order.
        have hfilled : filter.only ((members.map Prod.fst).reverse ++ []) = filter :=
          only_eq_self fun key hkey => by simpa using hpresent key hkey
        have hoptional : ∀ field ∈ form.fields, field.inObject = false := by decide
        have hfill := RecordForm.fillMembers_eq_ok hknown hset hkeys [] (by simp)
        rw [hfilled] at hfill
        rw [read_succ]
        exact RecordForm.decode_object_eq_ok hfill fun field hfield hrequired =>
          absurd (hoptional field hfield) (by simp [hrequired])

/-- A list of filters is read from items that present them. -/
theorem readAll_of_presentsAll (presentation : Presentation) {room : Nat}
    {filters : List LooseFilter} {items : List Json} (h : PresentsAll filters items)
    (hdepth : (Json.list items).depth ≤ room) :
    readAll presentation room (.list items) = .ok filters := by
  have hitems : depthItems items ≤ room - 1 := by
    simp only [Json.list, depth] at hdepth
    omega
  exact asList_eq_ok hdepth (readItems_of_presentsAll (read_of_presents presentation) h hitems)

/-! ## Every filter that is read

Reading strictly is the converse: wherever a filter can stand in a tree, one has been read, and
reading an object fails at a key that is unknown or comes twice. -/

/-- If a group was read, each of its items was. -/
theorem exists_read_of_setField_group {room : Nat} {nested : Json → Except Fault LooseFilter}
    {before after : LooseFilter} {items : List Json} {item : Json}
    (h : setField room nested before "group" (.list items) = .ok after) (hitem : item ∈ items) :
    ∃ filter, nested item = .ok filter := by
  obtain ⟨group, hgroup, -⟩ := bind_eq_ok_iff.mp h
  rw [asOption_list] at hgroup
  cases hlist : asList room nested (.list items) with
  | error fault =>
    rw [hlist] at hgroup
    exact absurd hgroup (by simp [Except.map])
  | ok children =>
    obtain ⟨items', hitems, hread⟩ := exists_items_of_asList hlist
    injection hitems with hitems
    exact exists_read_of_mem hread (hitems ▸ hitem)

/-- A filter that is read was filled from an object or an array. -/
theorem exists_fill_of_read {presentation : Presentation} {room : Nat} {j : Json}
    {filter : LooseFilter} (h : read presentation room j = .ok filter) :
    ∃ room', (∃ members result, j = .object members true ∧
        form.fillMembers (setField room' (read presentation (room' - 1))) [] {} members
          = .ok result) ∨
      ∃ items result, j = .array items true ∧
        form.fillItems (setField room' (read presentation (room' - 1))) true 0 {} form.fields items
          = .ok result := by
  cases room with
  | zero => cases j <;> exact absurd h (by simp [read, RecordForm.decode])
  | succ room =>
    rw [read_succ] at h
    exact ⟨room, RecordForm.exists_fill_of_decode h⟩

/-- Wherever a filter can stand, one was read. Induction on the place, from the outside in. -/
theorem exists_read_of_standsForFilter {presentation : Presentation} {room : Nat} {root : Json}
    {filters : List LooseFilter} (hroot : readAll presentation room root = .ok filters) {j : Json}
    (h : StandsForFilter root j) : ∃ room filter, read presentation room j = .ok filter := by
  -- The outermost filters, then members of objects, then elements of arrays.
  induction h with
  | @top items j htop hj =>
    obtain ⟨items', hitems, hread⟩ := exists_items_of_asList hroot
    rw [htop] at hitems
    injection hitems with hitems
    obtain ⟨filter, hfilter⟩ := exists_read_of_mem hread (hitems ▸ hj)
    exact ⟨room - 1, filter, hfilter⟩
  | @member members closed items j _ hgroup hj ih =>
    obtain ⟨_, _, houter⟩ := ih
    obtain ⟨room, ⟨members', result, hobject, hfill⟩ | ⟨_, _, harray, -⟩⟩ :=
      exists_fill_of_read houter
    · injection hobject with hmembers
      rw [hmembers] at hgroup
      obtain ⟨before, after, hset⟩ := RecordForm.exists_set_of_mem hfill hgroup (by decide)
      obtain ⟨filter, hfilter⟩ := exists_read_of_setField_group hset hj
      exact ⟨room - 1, filter, hfilter⟩
    · exact absurd harray (by simp)
  | @element parts closed items j _ hgroup hj ih =>
    obtain ⟨_, _, houter⟩ := ih
    obtain ⟨room, ⟨_, _, hobject, -⟩ | ⟨parts', result, harray, hfill⟩⟩ :=
      exists_fill_of_read houter
    · exact absurd hobject (by simp)
    · injection harray with hparts
      rw [hparts] at hgroup
      have hfield : form.fields[8]? = some (.optional "group") := rfl
      obtain ⟨before, after, hset⟩ := RecordForm.exists_set_of_getElem? hfill hfield hgroup
      obtain ⟨filter, hfilter⟩ := exists_read_of_setField_group hset hj
      exact ⟨room - 1, filter, hfilter⟩

/-- An object that is read as a filter has known keys only, each of them once. -/
theorem exists_keys_of_read {presentation : Presentation} {room : Nat}
    {members : List (Option String × Json)} {closed : Bool} {filter : LooseFilter}
    (h : read presentation room (.object members closed) = .ok filter) :
    ∃ keys : List String, members.map Prod.fst = keys.map some ∧ keys.Nodup ∧
      keys ⊆ memberKeys := by
  obtain ⟨_, ⟨members', result, hobject, hfill⟩ | ⟨_, _, harray, -⟩⟩ := exists_fill_of_read h
  · injection hobject with hmembers
    obtain ⟨keys, hmap, hnodup, hkeys⟩ := RecordForm.exists_keys_of_fillMembers rfl hfill
    exact ⟨keys, hmembers ▸ hmap, hnodup, fun key hkey => (hkeys key hkey).1⟩
  · exact absurd harray (by simp)

/-! ## Texts

Every tree is spelled by texts and every text spells one tree at most, so both results carry over.
-/

/-- Every text that spells an object which presents a filter is read as the filter, if it nests at
most 127 deep. And in a text that is read as filters, every object that stands for a filter has the
nine known keys only, each of them once at most. -/
theorem text_read_losslessly_and_strictly :
    (∀ (filter : LooseFilter) (tree : Json) (text : String), Presents filter tree →
      tree.depth ≤ 127 → tree.SpelledBy text → Reader.ofText read text = .ok filter) ∧
    ∀ (text : String) (filters : List LooseFilter), readAll.ofText text = .ok filters →
      (∃ tree : Json, tree.SpelledBy text) ∧
      ∀ (tree : Json) (members : List (Option String × Json)) (closed : Bool),
        tree.SpelledBy text → StandsForFilter tree (.object members closed) →
        ∃ keys : List String, members.map Prod.fst = keys.map some ∧ keys.Nodup ∧
          keys ⊆ memberKeys := by
  constructor
  · intro filter tree text hpresents hdepth hspelled
    exact Reader.ofText_eq_ok_iff.mpr ⟨tree, hspelled, read_of_presents .text hpresents hdepth⟩
  · intro text filters h
    obtain ⟨root, hroot, hread⟩ := Reader.ofText_eq_ok_iff.mp h
    refine ⟨⟨root, hroot⟩, ?_⟩
    intro tree members closed hspelled hstands
    obtain rfl := hroot.unique hspelled
    obtain ⟨_, _, hobject⟩ := exists_read_of_standsForFilter hread hstands
    exact exists_keys_of_read hobject

/-- Blanks, escapes in a key and in values, `null` for what is absent, and members that stand in
another order than the fields. -/
theorem text_read_with_escapes_and_null :
    Reader.ofText read
        "\x7b \"group\" : [\x7b\"raw\":\"\\u0078\\\"\",\"field\":null\x7d],\n \"valu\\u0065\":\"a\\/b\"\x7d"
      = .ok { value := some "a/b", group := some [{ raw := some "x\"" }] } ∧
    ∃ keys : List String,
      [(some "raw", Json.text "x\""), (some "field", Json.null)].map Prod.fst = keys.map some ∧
        keys.Nodup ∧ keys ⊆ memberKeys := by
  have hchild : Presents { raw := some "x\"" }
      (.record [("raw", .text "x\""), ("field", .null)]) := by
    refine .intro (by decide) (List.forall_mem_cons.mpr ⟨?_, List.forall_mem_singleton.mpr ?_⟩)
      (by decide)
    · exact .text (show ("raw", some "x\"") ∈ _ by decide)
    · exact .text (show ("field", none) ∈ _ by decide)
  have hfilter : Presents { value := some "a/b", group := some [{ raw := some "x\"" }] }
      (.record [("group", .list [.record [("raw", .text "x\""), ("field", .null)]]),
        ("value", .text "a/b")]) := by
    refine .intro (by decide) (List.forall_mem_cons.mpr ⟨?_, List.forall_mem_singleton.mpr ?_⟩)
      (by decide)
    · exact .group rfl (.cons hchild .nil)
    · exact .text (show ("value", some "a/b") ∈ _ by decide)
  refine ⟨text_read_losslessly_and_strictly.1 _ _ _ hfilter (by decide)
    (Document.ofText_eq_iff.mp (by rfl)), ?_⟩
  have hspelled : (Json.list [.record [("group", .list
      [.record [("raw", .text "x\""), ("field", .null)]]), ("value", .text "a/b")]]).SpelledBy
      "[\x7b\"group\":[\x7b\"raw\":\"x\\\"\",\"field\":null\x7d],\"value\":\"a/b\"\x7d]" :=
    Document.ofText_eq_iff.mp (by rfl)
  have hread := Reader.ofText_eq_ok_iff.mpr
    ⟨_, hspelled, readAll_of_presentsAll .text (.cons hfilter .nil) (by decide)⟩
  exact (text_read_losslessly_and_strictly.2 _ _ hread).2 _ _ true hspelled
    (.member (.top rfl List.mem_cons_self) List.mem_cons_self List.mem_cons_self)

end ODataQuery.LooseFilter
