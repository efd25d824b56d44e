import ODataQuery.Proofs.Text.Delimiters
import ODataQuery.Request.Companion
import ODataQuery.Request.RecordUrl

/-!
# Taking record URLs apart

A URL is cut behind the first occurrence of its suffix (`isShortest_of_cutAfter?`), and the id is
the first text in parentheses in what follows (`firstId_cases`). Both are unique
(`IsShortest.unique`, `IsFirstSegment.unique`), so a path that is built with an id in parentheses is
taken apart again, whatever its base is (`parse_finds_first_segment`).
-/

namespace ODataQuery.RecordUrl

/-! ## Cutting at a suffix

The text is cut behind the first occurrence of the suffix. Cutting is recursive, from left to right,
and being the shortest text that ends with the suffix does not mention how it is found. -/

/-- The shortest text with which another one begins and that ends with a suffix: it goes up to the
end of the first occurrence. -/
structure IsShortest (text suffix base : List Char) : Prop where
  begins : base <+: text
  ends : suffix <:+ base
  shortest : ∀ other, other <+: text → suffix <:+ other → base.length ≤ other.length

/-- There is only one shortest text. -/
theorem IsShortest.unique {text suffix base base' : List Char} (h : IsShortest text suffix base)
    (h' : IsShortest text suffix base') : base = base' := by
  have hle : base.length ≤ base'.length := h.shortest base' h'.begins h'.ends
  have hge : base'.length ≤ base.length := h'.shortest base h.begins h.ends
  exact (List.prefix_of_prefix_length_le h.begins h'.begins hle).eq_of_length_le hge

/-- What follows a first occurrence does not matter. -/
theorem IsShortest.append {suffix base : List Char} (h : IsShortest base suffix base)
    (rest : List Char) : IsShortest (base ++ rest) suffix base := by
  refine ⟨List.prefix_append _ _, h.ends, fun other hother hends => ?_⟩
  rcases Nat.le_total base.length other.length with hle | hle
  · exact hle
  · have hbase : other <+: base :=
      List.prefix_of_prefix_length_le hother (List.prefix_append _ _) hle
    exact h.shortest other hbase hends

section Cut

variable {suffix : List Char}

/-- Where a suffix does not stand at once, its first occurrence comes one character later than in
the rest. -/
theorem IsShortest.cons {c : Char} {rest base : List Char} (h : IsShortest rest suffix base)
    (hlater : ¬ suffix <+: c :: rest) : IsShortest (c :: rest) suffix (c :: base) := by
  refine ⟨(List.prefix_cons_inj c).mpr h.begins, h.ends.trans (List.suffix_cons _ _), ?_⟩
  intro other hother hends
  cases other with
  | nil =>
    obtain rfl := List.suffix_nil.mp hends
    exact absurd List.nil_prefix hlater
  | cons d other =>
    rcases List.suffix_cons_iff.mp hends with rfl | hends
    · exact absurd hother hlater
    · exact Nat.succ_le_succ (h.shortest other (List.cons_prefix_cons.mp hother).2 hends)

/-- Where the text is cut, the part in front is the shortest one. -/
theorem isShortest_of_cutAfter? : ∀ {text before after : List Char},
    cutAfter? suffix text = some (before, after) →
      text = before ++ after ∧ IsShortest text suffix before
  | [], before, after, h => by
    rw [cutAfter?] at h
    split at h
    · next hsuffix =>
      obtain ⟨rfl, rfl⟩ := Prod.mk.inj (Option.some.inj h)
      subst hsuffix
      exact ⟨rfl, List.prefix_refl _, List.suffix_refl _, fun _ _ _ => Nat.zero_le _⟩
    · exact absurd h (by simp)
  | c :: rest, before, after, h => by
    rw [cutAfter?] at h
    split at h
    · -- Either the suffix begins here, or it is found further on.
      next hbegins =>
      obtain ⟨rfl, rfl⟩ := Prod.mk.inj (Option.some.inj h)
      have hsuffix : suffix <+: c :: rest := List.isPrefixOf_iff_prefix.mp hbegins
      exact ⟨(List.prefix_iff_eq_append.mp hsuffix).symm, hsuffix, List.suffix_refl _,
        fun _ _ hends => hends.length_le⟩
    · next hbegins =>
      -- The suffix does not begin here, so nothing shorter ends with it.
      obtain ⟨⟨before', after'⟩, hrest, hpair⟩ := Option.map_eq_some_iff.mp h
      obtain ⟨rfl, rfl⟩ := Prod.mk.inj hpair
      obtain ⟨htext, hshortest⟩ := isShortest_of_cutAfter? hrest
      refine ⟨congrArg (c :: ·) htext, hshortest.cons ?_⟩
      exact fun hsuffix => hbegins (List.isPrefixOf_iff_prefix.mpr hsuffix)

/-- A suffix is found if and only if it occurs. -/
theorem isSome_cutAfter?_iff : ∀ text : List Char,
    (cutAfter? suffix text).isSome = true ↔ suffix <:+: text
  | [] => by
    rw [cutAfter?, List.infix_nil]
    split <;> simp_all
  | c :: rest => by
    rw [cutAfter?, List.infix_cons_iff, ← List.isPrefixOf_iff_prefix]
    split
    · next hbegins => simp [hbegins]
    · next hbegins => simp [hbegins, ← isSome_cutAfter?_iff rest]

end Cut

/-! ## The first text in parentheses

The id is looked for from left to right. A pair of parentheses with nothing in between does not
count, and an opening parenthesis that is never closed does not either. -/

/-- A text in parentheses and what stands around it. It is not empty and lasts to the next closing
parenthesis. -/
structure Segment (text before id after : List Char) : Prop where
  eq : text = before ++ '(' :: (id ++ ')' :: after)
  ne_nil : id ≠ []
  closed : ')' ∉ id

/-- A text in parentheses before which there is none. -/
structure IsFirstSegment (text before id after : List Char) : Prop
    extends Segment text before id after where
  first : ∀ before' id' after', Segment text before' id' after' → before.length ≤ before'.length

section Segments

variable {text before id after before' id' after' : List Char}

/-- An id ends at the first closing parenthesis. -/
theorem takeWhile_of_closed (h : ')' ∉ id) (after : List Char) :
    (id ++ ')' :: after).takeWhile (· ≠ ')') = id := by
  have hbefore : ∀ c ∈ id, decide (c ≠ ')') = true := by
    intro c hc
    exact decide_eq_true fun heq => h (heq ▸ hc)
  rw [List.takeWhile_append_of_pos hbefore]
  simp

/-- Segments that begin at one place are the same. -/
theorem Segment.id_eq (h : Segment text before id after) (h' : Segment text before' id' after')
    (hlength : before.length = before'.length) : id = id' := by
  obtain ⟨-, hrest⟩ := List.append_inj (h.eq.symm.trans h'.eq) hlength
  have htail := (List.cons.inj hrest).2
  rw [← takeWhile_of_closed h.closed after, htail, takeWhile_of_closed h'.closed]

/-- There is only one first text in parentheses. -/
theorem IsFirstSegment.unique (h : IsFirstSegment text before id after)
    (h' : IsFirstSegment text before' id' after') : id = id' :=
  h.toSegment.id_eq h'.toSegment (Nat.le_antisymm (h.first _ _ _ h'.toSegment)
    (h'.first _ _ _ h.toSegment))

/-- A segment begins with the first character of a text or stands in the rest. -/
theorem segment_cons_iff {c : Char} :
    Segment (c :: text) before id after ↔
      (before = [] ∧ Segment (c :: text) [] id after) ∨
        ∃ before', before = c :: before' ∧ Segment text before' id after := by
  constructor
  · intro h
    cases before with
    | nil => exact .inl ⟨rfl, h⟩
    | cons d before =>
      obtain ⟨rfl, htext⟩ := List.cons.inj h.eq
      exact .inr ⟨before, rfl, htext, h.ne_nil, h.closed⟩
  · rintro (⟨rfl, h⟩ | ⟨before, rfl, h⟩)
    · exact h
    · exact ⟨congrArg (c :: ·) h.eq, h.ne_nil, h.closed⟩

/-- A segment begins at once if and only if the search stops at once, and then it finds that. -/
theorem segment_nil_iff {c : Char} :
    (∃ after, Segment (c :: text) [] id after) ↔
      id = text.takeWhile (· ≠ ')') ∧ c = '(' ∧ id ≠ [] ∧ ')' ∈ text := by
  constructor
  · rintro ⟨after, heq, hne, hclosed⟩
    obtain ⟨rfl, rfl⟩ := List.cons.inj heq
    exact ⟨(takeWhile_of_closed hclosed _).symm, rfl, hne, by simp⟩
  · rintro ⟨hid, rfl, hne, hmem⟩
    obtain ⟨first, after, rfl, hclosed⟩ := List.eq_append_cons_of_mem hmem
    obtain rfl : id = first := hid.trans (takeWhile_of_closed hclosed _)
    exact ⟨after, rfl, hne, hclosed⟩

end Segments

/-- The search finds the first segment, and nothing if there is none. Induction on the text: where
the search does not stop, the segments of the text are those of the rest. -/
theorem firstId_cases : ∀ text : List Char,
    (firstId text = [] ∧ ∀ before id after, ¬ Segment text before id after) ∨
      ∃ before after, IsFirstSegment text before (firstId text) after
  | [] => by
    refine .inl ⟨rfl, fun before id after h => ?_⟩
    exact absurd h.eq (by simp)
  | c :: rest => by
    rw [firstId]
    split
    · next hstops =>
      obtain ⟨after, h⟩ := segment_nil_iff.mpr ⟨rfl, hstops⟩
      exact .inr ⟨[], after, h, fun _ _ _ _ => Nat.zero_le _⟩
    · next hgoes =>
      have hlater : ∀ id after, ¬ Segment (c :: rest) [] id after := by
        intro id after h
        obtain ⟨rfl, hstops⟩ := segment_nil_iff.mp ⟨after, h⟩
        exact hgoes hstops
      -- No id begins here, so the first one of the rest is the first one.
      rcases firstId_cases rest with ⟨hnone, hrest⟩ | ⟨before, after, h⟩
      · refine .inl ⟨hnone, fun before id after h => ?_⟩
        rcases segment_cons_iff.mp h with ⟨-, h⟩ | ⟨before', -, h⟩
        · exact hlater _ _ h
        · exact hrest _ _ _ h
      · refine .inr ⟨c :: before, after, segment_cons_iff.mpr (.inr ⟨before, rfl, h.toSegment⟩), ?_⟩
        intro before' id' after' h'
        rcases segment_cons_iff.mp h' with ⟨-, hfirst⟩ | ⟨before'', rfl, hrest⟩
        · exact absurd hfirst (hlater _ _)
        · exact Nat.succ_le_succ (h.first _ _ _ hrest)

/-- An id is found if there is a text in parentheses. -/
theorem firstId_ne_nil_iff {text : List Char} :
    firstId text ≠ [] ↔ ∃ before id after, Segment text before id after := by
  rcases firstId_cases text with ⟨hnone, hsegments⟩ | ⟨before, after, h⟩
  · constructor
    · exact fun hne => absurd hnone hne
    · rintro ⟨before, id, after, h⟩
      exact absurd h (hsegments before id after)
  · exact ⟨fun _ => ⟨before, _, after, h.toSegment⟩, fun _ => h.ne_nil⟩

/-- The id that is found is the first one. -/
theorem firstId_eq_iff {text id : List Char} (hne : id ≠ []) :
    firstId text = id ↔ ∃ before after, IsFirstSegment text before id after := by
  rcases firstId_cases text with ⟨hnone, hsegments⟩ | ⟨before, after, h⟩
  · constructor
    · rintro rfl
      exact absurd hnone hne
    · rintro ⟨before, after, h⟩
      exact absurd h.toSegment (hsegments before id after)
  · constructor
    · rintro rfl
      exact ⟨before, after, h⟩
    · rintro ⟨before', after', h'⟩
      exact h.unique h'

/-! ## Whole URLs

Both searches together, with and without a suffix, and the paths that are built for records. -/

/-- The suffix is given, not empty, and occurs in the URL. -/
def Occurs (url : String) (suffix : Option String) (s : String) : Prop :=
  s ∈ suffix ∧ s ≠ "" ∧ s.toList <:+: url.toList

/-- A URL is cut behind the first occurrence of its suffix, or not at all. The id is looked for in
what follows. -/
theorem parse_cases (url : String) (suffix : Option String) :
    ∃ base rest, url = base ++ rest ∧
      parse url suffix = ⟨base, String.ofList (firstId rest.toList)⟩ ∧
      ((∃ s, Occurs url suffix s ∧ IsShortest url.toList s.toList base.toList) ∨
        (¬ ∃ s, Occurs url suffix s) ∧ base = "") := by
  by_cases hoccurs : ∃ s, Occurs url suffix s
  · obtain ⟨s, hs, hne, hinfix⟩ := hoccurs
    have hfound := (isSome_cutAfter?_iff _).mpr hinfix
    obtain ⟨⟨before, after⟩, hcut⟩ := Option.isSome_iff_exists.mp hfound
    obtain ⟨htext, hshortest⟩ := isShortest_of_cutAfter? hcut
    -- The suffix is there, so the search finds it.
    have hsplit : splitBase url.toList suffix = (before, after) := by
      rw [Option.mem_def.mp hs, splitBase, if_neg hne, hcut]
      rfl
    refine ⟨String.ofList before, String.ofList after, ?_, ?_, .inl ⟨s, ⟨hs, hne, hinfix⟩, ?_⟩⟩
    · rw [← String.ofList_append, ← htext, String.ofList_toList]
    · rw [parse, hsplit, String.toList_ofList]
    · rwa [String.toList_ofList]
  · have hsplit : splitBase url.toList suffix = ([], url.toList) := by
      cases suffix with
      | none => rfl
      | some s =>
        rw [splitBase]
        split
        · rfl
        · next hne =>
          have hcut : cutAfter? s.toList url.toList = none := by
            rw [← Option.not_isSome_iff_eq_none, isSome_cutAfter?_iff]
            exact fun hinfix => hoccurs ⟨s, rfl, hne, hinfix⟩
          rw [hcut]
          rfl
    refine ⟨"", url, String.empty_append.symm, ?_, .inr ⟨hoccurs, rfl⟩⟩
    rw [parse, hsplit]

/-- A URL is cut behind a base that ends where the suffix first occurs, whatever follows. -/
theorem parse_append {base rest s : String} (hne : s ≠ "")
    (h : IsShortest base.toList s.toList base.toList) :
    parse (base ++ rest) (some s) = ⟨base, String.ofList (firstId rest.toList)⟩ := by
  have hshortest : IsShortest (base ++ rest).toList s.toList base.toList := by
    rw [String.toList_append]
    exact h.append _
  have hoccurs : Occurs (base ++ rest) (some s) s :=
    ⟨rfl, hne, hshortest.ends.isInfix.trans hshortest.begins.isInfix⟩
  obtain ⟨base', rest', hurl, hparse, ⟨s', ⟨hs', -, -⟩, hshortest'⟩ | ⟨hnone, -⟩⟩ :=
    parse_cases (base ++ rest) (some s)
  · obtain rfl := Option.mem_some_iff.mp hs'
    obtain rfl := String.toList_injective (hshortest.unique hshortest')
    obtain rfl := (String.append_right_inj base).mp hurl
    exact hparse
  · exact absurd ⟨s, hoccurs⟩ hnone

/-- The id of a path comes first in it, if the collection before it has no parenthesis. -/
theorem isFirstSegment_intersectPath {collection id relationship : String}
    (hcollection : Avoids collection ['(']) (hne : id ≠ "") (hid : Avoids id [')']) :
    IsFirstSegment (Companion.intersectPath collection id relationship).toList collection.toList
      id.toList ('/' :: relationship.toList) := by
  have hpath : (Companion.intersectPath collection id relationship).toList
      = collection.toList ++ '(' :: (id.toList ++ ')' :: '/' :: relationship.toList) := by
    simp [Companion.intersectPath, String.toList_append]
  refine ⟨⟨hpath, by simpa using hne, hid.not_mem List.mem_cons_self⟩, ?_⟩
  intro before' id' after' h'
  rw [hpath] at h'
  -- A parenthesis further left would be one of the collection.
  rcases List.append_eq_append_iff.mp h'.eq with ⟨between, rfl, -⟩ | ⟨between, hbetween, htail⟩
  · rw [List.length_append]
    exact Nat.le_add_right _ _
  · cases between with
    | nil => exact Nat.le_of_eq (congrArg List.length (hbetween.trans (List.append_nil before')))
    | cons c between =>
      obtain rfl := (List.cons.inj htail).1
      exact absurd (hbetween ▸ by simp) (hcollection.not_mem List.mem_cons_self)

/-- The id in the path of a record is found again. -/
theorem firstId_intersectPath {collection id relationship : String}
    (hcollection : Avoids collection ['(']) (hne : id ≠ "") (hid : Avoids id [')']) :
    String.ofList (firstId (Companion.intersectPath collection id relationship).toList) = id := by
  have hfirst : firstId (Companion.intersectPath collection id relationship).toList = id.toList :=
    (firstId_eq_iff (by simpa using hne)).mpr
      ⟨_, _, isFirstSegment_intersectPath hcollection hne hid⟩
  rw [hfirst, String.ofList_toList]

/-- The base of a URL is its shortest part that ends with the suffix, and empty if there is no
suffix in it; the id is the first text in parentheses behind the base, and empty if there is none.
So the path to the records that one record is connected with gives back the id of that record, and
behind a base that ends where the suffix first occurs it gives back the base too. -/
theorem parse_finds_first_segment (url : String) (suffix : Option String) :
    (∀ s, Occurs url suffix s →
      IsShortest url.toList s.toList (parse url suffix).base.toList) ∧
    ((¬ ∃ s, Occurs url suffix s) → (parse url suffix).base = "") ∧
    (∃ rest, url = (parse url suffix).base ++ rest ∧
      ((parse url suffix).id ≠ "" ↔ ∃ before id after, Segment rest.toList before id after) ∧
      ∀ id, id ≠ "" → ((parse url suffix).id = id ↔
        ∃ before after, IsFirstSegment rest.toList before id.toList after)) ∧
    ∀ collection id relationship, Avoids collection ['('] → id ≠ "" → Avoids id [')'] →
      parse (Companion.intersectPath collection id relationship) none = ⟨"", id⟩ ∧
      ∀ base s, s ≠ "" → IsShortest base.toList s.toList base.toList →
        parse (base ++ Companion.intersectPath collection id relationship) (some s)
          = ⟨base, id⟩ := by
  -- All parts are about the same cut of the URL.
  obtain ⟨base, rest, hurl, hparse, hbase⟩ := parse_cases url suffix
  rw [hparse]
  refine ⟨fun s hs => ?_, fun hnone => ?_, ⟨rest, hurl, ?_, fun id hne => ?_⟩,
    fun collection id relationship hcollection hne hid => ⟨?_, fun base s hs hbase => ?_⟩⟩
  · rcases hbase with ⟨s', hs', hshortest⟩ | ⟨hnone, -⟩
    · obtain rfl : s = s' := Option.some.inj (hs.1.symm.trans hs'.1)
      exact hshortest
    · exact absurd ⟨s, hs⟩ hnone
  · rcases hbase with ⟨s, hs, -⟩ | ⟨-, hempty⟩
    · exact absurd ⟨s, hs⟩ hnone
    · exact hempty
  · rw [← firstId_ne_nil_iff]
    simp
  · rw [← firstId_eq_iff (by simpa using hne), ← String.toList_inj, String.toList_ofList]
  · show RecordUrl.mk (String.ofList []) (String.ofList (firstId _)) = _
    rw [firstId_intersectPath hcollection hne hid]
  · rw [parse_append hs hbase, firstId_intersectPath hcollection hne hid]

/-- Parentheses in the base do not matter, nor do empty ones or later occurrences of the suffix. -/
theorem parse_finds_first_segment_behind_base :
    let base := "https://host/tenant(eu)/api"
    let url := base ++ "/()/leads(12(3)/api(4)"
    Occurs url (some "/api") "/api" ∧
      IsShortest url.toList "/api".toList (parse url (some "/api")).base.toList ∧
      (¬ ∃ s, Occurs url (some "/v9") s) ∧ (parse url (some "/v9")).base = "" ∧
      (∃ rest before after, url = (parse url (some "/api")).base ++ rest ∧
        IsFirstSegment rest.toList before "12(3".toList after) ∧
      Avoids "leads" ['('] ∧ "12(3" ≠ "" ∧ Avoids "12(3" [')'] ∧ "/api" ≠ "" ∧
      IsShortest base.toList "/api".toList base.toList ∧
      parse (base ++ Companion.intersectPath "leads" "12(3" "api(4)") (some "/api")
        = ⟨base, "12(3"⟩ := by
  intro base url
  have hoccurs : Occurs url (some "/api") "/api" := ⟨rfl, by decide, by decide +kernel⟩
  have habsent : ¬ ∃ s, Occurs url (some "/v9") s := by
    rintro ⟨s, hs, -, hinfix⟩
    obtain rfl := Option.mem_some_iff.mp hs
    exact absurd hinfix (by decide +kernel)
  have hcut : cutAfter? "/api".toList base.toList = some (base.toList, []) := by decide +kernel
  have hbase : IsShortest base.toList "/api".toList base.toList := (isShortest_of_cutAfter? hcut).2
  obtain ⟨hfound, -, ⟨rest, hurl, -, hid⟩, hpath⟩ := parse_finds_first_segment url (some "/api")
  obtain ⟨-, hempty, -, -⟩ := parse_finds_first_segment url (some "/v9")
  have hne : "12(3" ≠ "" := by decide
  have hparsed : (parse url (some "/api")).id = "12(3" := by decide +kernel
  obtain ⟨before, after, hfirst⟩ := (hid "12(3" hne).mp hparsed
  have hcollection : Avoids "leads" ['('] := by decide
  have hclosed : Avoids "12(3" [')'] := by decide
  have happend := (hpath "leads" "12(3" "api(4)" hcollection hne hclosed).2
  exact ⟨hoccurs, hfound _ hoccurs, habsent, hempty habsent, ⟨rest, before, after, hurl, hfirst⟩,
    hcollection, hne, hclosed, by decide, hbase, happend base "/api" (by decide) hbase⟩

end ODataQuery.RecordUrl
