import ODataQuery.Proofs.Filter.Characters
import ODataQuery.Request.Basic

/-!
# Taking requests apart

The URL of a request holds what it was built from: its path is all before the first question mark,
and its clauses are what stands between ampersands after that. Neither is escaped, so this needs
names and values that are written as they are to hold no separator; literals are free
(`entityRequest_apart`).
-/

namespace ODataQuery

namespace Request

/-- What stands before the first question mark of the URL. -/
def path (request : Request) : String :=
  String.ofList (request.url.toList.takeWhile (· ≠ '?'))

/-- What stands between ampersands after the first question mark of the URL. -/
def clauses (request : Request) : List String :=
  (((request.url.toList.dropWhile (· ≠ '?')).drop 1).splitOn '&').map String.ofList

section Joined

variable {request : Request} {path : String} {parts : List String}

/-- The path of a URL is found in front of the question mark. -/
theorem path_of_url (hurl : request.url = path ++ "?" ++ String.intercalate "&" parts)
    (hpath : Avoids path ['?']) : request.path = path := by
  have hbefore : ∀ c ∈ path.toList, decide (c ≠ '?') = true := by
    intro c hc
    simpa using hpath c hc
  rw [Request.path, hurl, String.append_assoc, String.toList_append,
    List.takeWhile_append_of_pos hbefore, String.toList_append]
  show String.ofList (path.toList ++ []) = path
  rw [List.append_nil, String.ofList_toList]

/-- The parts of a URL are found between ampersands. -/
theorem clauses_of_url (hurl : request.url = path ++ "?" ++ String.intercalate "&" parts)
    (hpath : Avoids path ['?']) (hparts : ∀ part ∈ parts, Avoids part ['&']) (hne : parts ≠ []) :
    request.clauses = parts := by
  have hbefore : ∀ c ∈ path.toList, decide (c ≠ '?') = true := by
    intro c hc
    simpa using hpath c hc
  have hquery : (request.url.toList.dropWhile (· ≠ '?')).drop 1
      = ['&'].intercalate (parts.map String.toList) := by
    rw [hurl, String.append_assoc, String.toList_append, List.dropWhile_append_of_pos hbefore,
      String.toList_append]
    show (String.intercalate "&" parts).toList = _
    exact String.toList_intercalate
  -- Splitting undoes joining, since no part has an ampersand.
  have hsplit : (['&'].intercalate (parts.map String.toList)).splitOn '&'
      = parts.map String.toList := by
    refine List.splitOn_intercalate '&' ?_ (by simpa using hne)
    intro l hl
    obtain ⟨part, hpart, rfl⟩ := List.mem_map.mp hl
    exact (hparts part hpart).not_mem List.mem_cons_self
  rw [clauses, hquery, hsplit, List.map_map]
  refine (List.map_congr_left fun part _ => ?_).trans (List.map_id parts)
  exact String.ofList_toList

end Joined

end Request

/-! ## Parts without ampersands

Everything in the query that is not encoded has to be free of ampersands: names and values by
assumption, the rest by itself. -/

/-- A number has no ampersands. -/
theorem avoids_repr (n : Nat) : Avoids (Nat.repr n) ['&'] := by
  intro c hc hmem
  rw [Nat.toList_repr] at hc
  have hdigit := Nat.isDigit_of_mem_toDigits (by decide) (by decide) hc
  obtain rfl := List.mem_singleton.mp hmem
  exact absurd hdigit (by decide)

/-- The parts of a page have no ampersands. -/
theorem Paging.avoids_queryParts (paging : Paging) :
    ∀ part ∈ paging.queryParts, Avoids part ['&'] := by
  have htop : ∀ top, Avoids (topPart top) ['&'] := fun top =>
    Avoids.append (by decide) (avoids_repr _)
  cases paging with
  | unbounded => simp [queryParts]
  | first top => simpa [queryParts] using htop top
  | offset top skip =>
    simp only [queryParts, List.forall_mem_cons]
    exact ⟨htop top, Avoids.append (by decide) (avoids_repr _), by simp⟩
  | skipToken top pageNumber =>
    simp only [queryParts, List.forall_mem_cons]
    exact ⟨htop top, ((Avoids.append (by decide) (avoids_repr _)).append (by decide)), by simp⟩

/-- The header for page tokens goes with the part that sends one. -/
theorem Paging.isSome_preferHeader_iff (paging : Paging) :
    paging.preferHeader.isSome = true ↔
      ∃ part ∈ paging.queryParts, "$skiptoken=".toList <+: part.toList := by
  have htop : ∀ top, ¬ "$skiptoken=".toList <+: (topPart top).toList := by
    intro top
    rw [topPart, String.toList_append]
    simp
  have hskip : ∀ skip, ¬ "$skiptoken=".toList <+: ("$skip=" ++ Nat.repr skip).toList := by
    intro skip
    rw [String.toList_append]
    simp
  -- Only page tokens have the header, and only their part begins with that name.
  cases paging with
  | unbounded => simp [queryParts, preferHeader]
  | first top =>
    simp only [queryParts, List.mem_singleton, exists_eq_left, htop, preferHeader]
    decide
  | offset top skip =>
    simp only [queryParts, List.mem_cons, List.not_mem_nil, or_false, exists_eq_or_imp,
      exists_eq_left, htop, hskip, preferHeader]
    decide
  | skipToken top pageNumber => simp [queryParts, preferHeader]

/-- A query has the header if it has a page token. -/
theorem EntityQuery.preferHeader_paging (query : EntityQuery) :
    query.paging.preferHeader.toList =
      if ∃ part ∈ query.paging.queryParts, "$skiptoken=".toList <+: part.toList then
        [("Prefer", "odata.maxpagesize=" ++ Nat.repr query.top.toNat)]
      else [] := by
  simp only [← Paging.isSome_preferHeader_iff]
  unfold paging Paging.ofPage
  split
  · rfl
  · split
    · rfl
    · split <;> rfl

/-- A list of names has no ampersands if the names have none. -/
theorem avoids_listClause {name : String} {items : List String} (hname : Avoids name ['&'])
    (hitems : ∀ item ∈ items, Avoids item ['&']) :
    ∀ part ∈ (listClause name items).toList, Avoids part ['&'] := by
  unfold listClause
  split
  · simp
  · simpa using hname.append (Avoids.intercalate (by decide) hitems)

/-- The parts of a query that are written as they are hold no ampersand. -/
structure EntityQuery.IsPlain (query : EntityQuery) : Prop where
  filters : SiblingsKeep (plainRules ['&']) query.filters
  selects : ∀ field ∈ query.selects, Avoids field ['&']
  extraClauses : ∀ clause ∈ query.extraClauses, Avoids clause ['&']
  orderBys : ∀ clause ∈ query.orderBys, Avoids clause ['&']

namespace Dialect

/-- None of the parts behind the filter has ampersands. -/
theorem avoids_laterParts {query : EntityQuery} (h : query.IsPlain) :
    ∀ part ∈ laterParts query, Avoids part ['&'] := by
  have hselect : ∀ part ∈ (listClause "$select=" query.selects).toList, Avoids part ['&'] :=
    avoids_listClause (by decide) h.selects
  have horder : ∀ part ∈ (listClause "$orderby=" query.orderBys).toList, Avoids part ['&'] :=
    avoids_listClause (by decide) h.orderBys
  have hcount : ∀ part ∈ ["$count=true"], Avoids part ['&'] := by decide
  have hpaging := query.paging.avoids_queryParts
  intro part hpart
  simp only [laterParts, List.mem_append] at hpart
  rcases hpart with (((hpart | hpart) | hpart) | hpart) | hpart
  · exact hselect part hpart
  · exact hcount part hpart
  · exact hpaging part hpart
  · exact h.extraClauses part hpart
  · exact horder part hpart

/-! ## Requests

The URL is made of the path and the parts, so it can be cut there again. That there is no part for
an empty filter is read off the list of filters. -/

/-- A request that is built has compiled filters, and its URL and headers are made of the parts. -/
theorem entityRequest_eq_ok {dialect : Dialect} {base : String} {query : EntityQuery}
    {request : Request} (h : (dialect.entityRequest base query).result = .ok request) :
    ∃ text, (compile dialect.options query.filters).result = .ok text ∧
      request.url = base ++ "/" ++ query.collection ++ "?" ++ String.intercalate "&"
        ((if text = "" then [] else ["$filter=" ++ text]) ++ laterParts query) ∧
      request.headers = dialect.baseHeaders ++ query.paging.preferHeader.toList := by
  rw [entityRequest, filterClause, Logged.result_bind_eq_ok] at h
  obtain ⟨filter, hfilter, h⟩ := h
  obtain ⟨text, htext, hclause⟩ := Logged.result_bind_eq_ok.mp hfilter
  obtain ⟨_, _, hbuilt⟩ := Logged.result_bind_eq_ok.mp h
  obtain rfl : (if text = "" then none else some ("$filter=" ++ text)) = filter :=
    Except.ok.inj hclause
  obtain rfl := Except.ok.inj hbuilt
  refine ⟨text, htext, ?_, rfl⟩
  split <;> rfl

/-- A request is made of the parts of its query, and of nothing else. -/
theorem entityRequest_apart {dialect : Dialect} {base : String} {query : EntityQuery}
    {request : Request} (hrequest : (dialect.entityRequest base query).result = .ok request)
    (hbase : Avoids base ['?']) (hcollection : Avoids query.collection ['?'])
    (hplain : query.IsPlain) :
    ∃ text, (compile dialect.options query.filters).result = .ok text ∧
      request.path = base ++ "/" ++ query.collection ∧
      request.clauses =
        (if query.filters.isEmpty then [] else ["$filter=" ++ text])
          ++ (if query.selects.isEmpty then []
            else ["$select=" ++ String.intercalate "," query.selects])
          ++ ["$count=true"] ++ query.paging.queryParts ++ query.extraClauses
          ++ (if query.orderBys.isEmpty then []
            else ["$orderby=" ++ String.intercalate "," query.orderBys]) ∧
      request.headers =
        [("OData-MaxVersion", dialect.maxVersion), ("OData-Version", dialect.version)]
          ++ (if ∃ part ∈ query.paging.queryParts, "$skiptoken=".toList <+: part.toList then
            [("Prefer", "odata.maxpagesize=" ++ Nat.repr query.top.toNat)] else []) := by
  obtain ⟨text, htext, hurl, hheaders⟩ := entityRequest_eq_ok hrequest
  obtain ⟨hchecked, hrendered⟩ := of_result_compile htext
  -- Filters that pass the check are compiled to an empty text only if there are none.
  have hempty : text = "" ↔ query.filters.isEmpty = true := by
    rw [hrendered, renderSiblings_eq_empty_iff hchecked, List.isEmpty_iff]
  have hpath : Avoids (base ++ "/" ++ query.collection) ['?'] :=
    (hbase.append (by decide)).append hcollection
  have hparts : ∀ part ∈ (if text = "" then [] else ["$filter=" ++ text]) ++ laterParts query,
      Avoids part ['&'] := by
    have hfilter : Avoids ("$filter=" ++ text) ['&'] :=
      Avoids.append (by decide) (hrendered ▸ avoids_renderSiblings hplain.filters)
    intro part hpart
    rcases List.mem_append.mp hpart with hpart | hpart
    · split at hpart
      · exact absurd hpart (by simp)
      · exact List.mem_singleton.mp hpart ▸ hfilter
    · exact avoids_laterParts hplain part hpart
  have hne : (if text = "" then [] else ["$filter=" ++ text]) ++ laterParts query ≠ [] := by
    simp [laterParts]
  refine ⟨text, htext, Request.path_of_url hurl hpath, ?_, ?_⟩
  · rw [Request.clauses_of_url hurl hpath hparts hne]
    simp only [hempty, laterParts, listClause, List.append_assoc]
    congr 1
    congr 1
    · split <;> rfl
    · congr 3
      split <;> rfl
  · rw [hheaders, query.preferHeader_paging]
    rfl

/-- A value that looks like further clauses stays in the filter. -/
theorem entityRequest_apart_hostile :
    let query : EntityQuery :=
      { collection := "accounts"
        filters := [.any "contacts" [.compare "name" .stringEquals "a&$top=1?b"],
          .leaf .and { field := "age", comparator := .greaterThan, value := "30?" }]
        extraClauses := ["a=?", ""], selects := ["name", "age"]
        top := 50, page := 2, useSkipTokens := true }
    ∃ request, (({} : Dialect).entityRequest "https://server" query).result = .ok request ∧
      request.path = "https://server/accounts" ∧
      request.clauses =
        ["$filter=(contacts/any(i: (i/name eq 'a%26%24top%3D1%3Fb'))) and (age gt 30?)",
          "$select=name,age", "$count=true", "$top=50", "$skiptoken=<cookie pagenumber='3' />",
          "a=?", ""] ∧
      request.headers =
        [("OData-MaxVersion", "4.0"), ("OData-Version", "4.0"),
          ("Prefer", "odata.maxpagesize=50")] := by
  intro query
  have hcontacts : Avoids "contacts" ['&'] := by decide
  have hname : Condition.IsPlain ['&']
      { field := "name", comparator := .stringEquals, value := "a&$top=1?b" } := by decide
  have hage : Condition.IsPlain ['&']
      { field := "age", comparator := .greaterThan, value := "30?" } := by decide
  have hplain : query.IsPlain :=
    { filters := ⟨⟨hcontacts, trivial, hname, trivial⟩, trivial, hage, trivial⟩
      selects := by decide
      extraClauses := by decide
      orderBys := by decide }
  have hrequest : ∃ request, (({} : Dialect).entityRequest "https://server" query).result
      = .ok request := ⟨_, rfl⟩
  obtain ⟨request, hrequest⟩ := hrequest
  obtain ⟨text, htext, hpath, hclauses, hheaders⟩ :=
    entityRequest_apart hrequest (by decide) (by decide) hplain
  have hcompiled : text = "(contacts/any(i: (i/name eq 'a%26%24top%3D1%3Fb'))) and (age gt 30?)" :=
    Except.ok.inj (htext.symm.trans (by rfl))
  refine ⟨request, hrequest, hpath, ?_, ?_⟩
  · rw [hclauses, hcompiled]
    decide +kernel
  · rw [hheaders]
    decide +kernel

end Dialect

end ODataQuery
