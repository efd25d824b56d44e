import ODataQuery.Filter.Basic

/-!
# Places in filter trees

A place is where a filter stands in a tree. `places` lists the places of a tree in the order in
which they are written: a filter comes before what is inside it, and that before the next sibling.
Whatever the depth, the list has exactly the filters that stand in the tree
(`exists_mem_places_iff`).
-/

namespace ODataQuery

/-- A filter, its index among its siblings, and the collection of the nearest quantified filter
around it, if there is one. -/
structure Place where
  enclosing : Option String
  index : Nat
  filter : Filter

mutual
/-- The places of a filter and of all that is inside it, in the order in which they are written. -/
def Filter.places (enclosing : Option String) (index : Nat) : Filter → List Place
  | .raw c text => [⟨enclosing, index, .raw c text⟩]
  | .leaf c condition => [⟨enclosing, index, .leaf c condition⟩]
  | .quantified c field quantifier children =>
    ⟨enclosing, index, .quantified c field quantifier children⟩
      :: placesFrom (some field) 0 children
  | .group c children => ⟨enclosing, index, .group c children⟩ :: placesFrom enclosing 0 children

/-- The places of siblings, the first of which has the given index, and of all that is inside
them. -/
def placesFrom (enclosing : Option String) (index : Nat) : List Filter → List Place
  | [] => []
  | filter :: siblings => filter.places enclosing index ++ placesFrom enclosing (index + 1) siblings
end

/-- The places of a tree in the order in which they are written. -/
def places (filters : List Filter) : List Place := placesFrom none 0 filters

/-- A filter stands in a tree at some depth, below the collection of the nearest quantified filter
around it. -/
inductive StandsIn (filters : List Filter) : Option String → Filter → Prop where
  | top {filter : Filter} (h : filter ∈ filters) : StandsIn filters none filter
  | quantified {enclosing : Option String} {c : Combinator} {field : String}
    {quantifier : Quantifier} {children : List Filter} {filter : Filter}
    (h : StandsIn filters enclosing (.quantified c field quantifier children))
    (hfilter : filter ∈ children) : StandsIn filters (some field) filter
  | group {enclosing : Option String} {c : Combinator} {children : List Filter} {filter : Filter}
    (h : StandsIn filters enclosing (.group c children)) (hfilter : filter ∈ children) :
    StandsIn filters enclosing filter

section Places

variable {enclosing : Option String} {index : Nat}

/-- A filter stands in the first of its own places. -/
theorem Filter.self_mem_places (filter : Filter) :
    ⟨enclosing, index, filter⟩ ∈ filter.places enclosing index := by
  cases filter <;> exact List.mem_cons_self

/-- Each of some siblings has a place, at the index where it stands. -/
theorem exists_mem_placesFrom {filter : Filter} {filters : List Filter} (h : filter ∈ filters) :
    ∃ i, ⟨enclosing, i, filter⟩ ∈ placesFrom enclosing index filters := by
  induction filters generalizing index with
  | nil => exact absurd h List.not_mem_nil
  | cons first siblings ih =>
    rw [placesFrom]
    rcases List.mem_cons.mp h with rfl | h
    · exact ⟨index, List.mem_append_left _ filter.self_mem_places⟩
    · obtain ⟨i, hi⟩ := @ih (index + 1) h
      exact ⟨i, List.mem_append_right _ hi⟩

end Places

mutual
/-- What is inside a filter that has a place in another one has its place there too. -/
theorem Filter.places_subset {place : Place} : ∀ {enclosing : Option String} {index : Nat}
    {filter : Filter}, place ∈ filter.places enclosing index →
      place.filter.places place.enclosing place.index ⊆ filter.places enclosing index
  | _, _, .raw _ _, h | _, _, .leaf _ _, h => by
    obtain rfl := List.mem_singleton.mp h
    exact List.Subset.refl _
  | _, _, .quantified _ _ _ _, h | _, _, .group _ _, h => by
    rcases List.mem_cons.mp h with rfl | h
    · exact List.Subset.refl _
    · exact List.subset_cons_of_subset _ (placesFrom_subset h)

/-- What is below a place of some siblings is below these siblings. -/
theorem placesFrom_subset {place : Place} : ∀ {enclosing : Option String} {index : Nat}
    {filters : List Filter}, place ∈ placesFrom enclosing index filters →
      place.filter.places place.enclosing place.index ⊆ placesFrom enclosing index filters
  | _, _, _ :: _, h => by
    rw [placesFrom] at h ⊢
    rcases List.mem_append.mp h with h | h
    · exact List.subset_append_of_subset_left _ (Filter.places_subset h)
    · exact List.subset_append_of_subset_right _ (placesFrom_subset h)
end

mutual
/-- Whatever is in a place of a filter stands where the filter stands. -/
theorem Filter.standsIn_of_mem_places {filters : List Filter} {place : Place} :
    ∀ {enclosing : Option String} {index : Nat} {filter : Filter},
      StandsIn filters enclosing filter → place ∈ filter.places enclosing index →
        StandsIn filters place.enclosing place.filter
  | _, _, .raw _ _, hstands, h | _, _, .leaf _ _, hstands, h => by
    obtain rfl := List.mem_singleton.mp h
    exact hstands
  | _, _, .quantified _ _ _ _, hstands, h => by
    rcases List.mem_cons.mp h with rfl | h
    · exact hstands
    · exact standsIn_of_mem_placesFrom (fun _ hfilter => .quantified hstands hfilter) h
  | _, _, .group _ _, hstands, h => by
    rcases List.mem_cons.mp h with rfl | h
    · exact hstands
    · exact standsIn_of_mem_placesFrom (fun _ hfilter => .group hstands hfilter) h

/-- Whatever is in a place of some filters stands where these stand. -/
theorem standsIn_of_mem_placesFrom {filters : List Filter} {place : Place} :
    ∀ {enclosing : Option String} {index : Nat} {siblings : List Filter},
      (∀ filter ∈ siblings, StandsIn filters enclosing filter) →
        place ∈ placesFrom enclosing index siblings →
          StandsIn filters place.enclosing place.filter
  | _, _, filter :: _, hstands, h => by
    rw [placesFrom] at h
    rcases List.mem_append.mp h with h | h
    · exact Filter.standsIn_of_mem_places (hstands filter List.mem_cons_self) h
    · exact standsIn_of_mem_placesFrom (fun f hf => hstands f (List.mem_cons_of_mem _ hf)) h
end

/-- The places of a tree are where its filters stand. -/
theorem exists_mem_places_iff {filters : List Filter} {enclosing : Option String}
    {filter : Filter} :
    (∃ i, ⟨enclosing, i, filter⟩ ∈ places filters) ↔ StandsIn filters enclosing filter := by
  constructor
  · rintro ⟨_, h⟩
    exact standsIn_of_mem_placesFrom (fun _ => .top) h
  · intro h
    induction h with
    | top h => exact exists_mem_placesFrom h
    | quantified _ hfilter ih | group _ hfilter ih =>
      obtain ⟨i, hi⟩ := ih
      obtain ⟨j, hj⟩ := exists_mem_placesFrom hfilter
      exact ⟨j, placesFrom_subset hi (List.mem_cons_of_mem _ hj)⟩

end ODataQuery
