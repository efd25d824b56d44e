import ODataQuery.Json.Decode
import ODataQuery.Proofs.Json.Scanning
import ODataQuery.Proofs.Log

/-!
# Trees as they are read

A document is read to its end as a tree exactly if the tree is spelled by the text
(`Document.ofText_eq_iff`). The tokens of a tree are read as that tree, whatever follows
(`run_tokens`). The other way, what the machine has read is always the tokens of the parts that it
holds (`Reading.tokensRead`), so a finished reading has read the tokens of its tree.
-/

namespace ODataQuery.Json

/-! ## Complete trees

A tree is complete if every array and every object in it has its closing bracket and no part is
broken. -/

theorem complete_array {items : List Json} {closed : Bool} :
    (Json.array items closed).complete = true ↔ closed = true ∧ completeItems items = true := by
  rw [complete, Bool.and_eq_true]

theorem complete_object {members : List (Option String × Json)} {closed : Bool} :
    (Json.object members closed).complete = true ↔
      closed = true ∧ completeMembers members = true := by
  rw [complete, Bool.and_eq_true]

theorem completeItems_cons {item : Json} {items : List Json} :
    completeItems (item :: items) = true ↔ item.complete = true ∧ completeItems items = true := by
  rw [completeItems, Bool.and_eq_true]

theorem completeMembers_cons {key : Option String} {value : Json}
    {members : List (Option String × Json)} :
    completeMembers ((key, value) :: members) = true ↔
      value.complete = true ∧ completeMembers members = true := by
  rw [completeMembers, Bool.and_eq_true]

/-! ## Tokens of a tree

The tokens of a tree have commas and brackets where the grammar has them. A number must not stand
directly in front of another value, and in the tokens of a tree it never does. -/

theorem tokens_array (items : List Json) (closed : Bool) (rest : List Token) :
    (Json.array items closed).tokens ++ rest
      = .openArray :: (itemTokens items ++ .closeArray :: rest) := by
  rw [tokens, List.append_assoc]
  rfl

theorem tokens_object (members : List (Option String × Json)) (closed : Bool)
    (rest : List Token) :
    (Json.object members closed).tokens ++ rest
      = .openObject :: (memberTokens members ++ .closeObject :: rest) := by
  rw [tokens, List.append_assoc]
  rfl

theorem itemTokens_cons_cons (item next : Json) (items : List Json) :
    itemTokens (item :: next :: items) = item.tokens ++ .comma :: itemTokens (next :: items) := rfl

theorem memberTokens_cons_cons (key : Option String) (value : Json) (next : Option String × Json)
    (members : List (Option String × Json)) :
    memberTokens ((key, value) :: next :: members)
      = .string key :: .colon :: value.tokens ++ .comma :: memberTokens (next :: members) := rfl

/-- What a number may stand before. -/
def EndsValue (rest : List Token) : Prop := ∀ token ∈ rest.head?, token ∈ closers

/-- A value ends at a comma or a closing bracket. -/
theorem endsValue_cons {token : Token} (h : token ∈ closers) (rest : List Token) :
    EndsValue (token :: rest) := by
  intro next hnext
  obtain rfl := Option.some.inj hnext
  exact h

/-- Anything but a number may stand in front of any token. -/
theorem isChain_cons_of_ne_number {token : Token} (h : ∀ lexeme, token ≠ .number lexeme)
    {rest : List Token} (hrest : rest.IsChain Token.Precedes) :
    (token :: rest).IsChain Token.Precedes := by
  refine List.isChain_cons.mpr ⟨fun next _ hnumber => ?_, hrest⟩
  obtain ⟨lexeme, rfl⟩ := hnumber
  exact absurd rfl (h lexeme)

mutual
/-- No number of a tree runs into the token after it. -/
theorem isChain_tokens : ∀ (j : Json) {rest : List Token}, EndsValue rest →
    rest.IsChain Token.Precedes → (j.tokens ++ rest).IsChain Token.Precedes
  | .number _, _, hend, hrest =>
    List.isChain_cons.mpr ⟨fun next hnext _ => hend next hnext, hrest⟩
  | .null, _, _, hrest | .bool _, _, _, hrest | .string _, _, _, hrest | .broken, _, _, hrest =>
    isChain_cons_of_ne_number (by simp) hrest
  | .array items _, rest, _, hrest => by
    -- What follows the bracket does not matter to the items.
    have hclose : (Token.closeArray :: rest).IsChain Token.Precedes :=
      isChain_cons_of_ne_number (by simp) hrest
    rw [tokens_array]
    exact isChain_cons_of_ne_number (by simp)
      (isChain_itemTokens items (endsValue_cons (by decide) rest) hclose)
  | .object members _, rest, _, hrest => by
    have hclose : (Token.closeObject :: rest).IsChain Token.Precedes :=
      isChain_cons_of_ne_number (by simp) hrest
    rw [tokens_object]
    exact isChain_cons_of_ne_number (by simp)
      (isChain_memberTokens members (endsValue_cons (by decide) rest) hclose)

/-- The items of an array are told apart, whatever ends the array. -/
theorem isChain_itemTokens : ∀ (items : List Json) {rest : List Token}, EndsValue rest →
    rest.IsChain Token.Precedes → (itemTokens items ++ rest).IsChain Token.Precedes
  | [], _, _, hrest => hrest
  | [item], _, hend, hrest => isChain_tokens item hend hrest
  | item :: next :: items, rest, hend, hrest => by
    have hitems := isChain_itemTokens (next :: items) hend hrest
    rw [itemTokens_cons_cons, List.append_assoc]
    exact isChain_tokens item (endsValue_cons (by decide) _)
      (isChain_cons_of_ne_number (by simp) hitems)

/-- The members of an object are told apart, whatever ends the object. -/
theorem isChain_memberTokens : ∀ (members : List (Option String × Json)) {rest : List Token},
    EndsValue rest → rest.IsChain Token.Precedes →
    (memberTokens members ++ rest).IsChain Token.Precedes
  | [], _, _, hrest => hrest
  | [(_, value)], _, hend, hrest =>
    isChain_cons_of_ne_number (by simp)
      (isChain_cons_of_ne_number (by simp) (isChain_tokens value hend hrest))
  | (key, value) :: next :: members, rest, hend, hrest => by
    have hmembers := isChain_memberTokens (next :: members) hend hrest
    rw [memberTokens_cons_cons, List.append_assoc]
    exact isChain_cons_of_ne_number (by simp) (isChain_cons_of_ne_number (by simp)
      (isChain_tokens value (endsValue_cons (by decide) _)
        (isChain_cons_of_ne_number (by simp) hmembers)))
end

mutual
/-- A complete tree has no stray token. -/
theorem stray_notMem_tokens : ∀ {j : Json}, j.complete = true → Token.stray ∉ j.tokens
  | .null, _ | .bool _, _ | .number _, _ | .string _, _ => by simp [tokens]
  | .broken, h => absurd h (by simp [complete])
  | .array items _, h => by
    have hitems := stray_notMem_itemTokens (complete_array.mp h).2
    simp [tokens, hitems]
  | .object members _, h => by
    have hmembers := stray_notMem_memberTokens (complete_object.mp h).2
    simp [tokens, hmembers]

/-- Complete items have no stray tokens. -/
theorem stray_notMem_itemTokens : ∀ {items : List Json}, completeItems items = true →
    Token.stray ∉ itemTokens items
  | [], _ => List.not_mem_nil
  | [_], h => stray_notMem_tokens (completeItems_cons.mp h).1
  | _ :: next :: items, h => by
    obtain ⟨hitem, hitems⟩ := completeItems_cons.mp h
    have hfirst := stray_notMem_tokens hitem
    have hrest := stray_notMem_itemTokens hitems
    simp [itemTokens_cons_cons, hfirst, hrest]

/-- Complete members have no stray tokens. -/
theorem stray_notMem_memberTokens : ∀ {members : List (Option String × Json)},
    completeMembers members = true → Token.stray ∉ memberTokens members
  | [], _ => List.not_mem_nil
  | [(_, _)], h => by
    have hvalue := stray_notMem_tokens (completeMembers_cons.mp h).1
    simp [memberTokens, hvalue]
  | (_, _) :: next :: members, h => by
    obtain ⟨hvalue, hmembers⟩ := completeMembers_cons.mp h
    have hfirst := stray_notMem_tokens hvalue
    have hrest := stray_notMem_memberTokens hmembers
    simp [memberTokens_cons_cons, hfirst, hrest]
end

/-! ## A tree is read from its tokens

The machine is in the middle of some frames and reads the tokens of a tree; then it goes on as if it
had been given the tree. Induction over the tree, with any tokens behind it. -/

/-- What begins a value can also begin the first item of an array. -/
theorem run_firstItem {j : Json} (hj : j.complete = true) (outer : List Frame)
    (rest : List Token) :
    (Reading.firstItem outer).run (j.tokens ++ rest)
      = (Reading.value (.item [] :: outer)).run (j.tokens ++ rest) := by
  cases j with
  | broken => exact absurd hj (by simp [complete])
  | null | bool _ | number _ | string _ | array _ _ | object _ _ => rfl

mutual
/-- The tokens of a tree are read as the tree. -/
theorem run_tokens : ∀ {j : Json}, j.complete = true → ∀ (outer : List Frame) (rest : List Token),
    (Reading.value outer).run (j.tokens ++ rest) = (Reading.supply j outer).run rest
  | .null, _, _, _ | .bool _, _, _, _ | .number _, _, _, _ | .string _, _, _, _ => rfl
  | .broken, h, _, _ => absurd h (by simp [complete])
  | .array [] _, h, _, _ => by
    obtain ⟨rfl, -⟩ := complete_array.mp h
    rfl
  | .array (item :: items) _, h, outer, rest => by
    obtain ⟨rfl, hitems⟩ := complete_array.mp h
    have hfirst : ∀ ts, (Reading.firstItem outer).run (itemTokens (item :: items) ++ ts)
        = (Reading.value (.item [] :: outer)).run (itemTokens (item :: items) ++ ts) := by
      intro ts
      have hitem := (completeItems_cons.mp hitems).1
      cases items with
      | nil => exact run_firstItem hitem outer ts
      | cons next items =>
        rw [itemTokens_cons_cons, List.append_assoc]
        exact run_firstItem hitem outer _
    rw [tokens_array]
    show (Reading.firstItem outer).run (itemTokens (item :: items) ++ .closeArray :: rest) = _
    rw [hfirst, run_itemTokens hitems (List.cons_ne_nil _ _)]
    rfl
  | .object [] _, h, _, _ => by
    obtain ⟨rfl, -⟩ := complete_object.mp h
    rfl
  | .object ((key, value) :: members) _, h, outer, rest => by
    obtain ⟨rfl, hmembers⟩ := complete_object.mp h
    -- The first key is read like a further one of no members.
    have hfirst : ∀ ts, (Reading.firstKey outer).run (memberTokens ((key, value) :: members) ++ ts)
        = (Reading.nextKey [] outer).run (memberTokens ((key, value) :: members) ++ ts) := by
      intro ts
      cases members <;> rfl
    rw [tokens_object]
    show (Reading.firstKey outer).run
      (memberTokens ((key, value) :: members) ++ .closeObject :: rest) = _
    rw [hfirst, run_memberTokens hmembers (List.cons_ne_nil _ _)]
    rfl

/-- The items of an array are read one after the other, up to its end. -/
theorem run_itemTokens : ∀ {items : List Json}, completeItems items = true → items ≠ [] →
    ∀ (before : List Json) (outer : List Frame) (rest : List Token),
    (Reading.value (.item before :: outer)).run (itemTokens items ++ .closeArray :: rest)
      = (Reading.supply (.array (before.reverse ++ items) true) outer).run rest
  | [], _, hne, _, _, _ => absurd rfl hne
  | [item], h, _, before, outer, rest => by
    rw [itemTokens, run_tokens (completeItems_cons.mp h).1]
    show (Reading.supply (.array (item :: before).reverse true) outer).run rest = _
    rw [List.reverse_cons]
  | item :: next :: items, h, _, before, outer, rest => by
    obtain ⟨hitem, hitems⟩ := completeItems_cons.mp h
    rw [itemTokens_cons_cons, List.append_assoc, run_tokens hitem]
    show (Reading.value (.item (item :: before) :: outer)).run
      (itemTokens (next :: items) ++ .closeArray :: rest) = _
    -- The first item has moved to those that have been read.
    rw [run_itemTokens hitems (List.cons_ne_nil _ _), List.reverse_cons, List.append_assoc]
    rfl

/-- The members of an object are read one after the other, up to its end. -/
theorem run_memberTokens : ∀ {members : List (Option String × Json)},
    completeMembers members = true → members ≠ [] →
    ∀ (before : List (Option String × Json)) (outer : List Frame) (rest : List Token),
    (Reading.nextKey before outer).run (memberTokens members ++ .closeObject :: rest)
      = (Reading.supply (.object (before.reverse ++ members) true) outer).run rest
  | [], _, hne, _, _, _ => absurd rfl hne
  | [(key, value)], h, _, before, outer, rest => by
    show (Reading.value (.member before key :: outer)).run (value.tokens ++ .closeObject :: rest)
      = _
    rw [run_tokens (completeMembers_cons.mp h).1]
    show (Reading.supply (.object ((key, value) :: before).reverse true) outer).run rest = _
    rw [List.reverse_cons]
  | (key, value) :: next :: members, h, _, before, outer, rest => by
    obtain ⟨hvalue, hmembers⟩ := completeMembers_cons.mp h
    rw [memberTokens_cons_cons, List.append_assoc]
    show (Reading.value (.member before key :: outer)).run (value.tokens ++
      (.comma :: memberTokens (next :: members) ++ .closeObject :: rest)) = _
    rw [run_tokens hvalue]
    show (Reading.nextKey ((key, value) :: before) outer).run
      (memberTokens (next :: members) ++ .closeObject :: rest) = _
    -- The first member has moved to those that have been read.
    rw [run_memberTokens hmembers (List.cons_ne_nil _ _), List.reverse_cons, List.append_assoc]
    rfl
end

/-! ## What the machine has read

The other direction needs an invariant: the tokens that have been read are those of the parts that
the machine holds. Each step keeps it (`hasRead_step?`), so at the end the tokens are those of the
tree (`tokens_of_run`). -/

/-- Items with a comma behind each. -/
def itemsRead (items : List Json) : List Token :=
  items.flatMap fun item => item.tokens ++ [.comma]

/-- Members with a comma behind each. -/
def membersRead (members : List (Option String × Json)) : List Token :=
  members.flatMap fun (key, value) => .string key :: .colon :: (value.tokens ++ [.comma])

/-- The tokens that led into the frames. -/
def framesRead : List Frame → List Token
  | [] => []
  | .item before :: outer => framesRead outer ++ .openArray :: itemsRead before.reverse
  | .member before key :: outer =>
    framesRead outer ++ .openObject :: (membersRead before.reverse ++ [.string key, .colon])

theorem itemTokens_concat (items : List Json) (item : Json) :
    itemTokens (items ++ [item]) = itemsRead items ++ item.tokens := by
  induction items with
  | nil => rfl
  | cons first items ih =>
    cases items with
    | nil => simp [itemTokens, itemsRead]
    | cons next items =>
      rw [List.cons_append, List.cons_append, itemTokens_cons_cons, ← List.cons_append, ih]
      simp [itemsRead]

theorem memberTokens_concat (members : List (Option String × Json)) (key : Option String)
    (value : Json) :
    memberTokens (members ++ [(key, value)])
      = membersRead members ++ .string key :: .colon :: value.tokens := by
  induction members with
  | nil => rfl
  | cons first members ih =>
    cases members with
    | nil => simp [memberTokens, membersRead]
    | cons next members =>
      rw [List.cons_append, List.cons_append, memberTokens_cons_cons, ← List.cons_append, ih]
      simp [membersRead]

/-- If there are items, there is a comma behind the last one. -/
theorem itemsRead_of_ne_nil {items : List Json} (h : items ≠ []) :
    itemsRead items = itemTokens items ++ [.comma] := by
  rw [← List.dropLast_concat_getLast h, itemTokens_concat]
  simp [itemsRead]

/-- If there are members, there is a comma behind the last one. -/
theorem membersRead_of_ne_nil {members : List (Option String × Json)} (h : members ≠ []) :
    membersRead members = memberTokens members ++ [.comma] := by
  rw [← List.dropLast_concat_getLast h, memberTokens_concat]
  simp [membersRead]

theorem completeItems_iff {items : List Json} :
    completeItems items = true ↔ ∀ item ∈ items, item.complete = true := by
  induction items with
  | nil => simp [completeItems]
  | cons item items ih => rw [completeItems_cons, ih, List.forall_mem_cons]

theorem completeMembers_iff {members : List (Option String × Json)} :
    completeMembers members = true ↔ ∀ member ∈ members, member.2.complete = true := by
  induction members with
  | nil => simp [completeMembers]
  | cons member members ih => rw [completeMembers_cons, ih, List.forall_mem_cons]

/-- What stands in the frame is complete. -/
def Frame.IsComplete : Frame → Prop
  | .item before => ∀ item ∈ before, item.complete = true
  | .member before _ => ∀ member ∈ before, member.2.complete = true

namespace Reading

/-- The tokens that led here. -/
def tokensRead : Reading → List Token
  | .value outer => framesRead outer
  | .firstItem outer => framesRead outer ++ [.openArray]
  | .afterItem items outer => framesRead outer ++ .openArray :: itemTokens items.reverse
  | .firstKey outer => framesRead outer ++ [.openObject]
  | .nextKey members outer => framesRead outer ++ .openObject :: membersRead members.reverse
  | .afterKey members key outer =>
    framesRead outer ++ .openObject :: (membersRead members.reverse ++ [.string key])
  | .afterMember members outer =>
    framesRead outer ++ .openObject :: memberTokens members.reverse
  | .finished root => root.tokens

/-- What was read so far is complete, and something stands before what comes after it. -/
def IsComplete : Reading → Prop
  | .value outer | .firstItem outer | .firstKey outer => ∀ frame ∈ outer, frame.IsComplete
  | .afterItem items outer => items ≠ [] ∧ ∀ frame ∈ .item items :: outer, frame.IsComplete
  | .nextKey members outer => ∀ frame ∈ .member members none :: outer, frame.IsComplete
  | .afterKey members key outer => ∀ frame ∈ .member members key :: outer, frame.IsComplete
  | .afterMember members outer =>
    members ≠ [] ∧ ∀ frame ∈ .member members none :: outer, frame.IsComplete
  | .finished root => root.complete = true

/-- The reading is where these tokens lead. -/
def HasRead (reading : Reading) (tokens : List Token) : Prop :=
  reading.IsComplete ∧ reading.tokensRead = tokens

/-- Giving a value to the innermost frame has read the tokens of the value. -/
theorem hasRead_supply {value : Json} {outer : List Frame} (hvalue : value.complete = true)
    (houter : ∀ frame ∈ outer, frame.IsComplete) :
    (supply value outer).HasRead (framesRead outer ++ value.tokens) := by
  match outer with
  | [] => exact ⟨hvalue, rfl⟩
  | .item before :: outer =>
    obtain ⟨hbefore, houter⟩ := List.forall_mem_cons.mp houter
    have hitem : (Frame.item (value :: before)).IsComplete :=
      List.forall_mem_cons.mpr ⟨hvalue, hbefore⟩
    refine ⟨⟨List.cons_ne_nil _ _, List.forall_mem_cons.mpr ⟨hitem, houter⟩⟩, ?_⟩
    simp [supply, tokensRead, framesRead, itemTokens_concat]
  | .member before key :: outer =>
    obtain ⟨hbefore, houter⟩ := List.forall_mem_cons.mp houter
    have hmember : (Frame.member ((key, value) :: before) none).IsComplete :=
      List.forall_mem_cons.mpr ⟨hvalue, hbefore⟩
    refine ⟨⟨List.cons_ne_nil _ _, List.forall_mem_cons.mpr ⟨hmember, houter⟩⟩, ?_⟩
    simp [supply, tokensRead, framesRead, memberTokens_concat]

/-- A token that begins a value is a value or opens a frame. -/
theorem hasRead_begin? {token : Token} {outer : List Frame} {reading : Reading}
    (houter : ∀ frame ∈ outer, frame.IsComplete) (h : begin? outer token = some reading) :
    reading.HasRead (framesRead outer ++ [token]) := by
  cases token with
  | null | bool _ | number _ | string _ =>
    obtain rfl := Option.some.inj h
    exact hasRead_supply rfl houter
  | openArray | openObject =>
    obtain rfl := Option.some.inj h
    exact ⟨houter, rfl⟩
  | closeArray | closeObject | comma | colon | stray => exact absurd h (by simp [begin?])

/-- The end of an array supplies it. -/
theorem hasRead_closeArray {items : List Json} {outer : List Frame}
    (hframes : ∀ frame ∈ .item items :: outer, frame.IsComplete) :
    (supply (.array items.reverse true) outer).HasRead
      (framesRead outer ++ .openArray :: (itemTokens items.reverse ++ [.closeArray])) := by
  obtain ⟨hitems, houter⟩ := List.forall_mem_cons.mp hframes
  have harray : (Json.array items.reverse true).complete = true := by
    rw [complete_array, completeItems_iff]
    exact ⟨rfl, fun item hmem => hitems item (List.mem_reverse.mp hmem)⟩
  exact hasRead_supply harray houter

/-- The end of an object supplies it. -/
theorem hasRead_closeObject {members : List (Option String × Json)} {key : Option String}
    {outer : List Frame} (hframes : ∀ frame ∈ .member members key :: outer, frame.IsComplete) :
    (supply (.object members.reverse true) outer).HasRead
      (framesRead outer ++ .openObject :: (memberTokens members.reverse ++ [.closeObject])) := by
  obtain ⟨hmembers, houter⟩ := List.forall_mem_cons.mp hframes
  have hobject : (Json.object members.reverse true).complete = true := by
    rw [complete_object, completeMembers_iff]
    exact ⟨rfl, fun member hmem => hmembers member (List.mem_reverse.mp hmem)⟩
  exact hasRead_supply hobject houter

/-- One token leads where it should. -/
theorem hasRead_step? {reading reading' : Reading} {tokens : List Token} {token : Token}
    (hread : reading.HasRead tokens) (h : reading.step? token = some reading') :
    reading'.HasRead (tokens ++ [token]) := by
  obtain ⟨hcomplete, rfl⟩ := hread
  -- Every state of the machine allows few tokens only; any other one ends the reading.
  cases reading with
  | value outer => exact hasRead_begin? hcomplete h
  | firstItem outer =>
    have hframes : ∀ frame ∈ Frame.item [] :: outer, frame.IsComplete :=
      List.forall_mem_cons.mpr ⟨List.forall_mem_nil _, hcomplete⟩
    by_cases htoken : token = .closeArray
    · subst htoken
      obtain rfl := Option.some.inj h
      have hclose := hasRead_closeArray hframes
      rwa [tokensRead, List.append_assoc]
    · have hbegin : begin? (.item [] :: outer) token = some reading' := by
        simpa [step?, htoken] using h
      exact hasRead_begin? hframes hbegin
  | afterItem items outer =>
    obtain ⟨hne, hframes⟩ := hcomplete
    cases token with
    | comma =>
      obtain rfl := Option.some.inj h
      have hread := itemsRead_of_ne_nil (List.reverse_ne_nil_iff.mpr hne)
      refine ⟨hframes, ?_⟩
      simp [tokensRead, framesRead, hread]
    | closeArray =>
      obtain rfl := Option.some.inj h
      have hclose := hasRead_closeArray hframes
      rwa [tokensRead, List.append_assoc]
    | _ => exact absurd h (by simp [step?])
  | firstKey outer =>
    have hframes : ∀ key, ∀ frame ∈ Frame.member [] key :: outer, frame.IsComplete :=
      fun _ => List.forall_mem_cons.mpr ⟨List.forall_mem_nil _, hcomplete⟩
    cases token with
    | closeObject =>
      obtain rfl := Option.some.inj h
      have hclose := hasRead_closeObject (hframes none)
      rwa [tokensRead, List.append_assoc]
    | string key =>
      obtain rfl := Option.some.inj h
      refine ⟨hframes key, ?_⟩
      simp [tokensRead, membersRead]
    | _ => exact absurd h (by simp [step?])
  | nextKey members outer =>
    cases token with
    | string key =>
      obtain rfl := Option.some.inj h
      obtain ⟨hmembers, houter⟩ := List.forall_mem_cons.mp hcomplete
      refine ⟨List.forall_mem_cons.mpr ⟨hmembers, houter⟩, ?_⟩
      simp [tokensRead]
    | _ => exact absurd h (by simp [step?])
  | afterKey members key outer =>
    cases token with
    | colon =>
      obtain rfl := Option.some.inj h
      refine ⟨hcomplete, ?_⟩
      simp [tokensRead, framesRead]
    | _ => exact absurd h (by simp [step?])
  | afterMember members outer =>
    obtain ⟨hne, hframes⟩ := hcomplete
    cases token with
    | comma =>
      obtain rfl := Option.some.inj h
      have hread := membersRead_of_ne_nil (List.reverse_ne_nil_iff.mpr hne)
      refine ⟨hframes, ?_⟩
      simp [tokensRead, hread]
    | closeObject =>
      obtain rfl := Option.some.inj h
      have hclose := hasRead_closeObject hframes
      rwa [tokensRead, List.append_assoc]
    | _ => exact absurd h (by simp [step?])
  | finished root => exact absurd h (by simp [step?])

/-- Induction on the tokens, with the machine somewhere. -/
theorem tokens_of_run {reading : Reading} {before rest : List Token} {tree : Json}
    (hread : reading.HasRead before) (h : reading.run rest = ⟨tree, true⟩) :
    tree.complete = true ∧ tree.tokens = before ++ rest := by
  -- Induction over the tokens that are left, with the invariant for those that have been read.
  induction rest generalizing reading before with
  | nil =>
    cases reading with
    | finished root =>
      obtain ⟨hcomplete, rfl⟩ := hread
      obtain rfl := congrArg Document.root h
      exact ⟨hcomplete, (List.append_nil _).symm⟩
    | _ => exact absurd (congrArg Document.ended h) (by simp [run])
  | cons token rest ih =>
    rw [run] at h
    cases hstep : reading.step? token with
    | none =>
      rw [hstep] at h
      exact absurd (congrArg Document.ended h) (by simp)
    | some reading' =>
      rw [hstep] at h
      have hread' := hasRead_step? hread hstep
      rw [List.append_cons]
      exact ih hread' h

end Reading

/-- A text is read to its end as a tree exactly if it spells the tree. -/
theorem Document.ofText_eq_iff {text : String} {tree : Json} :
    Document.ofText text = ⟨tree, true⟩ ↔ tree.SpelledBy text := by
  constructor
  · intro h
    -- Nothing has been read at the beginning.
    have hread : (Reading.value []).HasRead [] := ⟨List.forall_mem_nil _, rfl⟩
    obtain ⟨hcomplete, htokens⟩ := Reading.tokens_of_run hread h
    have hstray := stray_notMem_tokens hcomplete
    rw [htokens] at hstray
    refine ⟨hcomplete, ?_⟩
    rw [htokens]
    exact lexes_tokens hstray
  · rintro ⟨hcomplete, hlexes⟩
    have hchain : (tree.tokens ++ []).IsChain Token.Precedes :=
      isChain_tokens tree (fun _ hnext => absurd hnext (by simp)) .nil
    rw [List.append_nil] at hchain
    have hrun := run_tokens hcomplete [] []
    rw [List.append_nil] at hrun
    rw [Document.ofText, tokens_of_lexes hlexes hchain, hrun]
    rfl

/-- A text spells one tree at most. -/
theorem SpelledBy.unique {text : String} {tree tree' : Json} (h : tree.SpelledBy text)
    (h' : tree'.SpelledBy text) : tree = tree' := by
  have hread := Document.ofText_eq_iff.mpr h
  rw [Document.ofText_eq_iff.mpr h'] at hread
  exact (congrArg Document.root hread).symm

/-- A text is read like the tree that it spells. -/
theorem Reader.ofText_of_spelledBy {α : Type} (read : Reader α) {text : String} {tree : Json}
    (h : tree.SpelledBy text) : read.ofText text = read .text maxDepth tree := by
  rw [Reader.ofText, Document.ofText_eq_iff.mpr h]
  cases hread : read .text maxDepth tree <;> rfl

/-- A text is read as a value exactly if the tree that it spells is. -/
theorem Reader.ofText_eq_ok_iff {α : Type} {read : Reader α} {text : String} {value : α} :
    read.ofText text = .ok value ↔
      ∃ tree, tree.SpelledBy text ∧ read .text maxDepth tree = .ok value := by
  constructor
  · intro h
    rw [Reader.ofText] at h
    obtain ⟨result, hread, h⟩ := bind_eq_ok_iff.mp h
    split at h
    · next hended =>
      obtain rfl := Except.ok.inj h
      have hdocument : Document.ofText text = ⟨(Document.ofText text).root, true⟩ := by
        rw [← hended]
      exact ⟨_, Document.ofText_eq_iff.mp hdocument, hread⟩
    · exact absurd h (by simp)
  · rintro ⟨tree, hspelled, hread⟩
    rw [read.ofText_of_spelledBy hspelled, hread]

end ODataQuery.Json
