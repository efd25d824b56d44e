/-!
# JSON trees

A `Json` tree is what a JSON text says, kept as it was read: numbers as they were written, members
of objects in their order and with repeated keys. A text that breaks off, or stops being JSON, has
a tree too: its open arrays and objects are marked as not closed and `broken` stands for a value
that could not be read. A reader that visits the tree in order therefore meets the first fault of
a text where the text has it.
-/

namespace ODataQuery

/-- What a JSON text says. A string is `none` if one of its escapes names half of a surrogate
pair: such a string is well-formed but holds no text. -/
inductive Json where
  | null
  | bool (b : Bool)
  | number (lexeme : String)
  | string (text : Option String)
  | array (items : List Json) (closed : Bool)
  | object (members : List (Option String × Json)) (closed : Bool)
  | broken
deriving Inhabited

namespace Json

/-- An array with all its items. -/
def list (items : List Json) : Json := .array items true

/-- An object with all its members. -/
def record (members : List (String × Json)) : Json :=
  .object (members.map fun (key, value) => (some key, value)) true

/-- A string with this text. -/
def text (s : String) : Json := .string (some s)

/-- The number without fraction and exponent. -/
def nat (n : Nat) : Json := .number (Nat.repr n)

/-! ## Complete trees

A text that ends too early still has a tree, in which arrays and objects are open. So readers can
tell what is wrong first, a value or the end of the text. -/

mutual
/-- Whether every array and object is closed and nothing is broken, at any depth. -/
def complete : Json → Bool
  | .broken => false
  | .array items closed => closed && completeItems items
  | .object members closed => closed && completeMembers members
  | _ => true

/-- `complete` for every item. -/
def completeItems : List Json → Bool
  | [] => true
  | item :: items => item.complete && completeItems items

/-- `complete` for every value. -/
def completeMembers : List (Option String × Json) → Bool
  | [] => true
  | (_, value) :: members => value.complete && completeMembers members
end

/-! ## Nesting

Readers refuse what nests too deep. -/

mutual
/-- How many arrays and objects are open at once, at most. -/
def depth : Json → Nat
  | .array items _ => depthItems items + 1
  | .object members _ => depthMembers members + 1
  | _ => 0

/-- The greatest depth of an item. -/
def depthItems : List Json → Nat
  | [] => 0
  | item :: items => max item.depth (depthItems items)

/-- The greatest depth of a value. -/
def depthMembers : List (Option String × Json) → Nat
  | [] => 0
  | (_, value) :: members => max value.depth (depthMembers members)
end

/-! ## Members by key

Values that are not read from a text have their members in the order of the keys, each key once. -/

/-- Puts a member in its place among members with ascending keys, instead of one with its key. -/
def insertMember (key : Option String) (value : Json) :
    List (Option String × Json) → List (Option String × Json)
  | [] => [(key, value)]
  | (key', value') :: members =>
    if key = key' then (key, value) :: members
    else if key.getD "" < key'.getD "" then (key, value) :: (key', value') :: members
    else (key', value') :: insertMember key value members

mutual
/-- The same value with the members of every object in ascending order of their keys. Of several
members with one key the last one counts. -/
def sorted : Json → Json
  | .array items closed => .array (sortedItems items) closed
  | .object members closed => .object (sortedMembers [] members) closed
  | j => j

/-- `sorted` for every item. -/
def sortedItems : List Json → List Json
  | [] => []
  | item :: items => item.sorted :: sortedItems items

/-- Adds the members to `placed`, whose keys ascend. -/
def sortedMembers (placed : List (Option String × Json)) :
    List (Option String × Json) → List (Option String × Json)
  | [] => placed
  | (key, value) :: members => sortedMembers (insertMember key value.sorted placed) members
end

/-- The value of the last member with the key. -/
def get? (j : Json) (key : String) : Option Json :=
  match j with
  | .object members _ => (members.reverse.find? fun m => m.1 == some key).map (·.2)
  | _ => none

end Json

end ODataQuery
