import ODataQuery.Json.Token

/-!
# JSON documents

The tree of a text is built from its tokens by a machine that keeps the open arrays and objects on
a stack (`Reading.step?`). Where no step is possible the open ones are left as they are and marked
as not closed.
-/

namespace ODataQuery.Json

/-- An array that waits for an item or an object that waits for the value of `key`. What was read
before it stands last first. -/
inductive Frame where
  | item (before : List Json)
  | member (before : List (Option String × Json)) (key : Option String)
deriving Inhabited

/-- What is expected next, inside the frames of `outer`, innermost first. -/
inductive Reading where
  | value (outer : List Frame)
  | firstItem (outer : List Frame)
  | afterItem (items : List Json) (outer : List Frame)
  | firstKey (outer : List Frame)
  | nextKey (members : List (Option String × Json)) (outer : List Frame)
  | afterKey (members : List (Option String × Json)) (key : Option String) (outer : List Frame)
  | afterMember (members : List (Option String × Json)) (outer : List Frame)
  | finished (root : Json)
deriving Inhabited

/-- What a text says, and whether only blanks follow it. -/
structure Document where
  root : Json
  ended : Bool
deriving Inhabited

namespace Reading

/-- Gives the innermost frame the value that it waits for. -/
def supply (value : Json) : List Frame → Reading
  | [] => .finished value
  | .item before :: outer => .afterItem (value :: before) outer
  | .member before key :: outer => .afterMember ((key, value) :: before) outer

/-- The step at a token that begins a value. -/
def begin? (outer : List Frame) : Token → Option Reading
  | .null => some (supply .null outer)
  | .bool b => some (supply (.bool b) outer)
  | .number lexeme => some (supply (.number lexeme) outer)
  | .string text => some (supply (.string text) outer)
  | .openArray => some (.firstItem outer)
  | .openObject => some (.firstKey outer)
  | _ => none

/-- Takes one token; `none` if it cannot stand here. -/
def step? (reading : Reading) (token : Token) : Option Reading :=
  match reading, token with
  | .value outer, token => begin? outer token
  | .firstItem outer, .closeArray => some (supply (.array [] true) outer)
  | .firstItem outer, token => begin? (.item [] :: outer) token
  | .afterItem items outer, .comma => some (.value (.item items :: outer))
  | .afterItem items outer, .closeArray => some (supply (.array items.reverse true) outer)
  | .firstKey outer, .closeObject => some (supply (.object [] true) outer)
  | .firstKey outer, .string key => some (.afterKey [] key outer)
  | .nextKey members outer, .string key => some (.afterKey members key outer)
  | .afterKey members key outer, .colon => some (.value (.member members key :: outer))
  | .afterMember members outer, .comma => some (.nextKey members outer)
  | .afterMember members outer, .closeObject =>
    some (supply (.object members.reverse true) outer)
  | _, _ => none

/-- Leaves every frame with `value` as its last part. -/
def leaveOpen (value : Json) : List Frame → Json
  | [] => value
  | .item before :: outer => leaveOpen (.array (value :: before).reverse false) outer
  | .member before key :: outer =>
    leaveOpen (.object ((key, value) :: before).reverse false) outer

/-- What was read when nothing more can be. -/
def abandon : Reading → Json
  | .value outer => leaveOpen .broken outer
  | .firstItem outer => leaveOpen (.array [] false) outer
  | .afterItem items outer => leaveOpen (.array items.reverse false) outer
  | .firstKey outer => leaveOpen (.object [] false) outer
  | .nextKey members outer => leaveOpen (.object members.reverse false) outer
  | .afterKey members key outer =>
    leaveOpen (.object ((key, .broken) :: members).reverse false) outer
  | .afterMember members outer => leaveOpen (.object members.reverse false) outer
  | .finished root => root

/-- Reads the tokens that are left. -/
def run (reading : Reading) : List Token → Document
  | [] =>
    match reading with
    | .finished root => ⟨root, true⟩
    | reading => ⟨reading.abandon, false⟩
  | token :: tokens =>
    match reading.step? token with
    | some reading' => reading'.run tokens
    | none => ⟨reading.abandon, false⟩

end Reading

/-- What a text says. -/
def Document.ofText (text : String) : Document :=
  (Reading.value []).run (Scan.gap.tokens text.toList)

end ODataQuery.Json
