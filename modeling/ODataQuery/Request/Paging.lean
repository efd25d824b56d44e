/-!
# Paging

Which rows of a result a request asks for. Page numbers count from zero, and a page size alone
already asks for page 0, so every other page starts one page further than its number says.
-/

namespace ODataQuery

/-- How a page of results is requested. -/
inductive Paging where
  /-- The server picks the page size. -/
  | unbounded
  /-- The first rows. -/
  | first (top : UInt32)
  /-- The rows after the first `skip` ones. -/
  | offset (top : UInt32) (skip : UInt64)
  /-- A page that the server keeps track of; its pages are numbered from one. -/
  | skipToken (top : UInt32) (pageNumber : UInt64)
deriving DecidableEq, Repr

namespace Paging

/-- The request for a page of `top` rows; a page size of zero is none. The arithmetic is exact: a
product of two numbers of 32 bits fits into 64 bits. -/
def ofPage (top page : UInt32) (useSkipTokens : Bool) : Paging :=
  if top = 0 then .unbounded
  else if page = 0 then .first top
  else
    let number := page.toUInt64 + 1
    if useSkipTokens then .skipToken top number else .offset top (number * top.toUInt64)

/-- The query part with the page size. -/
def topPart (top : UInt32) : String := "$top=" ++ Nat.repr top.toNat

/-- The query parts, in their order. -/
def queryParts : Paging → List String
  | .unbounded => []
  | .first top => [topPart top]
  | .offset top skip => [topPart top, "$skip=" ++ Nat.repr skip.toNat]
  | .skipToken top pageNumber =>
    [topPart top, "$skiptoken=<cookie pagenumber='" ++ Nat.repr pageNumber.toNat ++ "' />"]

/-- The header that a server needs to keep track of pages. -/
def preferHeader : Paging → Option (String × String)
  | .skipToken top _ => some ("Prefer", "odata.maxpagesize=" ++ Nat.repr top.toNat)
  | .unbounded | .first _ | .offset _ _ => none

end Paging

end ODataQuery
