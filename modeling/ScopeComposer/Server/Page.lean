import ScopeComposer.Json.Record

/-!
# Pages of a collection

What a response holds of a paginated collection, and where the next page starts.
-/

namespace ScopeComposer

open Json (Record Decoder)

/-- What a response says of a page. -/
structure PageInfo where
  /-- Whether there is a page after this one. -/
  hasNextPage : Bool
  /-- Where the page ends. -/
  endCursor : Option String
deriving DecidableEq, Repr

namespace PageInfo

/-- Where the next page starts, if there is one. -/
def nextCursor? (p : PageInfo) : Option String := if p.hasNextPage then p.endCursor else none

/-- A page as JSON. -/
def toJson (p : PageInfo) : Json :=
  .obj [("hasNextPage", .bool p.hasNextPage), ("endCursor", .ofOptionalText p.endCursor)]

/-- Decodes what a response says of a page. -/
def decoder : Decoder PageInfo :=
  (PageInfo.mk
    <$> .required "hasNextPage" .bool
    <*> .nullable "endCursor" .string : Record PageInfo).decoder "PageInfo"

end PageInfo

/-- One page of a collection. -/
structure Connection where
  /-- The number of all elements of the collection. -/
  totalCount : Option UInt64
  /-- What is said of the page. -/
  pageInfo : Option PageInfo
  /-- The elements of the page. -/
  nodes : List Json

namespace Connection

/-- Where the next page starts, if there is one. -/
def nextCursor? (c : Connection) : Option String := c.pageInfo.bind PageInfo.nextCursor?

/-- A page as JSON. -/
def toJson (c : Connection) : Json :=
  .obj (Json.optionalMember "totalCount" (fun n : UInt64 => Json.nat n.toNat) c.totalCount ++
    Json.optionalMember "pageInfo" PageInfo.toJson c.pageInfo ++ [("nodes", .arr c.nodes)])

/-- Decodes a page; everything may be left out. -/
def decoder : Decoder Connection :=
  (Connection.mk
    <$> .optional "totalCount" .uint64
    <*> .optional "pageInfo" PageInfo.decoder
    <*> .orElse "nodes" (.list .value) [] : Record Connection).decoder "Connection"

end Connection

end ScopeComposer
