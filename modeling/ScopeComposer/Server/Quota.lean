import ScopeComposer.Json.Record
import ScopeComposer.Time.Timestamp

/-!
# Request quota

How many requests a credential has left, and when the count starts anew.
-/

namespace ScopeComposer

open Json (Record Decoder)

/-- The request quota of a credential. -/
structure Quota where
  /-- The number of requests that are allowed. -/
  limit : UInt32
  /-- The number of requests that are left. -/
  remaining : UInt32
  /-- The number of requests that were made. -/
  used : UInt32
  /-- When the count starts anew. -/
  resetAt : Time.Timestamp
deriving DecidableEq, Repr

namespace Quota

/-- Whether no request is left. -/
def isExhausted (q : Quota) : Bool := q.remaining == 0

/-- A quota as JSON. -/
def toJson (q : Quota) : Json :=
  .obj [("limit", .nat q.limit.toNat), ("remaining", .nat q.remaining.toNat),
    ("used", .nat q.used.toNat), ("resetAt", q.resetAt.toJson)]

/-- Decodes a quota. -/
def decoder : Decoder Quota :=
  (Quota.mk
    <$> .required "limit" .uint32
    <*> .required "remaining" .uint32
    <*> .required "used" .uint32
    <*> .required "resetAt" Time.Timestamp.decoder : Record Quota).decoder "RateLimit"

end Quota

/-- The data of a response to a request for the quota. -/
structure QuotaData where
  /-- The quota. -/
  quota : Quota
deriving DecidableEq, Repr

namespace QuotaData

/-- The data as JSON. -/
def toJson (d : QuotaData) : Json := .obj [("rateLimit", d.quota.toJson)]

/-- Decodes the data of a response. -/
def decoder : Decoder QuotaData :=
  (QuotaData.mk <$> .required "rateLimit" Quota.decoder : Record QuotaData).decoder
    "RateLimitData"

end QuotaData

end ScopeComposer
