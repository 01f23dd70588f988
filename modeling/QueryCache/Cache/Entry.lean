import QueryCache.Cache.Time
import QueryCache.Codec.Bytes
import QueryCache.Failure
import QueryCache.Request.Basic

/-! Cached payloads with the tags that invalidate them. -/

set_option autoImplicit false

namespace QueryCache

/-- What is told of an expiry at some time; without one a thing lives for ever. -/
def describeExpiry (expiresAt : Option Time) (now : Time) : Record := [
  ("expires_at", .ofOption .float expiresAt),
  ("remaining", .ofOption .float (expiresAt.map (Time.left now))),
  ("expired", .bool (expiresAt.any fun expiry => expiry.le now))]

/-- Puts a tag in its place among tags in order. -/
def placeTag (tag : String) : List String → List String
  | [] => [tag]
  | other :: rest =>
    if tag ≤ other then tag :: other :: rest else other :: placeTag tag rest

/-- The tags in order, each once. -/
def tagSet (tags : List String) : List String :=
  (distinct tags).foldr placeTag []

structure CacheEntry where
  key : String
  /-- In order, each once. -/
  tags : List String
  payload : Bytes
  /-- The first point in time at which the entry is no longer valid. -/
  expiresAt : Option Time := none
  deriving DecidableEq, Repr

namespace CacheEntry

/-- An entry that lives so many seconds from now on; without a span, or with one of zero, it
does not expire. -/
def create (now : Time) (key : String) (tags : List String) (payload : Bytes)
    (ttl : Option Number) : Except Failure CacheEntry := do
  let expiry ← (ttl.filter fun span => !span.isZero).mapM fun span =>
    Failure.inRange (now.after? span)
  return ⟨key, tagSet tags, payload, expiry⟩

def isExpired (entry : CacheEntry) (now : Time) : Bool :=
  entry.expiresAt.any fun expiry => expiry.le now

/-- The seconds an entry still lives. -/
def remaining (entry : CacheEntry) (now : Time) : Option Binary64 :=
  entry.expiresAt.map (Time.left now)

/-- The entry with its expiry so many seconds from now. -/
def refreshed (entry : CacheEntry) (now : Time) (ttl : Binary64) : CacheEntry :=
  { entry with expiresAt := some (now.add ttl) }

/-- An entry as it stands at some time, its payload apart. -/
def describe (entry : CacheEntry) (now : Time) : Record :=
  [("key", .str entry.key), ("tags", .ofTexts entry.tags)] ++ describeExpiry entry.expiresAt now

end CacheEntry

end QueryCache
