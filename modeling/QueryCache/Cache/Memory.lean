import QueryCache.Cache.Entry
import QueryCache.Order.Heap
import QueryCache.Table

/-! A cache in memory with an index from tags to keys.

Payloads leave by themselves when their timers fire; the index of their keys stays until a
look-up or a later `put` finds them gone. Rows remember, for each expiry that was ever
recorded, when it is due; a row that no longer agrees with the recorded expiry of its key is
out of date. -/

set_option autoImplicit false

namespace QueryCache

structure MemoryCache where
  entries : Table CacheEntry := []
  /-- When the payload of a key is dropped. -/
  timers : Table Time := []
  /-- The keys under each tag that has some. -/
  tags : Table (List String) := []
  /-- The tags each indexed key stands under. -/
  keyTags : Table (List String) := []
  /-- The recorded expiry of each indexed key that has one. -/
  expiry : Table Time := []
  /-- Every expiry recorded and not yet due, beside its key. -/
  rows : Heap (Time × String) := #[]
  deriving Repr

namespace MemoryCache

/-- Drops a payload and its timer. -/
def drop (c : MemoryCache) (key : String) : MemoryCache :=
  { c with entries := Table.erase c.entries key, timers := Table.erase c.timers key }

/-- Stores a payload; a span of zero, or none, sets no timer. -/
def hold (c : MemoryCache) (now : Time) (entry : CacheEntry) (ttl : Option Binary64) :
    MemoryCache :=
  let timers := Table.erase c.timers entry.key
  { c with
    entries := Table.put c.entries entry.key entry
    timers :=
      match ttl with
      | some span => if span.isZero then timers else Table.put timers entry.key (now.add span)
      | none => timers }

/-- Takes a key out of the keys of a tag; a tag without keys is dropped. -/
def unlink (tags : Table (List String)) (key tag : String) : Table (List String) :=
  match Table.get? tags tag with
  | none => tags
  | some keys =>
    let rest := keys.filter (· != key)
    if rest.isEmpty then Table.erase tags tag else Table.put tags tag rest

/-- Adds a key to the keys of a tag. -/
def link (tags : Table (List String)) (key tag : String) : Table (List String) :=
  let keys := (Table.get? tags tag).getD []
  Table.put tags tag (if keys.contains key then keys else keys ++ [key])

/-- Whether a row is due earlier than another; of two that are due at once the one of the earlier
key. -/
def rowBefore (a b : Time × String) : Bool :=
  if a.1.le b.1 && b.1.le a.1 then decide (a.2 < b.2) else a.1.lt b.1

/-- Records the tags and the expiry of an entry. -/
def index (c : MemoryCache) (entry : CacheEntry) : MemoryCache :=
  { c with
    keyTags := Table.put c.keyTags entry.key entry.tags
    tags := entry.tags.foldl (fun tags tag => link tags entry.key tag) c.tags
    expiry :=
      match entry.expiresAt with
      | some expiry => Table.put c.expiry entry.key expiry
      | none => Table.erase c.expiry entry.key
    rows :=
      match entry.expiresAt with
      | some expiry => Heap.push rowBefore c.rows (expiry, entry.key)
      | none => c.rows }

/-- Forgets the tags and the expiry of a key. -/
def unindex (c : MemoryCache) (key : String) : MemoryCache :=
  { c with
    keyTags := Table.erase c.keyTags key
    tags := ((Table.get? c.keyTags key).getD []).foldl (fun tags tag => unlink tags key tag) c.tags
    expiry := Table.erase c.expiry key }

/-- Drops the key of a row that is due, unless the row is out of date. -/
def dropDue (c : MemoryCache) (row : Time × String) : MemoryCache :=
  match Table.get? c.expiry row.2 with
  | some expiry => if expiry.le row.1 && row.1.le expiry then (c.drop row.2).unindex row.2 else c
  | none => c

/-- Drops the keys of all rows that are due, the earliest first, up to the first that is not. -/
def prune (c : MemoryCache) (now : Time) : MemoryCache :=
  let (due, later) := Heap.popWhile rowBefore (fun row => row.1.le now) c.rows.size c.rows
  due.foldl dropDue { c with rows := later }

/-- The entry of a key; what is gone or expired is forgotten. -/
def get (c : MemoryCache) (now : Time) (key : String) : Option CacheEntry × MemoryCache :=
  match Table.get? c.entries key with
  | none => (none, c.unindex key)
  | some entry =>
    if entry.isExpired now then (none, (c.drop key).unindex key) else (some entry, c)

/-- Stores an entry in place of any other of its key; an expired one only takes the old tags
away. -/
def put (c : MemoryCache) (now : Time) (entry : CacheEntry) : MemoryCache :=
  let c := (c.prune now).unindex entry.key
  match entry.remaining now with
  | none => (c.hold now entry none).index entry
  | some left =>
    if Time.le left Binary64.zero then c else (c.hold now entry (some left)).index entry

/-- Drops every entry under any of the tags, and counts them. -/
def invalidate (c : MemoryCache) (tags : List String) : Nat × MemoryCache :=
  let keys := distinct (tags.flatMap fun tag => (Table.get? c.tags tag).getD [])
  let c := { c with tags := tags.foldl Table.erase c.tags }
  (keys.length, keys.foldl (fun c key => (c.drop key).unindex key) c)

/-- Drops an entry, and tells whether its payload was there. -/
def delete (c : MemoryCache) (key : String) : Bool × MemoryCache :=
  (Table.has c.entries key, (c.drop key).unindex key)

/-- Lets an entry that is still valid live so many seconds from now on. -/
def touch (c : MemoryCache) (now : Time) (key : String) (ttl : Binary64) : Bool × MemoryCache :=
  match Table.get? c.entries key with
  | none => (false, c)
  | some entry =>
    if entry.isExpired now then (false, c)
    else
      let entry := entry.refreshed now ttl
      (true, (c.hold now entry (some ttl)).index entry)

def clear (_ : MemoryCache) : MemoryCache := {}

/-- Timers fire a nanosecond early at most. -/
def resolution : Binary64 := Binary64.ofRatio false 1 1000000000

/-- Drops the payloads whose timers are due; their index stays. -/
def fireTimers (c : MemoryCache) (now : Time) : MemoryCache :=
  let limit := Binary64.add now resolution
  let due := c.timers.filter fun timer => !Time.le limit timer.2
  due.foldl (fun c timer => c.drop timer.1) c

/-- The tags in order, each with its keys in order. -/
def tagIndex (c : MemoryCache) : List (String × List String) :=
  (c.tags.map fun entry => (entry.1, entry.2.mergeSort fun a b => a ≤ b)).mergeSort
    fun a b => a.1 ≤ b.1

end MemoryCache

end QueryCache
