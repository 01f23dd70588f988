import QueryCache.Cache.Store
import QueryCache.Codec.Payload
import QueryCache.Settings.Components
import QueryCache.Table

/-! The bookkeeping of a coordinator: which keys are being computed, when tags were
invalidated, and what was counted.

Invalidations are numbered. A computation remembers the number that was current when it
began; what was invalidated under a later number is out of date for it. -/

set_option autoImplicit false

namespace QueryCache

/-- Counts of what a coordinator did. -/
structure Metrics where
  hits : Int := 0
  misses : Int := 0
  executions : Int := 0
  /-- Calls that waited for the computation of another. -/
  coalesced : Int := 0
  writes : Int := 0
  invalidations : Int := 0
  errors : Int := 0
  deriving DecidableEq, Repr

namespace Metrics

/-- The share of hits, zero before any look-up. -/
def hitRate (m : Metrics) : Except Failure Binary64 :=
  let total := m.hits + m.misses
  if 0 < total then
    match Binary64.ofRatio (m.hits < 0) m.hits.natAbs total.toNat with
    | .infinite _ => .error (.overflow "integer division result too large for a float")
    | rate => .ok rate
  else .ok Binary64.zero

def describe (m : Metrics) : Except Failure Record := do
  return [("hits", .int m.hits), ("misses", .int m.misses), ("executions", .int m.executions),
    ("coalesced", .int m.coalesced), ("writes", .int m.writes),
    ("invalidations", .int m.invalidations), ("errors", .int m.errors),
    ("hit_rate", .float (← m.hitRate))]

def hit (m : Metrics) : Metrics := { m with hits := m.hits + 1 }

def miss (m : Metrics) : Metrics := { m with misses := m.misses + 1 }

def execution (m : Metrics) : Metrics := { m with executions := m.executions + 1 }

def joined (m : Metrics) : Metrics := { m with coalesced := m.coalesced + 1 }

def write (m : Metrics) : Metrics := { m with writes := m.writes + 1 }

def error (m : Metrics) : Metrics := { m with errors := m.errors + 1 }

def invalidated (m : Metrics) (count : Int) : Metrics :=
  { m with invalidations := m.invalidations + count }

end Metrics

structure CoordinatorSettings where
  defaultTtl : Number := .whole 1800
  refreshTtlOnHit : Bool := false
  /-- How often an invalidation is tried; less than once counts as once. -/
  attempts : Int := 3
  /-- The seconds before the first retry; each further wait is twice as long. -/
  delay : Number := .binary (Binary64.ofRatio false 1 20)
  codec : Codec := {}
  deriving Repr

/-- How often an invalidation is tried, at least once. -/
def CoordinatorSettings.tries (s : CoordinatorSettings) : Nat := (max s.attempts 1).toNat

/-- The settings that follow from those of a repository and of its cache. -/
def CoordinatorSettings.ofComponents (repository : RepositorySettings) (cache : CacheSettings) :
    CoordinatorSettings where
  defaultTtl := .whole repository.cacheTtl
  refreshTtlOnHit := cache.refreshTtlOnHit
  attempts := repository.invalidationAttempts
  delay := .binary repository.invalidationDelay
  codec := cache.codec

structure Coordinator where
  settings : CoordinatorSettings := {}
  metrics : Metrics := {}
  /-- The flight that computes each key. -/
  inflight : Table Nat := []
  nextFlight : Nat := 0
  /-- The number of the latest invalidation. -/
  sequence : Nat := 0
  /-- The latest invalidation of each tag, while any key is being computed. -/
  invalidatedAt : Table Nat := []
  /-- The latest invalidation of everything. -/
  clearedAt : Nat := 0
  deriving Repr

namespace Coordinator

/-- Whether tags were invalidated after a number. -/
def staleSince (c : Coordinator) (startedAt : Nat) (tags : List String) : Bool :=
  startedAt < c.clearedAt ||
    tags.any fun tag => startedAt < (Table.get? c.invalidatedAt tag).getD 0

/-- Numbers an invalidation of tags; nobody asks later unless a key is being computed now. -/
def markInvalidated (c : Coordinator) (tags : List String) : Coordinator :=
  let number := c.sequence + 1
  { c with
    sequence := number
    invalidatedAt :=
      if c.inflight.isEmpty then c.invalidatedAt
      else tags.foldl (fun marks tag => Table.put marks tag number) c.invalidatedAt }

/-- Numbers an invalidation of everything. -/
def markCleared (c : Coordinator) : Coordinator :=
  { c with sequence := c.sequence + 1, clearedAt := c.sequence + 1 }

/-- A new flight for a key. -/
def takeOff (c : Coordinator) (key : String) : Coordinator :=
  { c with inflight := Table.put c.inflight key c.nextFlight, nextFlight := c.nextFlight + 1 }

/-- The flight of a key is over; with the last flight the marks of tags go. -/
def touchDown (c : Coordinator) (key : String) (flight : Nat) : Coordinator :=
  let inflight :=
    if Table.get? c.inflight key = some flight then Table.erase c.inflight key else c.inflight
  { c with
    inflight := inflight
    invalidatedAt := if inflight.isEmpty then [] else c.invalidatedAt }

/-- Counts with the help of a function on metrics. -/
def count (c : Coordinator) (f : Metrics → Metrics) : Coordinator :=
  { c with metrics := f c.metrics }

/-- What a coordinator reports. -/
def log (level : LogLevel) (text : String) : LogRecord := ⟨level, "coordinator", text⟩

/-- Tags as they are reported. -/
def tagList (tags : List String) : String :=
  "[" ++ commaSeparated (tags.map Text.quote) ++ "]"

end Coordinator

/-- Whether a failure says that the cache is away, which reads survive. -/
def Failure.isUnavailable : Failure → Bool
  | .cacheUnavailable _ _ => true
  | _ => false

end QueryCache
