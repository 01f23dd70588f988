import QueryCache.Coordinator.Basic

/-! Reading through a cache, one key computed by one call at a time.

A call looks its key up. On a miss it joins the flight that computes the key, or takes the
lead: then it looks the key up once more, computes, and stores the value. A call is in one
phase between any two of its interactions; every interaction with the cache, the computation
or another call is one step from phase to phase. -/

set_option autoImplicit false

namespace QueryCache

/-- What a call asks for. -/
structure ReadCall where
  key : String
  tags : List String
  ttl : Option Number := none
  /-- Further tags that depend on the value. -/
  resultTags : Value → List String := fun _ => []

inductive Role where
  /-- Not leading; `first` until the first look-up is over. -/
  | joining (first : Bool)
  /-- Leading a flight that began under the number of an invalidation. -/
  | leading (flight startedAt : Nat)
  deriving DecidableEq, Repr

/-- What a call is waiting for. -/
inductive Phase where
  /-- The entry of the key. -/
  | lookup (role : Role)
  /-- The removal of an entry that cannot be decoded. -/
  | discard (role : Role)
  /-- The renewal of the entry of a hit. -/
  | refresh (role : Role) (value : Value)
  /-- The flight of another call. -/
  | waiting (flight : Nat)
  | computing (flight startedAt : Nat)
  /-- The storing of the computed value. -/
  | storing (flight startedAt : Nat) (value : Value) (entry : CacheEntry)
  | finished (outcome : Except Failure Value)
  deriving Repr

/-- How a flight ends for the calls that joined it. -/
inductive Landing where
  | value (v : Value)
  | failed (f : Failure)
  /-- The leading call went away. -/
  | abandoned
  deriving Repr

/-- What a step leads to. -/
structure Step where
  coordinator : Coordinator
  phase : Phase
  logs : List LogRecord := []
  landing : Option (Nat × Landing) := none

namespace Step

/-- A step with reports before its own. -/
def reporting (step : Step) (records : List LogRecord) : Step :=
  { step with logs := records ++ step.logs }

end Step

namespace Coordinator

/-- The first phase of a call. -/
def start : Phase := .lookup (.joining true)

/-- A call ends; if it leads, its flight ends with it. -/
def finish (c : Coordinator) (call : ReadCall) (role : Role) (landing : Landing)
    (outcome : Except Failure Value) : Step :=
  match role with
  | .joining _ => ⟨c, .finished outcome, [], none⟩
  | .leading flight _ =>
    ⟨c.touchDown call.key flight, .finished outcome, [], some (flight, landing)⟩

def succeed (c : Coordinator) (call : ReadCall) (role : Role) (value : Value) : Step :=
  c.finish call role (.value value) (.ok value)

def fail (c : Coordinator) (call : ReadCall) (role : Role) (failure : Failure) : Step :=
  c.finish call role (.failed failure) (.error failure)

/-- The caller of a call goes away. -/
def abandon (c : Coordinator) (call : ReadCall) (role : Role) : Step :=
  c.finish call role .abandoned (.error .cancelled)

/-- A look-up found a value. -/
def hit (c : Coordinator) (call : ReadCall) (role : Role) (value : Value) : Step :=
  match role with
  | .joining first =>
    let c := if first then c.count Metrics.hit else c
    (c.succeed call role value).reporting [log .debug ("Cache hit: " ++ call.key)]
  | .leading _ _ => c.succeed call role value

/-- A call that found nothing joins the flight of its key, or takes the lead. -/
def join (c : Coordinator) (call : ReadCall) : Step :=
  match Table.get? c.inflight call.key with
  | some flight => ⟨c.count Metrics.joined, .waiting flight, [], none⟩
  | none =>
    ⟨c.takeOff call.key, .lookup (.leading c.nextFlight c.sequence), [], none⟩

/-- A look-up found nothing. -/
def miss (c : Coordinator) (call : ReadCall) (role : Role) : Step :=
  match role with
  | .joining true =>
    ((c.count Metrics.miss).join call).reporting [log .debug ("Cache miss: " ++ call.key)]
  | .joining false => c.join call
  | .leading flight startedAt =>
    ⟨c.count Metrics.execution, .computing flight startedAt, [], none⟩

/-- An unavailable cache is reported, counted and lived with; any other failure ends the
call. -/
def survive (c : Coordinator) (call : ReadCall) (role : Role) (failure : Failure)
    (report : String) (next : Coordinator → Step) : Step :=
  if failure.isUnavailable then
    (next (c.count Metrics.error)).reporting [log .warning (report ++ ": " ++ failure.text)]
  else c.fail call role failure

def afterLookup (c : Coordinator) (call : ReadCall) (role : Role)
    (reply : Except Failure (Option CacheEntry)) : Step :=
  match reply with
  | .error e =>
    c.survive call role e ("Cache unavailable, reading " ++ call.key ++ " from the store")
      fun c => c.miss call role
  | .ok none => c.miss call role
  | .ok (some entry) =>
    match c.settings.codec.decode entry.payload with
    | .error e =>
      ⟨c.count Metrics.error, .discard role,
        [log .warning ("Dropping undecodable cache entry " ++ call.key ++ ": " ++ e.text)], none⟩
    | .ok value =>
      if c.settings.refreshTtlOnHit then ⟨c, .refresh role value, [], none⟩
      else c.hit call role value

def afterDiscard (c : Coordinator) (call : ReadCall) (role : Role)
    (reply : Except Failure Bool) : Step :=
  match reply with
  | .error e =>
    c.survive call role e ("Cache unavailable, " ++ call.key ++ " not forgotten")
      fun c => c.miss call role
  | .ok _ => c.miss call role

def afterRefresh (c : Coordinator) (call : ReadCall) (role : Role) (value : Value)
    (reply : Except Failure Bool) : Step :=
  match reply with
  | .error e =>
    c.survive call role e ("Cache unavailable, TTL of " ++ call.key ++ " not refreshed")
      fun c => c.hit call role value
  | .ok _ => c.hit call role value

/-- The flight that a call joined has landed; after an abandoned one the call starts over. -/
def afterLanding (c : Coordinator) (call : ReadCall) (landing : Landing) : Step :=
  match landing with
  | .value value => c.succeed call (.joining false) value
  | .failed failure => c.fail call (.joining false) failure
  | .abandoned =>
    ⟨c, .lookup (.joining false),
      [log .debug ("Computation for " ++ call.key ++ " abandoned, retrying")], none⟩

/-- The seconds that the entry of a call lives. -/
def lifetime (c : Coordinator) (call : ReadCall) : Number :=
  (call.ttl.filter fun span => !span.isZero).getD c.settings.defaultTtl

/-- A computed value is stored, unless its tags were invalidated while it was computed or it
cannot be encoded. -/
def store (c : Coordinator) (now : Time) (call : ReadCall) (flight startedAt : Nat)
    (value : Value) : Step :=
  let role := Role.leading flight startedAt
  let tags := tagSet (call.tags ++ call.resultTags value)
  if c.staleSince startedAt tags then
    (c.succeed call role value).reporting [log .debug
      ("Not caching " ++ call.key ++ ": its tags were invalidated while computing")]
  else
    match c.settings.codec.encode value with
    | .error e =>
      ((c.count Metrics.error).succeed call role value).reporting [log .warning
        ("Not caching " ++ call.key ++ ", value is not serializable: " ++ e.text)]
    | .ok payload =>
      match CacheEntry.create now call.key tags payload (some (c.lifetime call)) with
      | .ok entry => ⟨c, .storing flight startedAt value entry, [], none⟩
      | .error e => c.fail call role e

def afterComputing (c : Coordinator) (now : Time) (call : ReadCall) (flight startedAt : Nat)
    (result : Except Failure Value) : Step :=
  match result with
  | .ok value => c.store now call flight startedAt value
  | .error .cancelled => c.abandon call (.leading flight startedAt)
  | .error e => c.fail call (.leading flight startedAt) e

def afterStoring (c : Coordinator) (call : ReadCall) (flight startedAt : Nat) (value : Value)
    (reply : Except Failure Unit) : Step :=
  let role := Role.leading flight startedAt
  match reply with
  | .error e =>
    c.survive call role e ("Cache unavailable, " ++ call.key ++ " not cached")
      fun c => c.succeed call role value
  | .ok _ => (c.count Metrics.write).succeed call role value

/-- The caller of a call in some phase goes away. -/
def cancel (c : Coordinator) (call : ReadCall) : Phase → Step
  | .lookup role | .discard role | .refresh role _ => c.abandon call role
  | .waiting _ => c.abandon call (.joining false)
  | .computing flight startedAt | .storing flight startedAt _ _ =>
    c.abandon call (.leading flight startedAt)
  | .finished outcome => ⟨c, .finished outcome, [], none⟩

/-- How many more interactions with the cache can follow before the call computes, waits or
ends. -/
def rank : Phase → Nat
  | .lookup (.joining _) => 4
  | .discard (.joining _) | .refresh (.joining _) _ => 3
  | .lookup (.leading _ _) => 2
  | .discard (.leading _ _) | .refresh (.leading _ _) _ | .storing _ _ _ _ => 1
  | .waiting _ | .computing _ _ | .finished _ => 0

end Coordinator

end QueryCache
