import QueryCache.Cache.Memory
import QueryCache.Cache.Store

/-! A cache in memory in use: the present, the faults that its operations are going to meet,
the operations it was reached by and what was reported. -/

set_option autoImplicit false

namespace QueryCache

/-- An operation that reached a cache. -/
inductive StoreCall where
  | get (key : String)
  | put (key : String)
  | invalidate (tags : List String)
  | delete (key : String)
  | touch (key : String) (ttl : Binary64)
  | clear
  deriving DecidableEq, Repr

def StoreCall.operation : StoreCall → StoreOperation
  | .get _ => .get
  | .put _ => .put
  | .invalidate _ => .invalidate
  | .delete _ => .delete
  | .touch _ _ => .touch
  | .clear => .clear

/-- The operation and what it was given. -/
def StoreCall.describe : StoreCall → Value
  | .get key => .ofTexts ["get", key]
  | .put key => .ofTexts ["put", key]
  | .invalidate tags => .ofTexts ("invalidate" :: tags)
  | .delete key => .ofTexts ["delete", key]
  | .touch key ttl => .list [.str "touch", .str key, .float ttl]
  | .clear => .ofTexts ["clear"]

structure CacheHost where
  now : Time := Binary64.ofInt 1000
  memory : MemoryCache := {}
  /-- What the next calls of an operation meet, in order. -/
  faults : List (StoreOperation × Option StoreFault) := []
  /-- The operations that reached the cache, in order. -/
  calls : List StoreCall := []
  logs : List LogRecord := []
  closed : Bool := false

namespace CacheHost

def report (record : LogRecord) (h : CacheHost) : CacheHost :=
  { h with logs := h.logs ++ [record] }

/-- Lets the next calls of an operation meet faults. -/
def expectFaults (h : CacheHost) (operation : StoreOperation)
    (faults : List (Option StoreFault)) : CacheHost :=
  { h with faults := h.faults ++ faults.map ((operation, ·)) }

/-- The fault that the next call of an operation meets, and those after it. -/
def nextFault (h : CacheHost) (operation : StoreOperation) : Option StoreFault × CacheHost :=
  match h.faults.find? (·.1 == operation) with
  | some (_, fault) => (fault, { h with faults := h.faults.eraseP (·.1 == operation) })
  | none => (none, h)

/-- Reaches the cache: the call is noted, and its fault, if any, comes before its effect. -/
def reach {α : Type} (call : StoreCall) (effect : Time → MemoryCache → α × MemoryCache) :
    Attempt CacheHost α := fun h =>
  let (fault, h) := { h with calls := h.calls ++ [call] }.nextFault call.operation
  match fault with
  | none =>
    let (answer, memory) := effect h.now h.memory
    (.ok answer, { h with memory := memory })
  | some fault =>
    let operation := call.operation.name
    let h := ((fault.report? operation).map fun record => h.report record).getD h
    (.error (fault.seen operation), h)

def get (key : String) : Attempt CacheHost (Option CacheEntry) :=
  reach (.get key) fun now c => c.get now key

def put (entry : CacheEntry) : Attempt CacheHost Unit := do
  let _ ← (liftM entry.checkTags : Attempt CacheHost Unit)
  reach (.put entry.key) fun now c => ((), c.put now entry)

def invalidate (tags : List String) : Attempt CacheHost Int := do
  let tags := tagSet tags
  if tags.isEmpty then return 0
  reach (.invalidate tags) fun _ c =>
    let (count, c) := c.invalidate tags
    (count, c)

def delete (key : String) : Attempt CacheHost Bool :=
  reach (.delete key) fun _ c => c.delete key

def touch (key : String) (ttl : Number) : Attempt CacheHost Bool := do
  let ttl ← (liftM (Failure.inRange ttl.toBinary?) : Attempt CacheHost Binary64)
  reach (.touch key ttl) fun now c => c.touch now key ttl

def clear : Attempt CacheHost Unit :=
  reach .clear fun _ c => ((), c.clear)

/-- Lets time pass. -/
def advance (h : CacheHost) (seconds : Binary64) : CacheHost :=
  { h with now := h.now.add seconds }

/-- Drops the payloads whose timers are due. -/
def fireTimers (h : CacheHost) : CacheHost :=
  { h with memory := h.memory.fireTimers h.now }

def store : CacheStore CacheHost where
  get := get
  put := put
  invalidate := invalidate
  delete := delete
  touch := touch
  clear := clear
  now h := h.now
  report := report
  pass seconds h := h.advance seconds
  settle := fireTimers

end CacheHost

end QueryCache
