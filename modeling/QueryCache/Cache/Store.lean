import QueryCache.Cache.Entry
import QueryCache.Failure
import QueryCache.Log

/-! What a cache offers to those who use it, whatever keeps its entries. -/

set_option autoImplicit false

namespace QueryCache

/-- A computation that may fail and that keeps its state when it does. -/
abbrev Attempt (σ α : Type) := ExceptT Failure (StateM σ) α

/-- A cache whose state, with that of everything around it, is a `σ`. -/
structure CacheStore (σ : Type) where
  get : String → Attempt σ (Option CacheEntry)
  put : CacheEntry → Attempt σ Unit
  /-- Drops the entries under any of the tags, and counts them. -/
  invalidate : List String → Attempt σ Int
  delete : String → Attempt σ Bool
  touch : String → Number → Attempt σ Bool
  clear : Attempt σ Unit
  /-- The present. -/
  now : σ → Time
  /-- Takes note of a report. -/
  report : LogRecord → σ → σ
  /-- Lets so many seconds pass. -/
  pass : Binary64 → σ → σ
  /-- Does what is due by now. -/
  settle : σ → σ

/-- The six operations of a cache. -/
inductive StoreOperation where
  | get
  | put
  | invalidate
  | delete
  | touch
  | clear
  deriving DecidableEq, Repr

def StoreOperation.name : StoreOperation → String
  | .get => "get"
  | .put => "put"
  | .invalidate => "invalidate"
  | .delete => "delete"
  | .touch => "touch"
  | .clear => "clear"

def StoreOperation.all : List StoreOperation :=
  [.get, .put, .invalidate, .delete, .touch, .clear]

def StoreOperation.ofName? (name : String) : Option StoreOperation :=
  all.find? (·.name == name)

/-- A failure inside a cache: of its backend, or one that already tells its cause. -/
inductive StoreFault where
  | backend (text : String)
  | other (failure : Failure)
  deriving Repr

/-- The failure that users of a cache see: a failed backend is an unavailable cache. -/
def StoreFault.seen (operation : String) : StoreFault → Failure
  | .backend text => .cacheUnavailable operation (some text)
  | .other failure => failure

/-- What is reported of a failure inside a cache. -/
def StoreFault.report? (operation : String) : StoreFault → Option LogRecord
  | .backend text => some ⟨.debug, "_base", "Cache " ++ operation ++ " failed: " ++ text⟩
  | .other _ => none

/-- An entry must be reachable by a tag. -/
def CacheEntry.checkTags (entry : CacheEntry) : Except Failure Unit :=
  if entry.tags.isEmpty then .error (.untagged entry.key) else .ok ()

end QueryCache
