import QueryCache.Coordinator.Service
import QueryCache.Repository.Retrieval

/-! Repositories at work: a store of entities, and a cache of what was read from it. -/

set_option autoImplicit false

namespace QueryCache

/-- Entities beside the cache of what was read of them. -/
structure Backing (σ : Type) where
  cache : σ
  entities : EntityStore

/-- What the views of a repository share. -/
abbrev Session (σ : Type) := Service (Backing σ)

namespace Attempt

/-- A computation on a part of a state. -/
def within {σ τ α : Type} (part : τ → σ) (update : σ → τ → τ) (work : Attempt σ α) :
    Attempt τ α := fun state =>
  let (answer, s) := work.run (part state)
  (answer, update s state)

end Attempt

namespace Backing

variable {σ α : Type}

def inCache (work : Attempt σ α) : Attempt (Backing σ) α :=
  Attempt.within (·.cache) (fun cache b => { b with cache := cache }) work

def inEntities (work : Attempt EntityStore α) : Attempt (Backing σ) α :=
  Attempt.within (·.entities) (fun entities b => { b with entities := entities }) work

/-- A cache that has entities beside it. -/
def store (cache : CacheStore σ) : CacheStore (Backing σ) where
  get key := inCache (cache.get key)
  put entry := inCache (cache.put entry)
  invalidate tags := inCache (cache.invalidate tags)
  delete key := inCache (cache.delete key)
  touch key ttl := inCache (cache.touch key ttl)
  clear := inCache cache.clear
  now b := cache.now b.cache
  report record b := { b with cache := cache.report record b.cache }
  pass seconds b := { b with cache := cache.pass seconds b.cache }
  settle b := { b with cache := cache.settle b.cache }

end Backing

namespace Repository

variable {σ α : Type}

/-- What goes on beside the coordinator. -/
def inBacking (work : Attempt (Backing σ) α) : Attempt (Session σ) α :=
  Attempt.within (·.host) (fun host s => { s with host := host }) work

/-- What goes on in the store of entities. -/
def inEntities (work : Attempt EntityStore α) : Attempt (Session σ) α :=
  inBacking (Backing.inEntities work)

def ofExcept (result : Except Failure α) : Attempt (Session σ) α := fun s => (result, s)

/-- A read that goes past the cache. -/
def compute (r : Repository) (x : Retrieval) : Attempt (Backing σ) Value := fun b =>
  match r.query x.constraints with
  | .ok q => (Backing.inEntities (x.report.answer q)).run b
  | .error e => (.error e, b)

/-- A read, through the cache where the view allows it. -/
def read (cache : CacheStore σ) (r : Repository) (x : Retrieval) :
    Attempt (Session σ) Value := do
  if r.allowsCaching x.method then
    let tags ← ofExcept (r.tags x.constraints)
    let key ← ofExcept (do r.keyOf x.method (← x.argsText))
    let call : ReadCall :=
      ⟨key, tags, some (.whole r.settings.cacheTtl), Tag.ofResult r.entity⟩
    fun s => s.read (Backing.store cache) call (r.compute x)
  else inBacking (r.compute x)

/-- Reads that may be refused before they begin. -/
def readIf (cache : CacheStore σ) (r : Repository) (x : Except Failure Retrieval) :
    Attempt (Session σ) Value := do
  r.read cache (← ofExcept x)

/-- Drops the cached reads under any of the tags. -/
def invalidate (cache : CacheStore σ) (r : Repository) (tags : List String) :
    Attempt (Session σ) Bool := fun s =>
  if r.cached then s.invalidate (Backing.store cache) tags false else (.ok true, s)

/-- Drops every cached read of the entity type. -/
def clearCache (cache : CacheStore σ) (r : Repository) : Attempt (Session σ) Bool :=
  r.invalidate cache [Tag.entity r.entity]

/-- Drops the cached reads that are pinned to the values. -/
def forgetWhere (cache : CacheStore σ) (r : Repository) (values : Record) :
    Attempt (Session σ) Bool :=
  r.invalidate cache (Tag.ofValues r.entity values)

/-! ## Reads -/

def find (cache : CacheStore σ) (r : Repository) (id : Value) : Attempt (Session σ) Value :=
  r.read cache (.find id)

/-- The entity of an identifier, which must be there. -/
def findOrFail (cache : CacheStore σ) (r : Repository) (id : Value) :
    Attempt (Session σ) Value := do
  let entity ← r.find cache id
  if entity.isNull then ofExcept (.error (.notFound r.entity id)) else return entity

def isThere (cache : CacheStore σ) (r : Repository) (id : Value) :
    Attempt (Session σ) Value := do
  return .bool !(← r.find cache id).isNull

/-- The entities with one of the values in a field; without values there are none to read. -/
def findWhereIn (cache : CacheStore σ) (r : Repository) (field : String) (values : Value) :
    Attempt (Session σ) Value :=
  if !values.isPresent then return .list []
  else
    match values.parts? with
    | some parts => r.readIf cache (Retrieval.findWhereIn field parts)
    | none => ofExcept (.error (.wrongType values.typeName))

def findWhereNotIn (cache : CacheStore σ) (r : Repository) (field : String) (values : Value) :
    Attempt (Session σ) Value :=
  match values.parts? with
  | some parts => r.readIf cache (Retrieval.findWhereNotIn field parts)
  | none => ofExcept (.error (.wrongType values.typeName))

/-- The entities that meet conditions, given as a mapping and more by name. -/
def findWhere (cache : CacheStore σ) (r : Repository) (conditions : Value) (more : Record) :
    Attempt (Session σ) Value :=
  match conditions with
  | .dict entries => r.readIf cache (Retrieval.findWhere (Record.setAll entries more))
  | other =>
    if other.isPresent then ofExcept (.error (.wrongType other.typeName))
    else r.readIf cache (Retrieval.findWhere more)

def paginate (cache : CacheStore σ) (r : Repository) (limit : Option Int) (page : Int) :
    Attempt (Session σ) Value :=
  r.read cache (.paginate r.settings limit page)

/-- A page by the names of its bounds, of which both may be left out. -/
def paginateNamed (cache : CacheStore σ) (r : Repository) (bounds : Record) :
    Attempt (Session σ) Value :=
  let limit := (bounds.get? "limit").getD .null
  if !bounds.all fun bound => bound.1 = "limit" || bound.1 = "page" then
    ofExcept (.error (.wrongType "paginate"))
  else
    match limit.isPresent, limit, (bounds.get? "page").getD (.int 1) with
    | false, _, .int page => r.paginate cache none page
    | true, .int size, .int page => r.paginate cache (some size) page
    | _, _, _ => ofExcept (.error (.wrongType "paginate"))

/-- A read by its name, its arguments and its named arguments. -/
def call (cache : CacheStore σ) (r : Repository) (method : String) (args : List Value)
    (named : Record) : Attempt (Session σ) Value :=
  match method, args, named with
  | "all", [], [] => r.read cache .all
  | "first", [], [] => r.read cache .first
  | "count", [], [] => r.read cache .count
  | "find", [id], [] => r.find cache id
  | "find_or_fail", [id], [] => r.findOrFail cache id
  | "exists", [id], [] => r.isThere cache id
  | "find_by_field", [.str field, value], [] => r.read cache (.findByField field value)
  | "find_where_in", [.str field, values], [] => r.findWhereIn cache field values
  | "find_where_not_in", [.str field, values], [] => r.findWhereNotIn cache field values
  | "find_where_between", [.str field, low, high], [] =>
    r.read cache (.findWhereBetween field low high)
  | "find_where", [], named => r.findWhere cache .null named
  | "find_where", [conditions], named => r.findWhere cache conditions named
  | "paginate", [], named => r.paginateNamed cache named
  | _, _, _ => ofExcept (.error (.wrongType method))

end Repository

end QueryCache
