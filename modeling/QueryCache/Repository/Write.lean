import QueryCache.Repository.Session

/-! Writes of a repository. After a write the cached reads that it may have changed are
dropped: those that contain the entity, and those that read a changed field. -/

set_option autoImplicit false

namespace QueryCache.Repository

variable {σ : Type}

def log (cache : CacheStore σ) (text : String) : Attempt (Session σ) Unit := fun s =>
  (.ok (), s.report (Backing.store cache) [⟨.debug, "core", text⟩])

/-- Drops cached reads if the settings say so. -/
def clean (cache : CacheStore σ) (r : Repository) (wanted : Bool) (tags : List String) :
    Attempt (Session σ) Unit := do
  if wanted then
    let _ ← r.invalidate cache tags

def create (cache : CacheStore σ) (r : Repository) (attributes : Record) :
    Attempt (Session σ) Record := do
  let entity ← inEntities (EntityStore.change fun s => s.insert attributes)
  let id := EntityStore.idOf entity
  log cache ("Created " ++ r.entity ++ " " ++ id.text)
  r.clean cache r.settings.cleanOnCreate (Tag.ofEntity r.entity id (attributes.map (·.1)))
  return entity

/-- Changes fields of an entity. Cached reads that neither contain it nor read one of the
fields stay. -/
def update (cache : CacheStore σ) (r : Repository) (id : Value) (changes : Record) :
    Attempt (Session σ) Record := do
  let entity ← inEntities (EntityStore.change fun s => s.update id changes)
  let fields := changes.map (·.1)
  log cache ("Updated " ++ r.entity ++ " " ++ id.text ++ ": " ++
    Coordinator.tagList (fields.mergeSort fun a b => a ≤ b))
  r.clean cache r.settings.cleanOnUpdate
    ((Tag.ofEntity r.entity id fields).filter (· != Tag.entity r.entity))
  return entity

def delete (cache : CacheStore σ) (r : Repository) (id : Value) :
    Attempt (Session σ) Bool := do
  let deleted ← inEntities (EntityStore.change fun s => s.delete id)
  if deleted then
    log cache ("Deleted " ++ r.entity ++ " " ++ id.text)
    r.clean cache r.settings.cleanOnDelete (Tag.ofEntity r.entity id)
  return deleted

/-- The query of conditions alone. -/
def queryOf (conditions : Record) : Except Failure QueryState := do
  (← Criterion.ofConditions conditions).foldlM (fun q c => c.apply q) {}

/-- Changes the first entity that meets the conditions, or creates one that does. -/
def updateOrCreate (cache : CacheStore σ) (r : Repository) (conditions values : Record) :
    Attempt (Session σ) Record := do
  let q ← ofExcept (queryOf conditions)
  match ← inEntities (EntityStore.fetch (q.setLimit (some 1))) with
  | found :: _ => r.update cache (EntityStore.idOf found) values
  | [] => r.create cache (Record.setAll conditions values)

/-- Deletes every entity that meets the conditions, and counts them. -/
def deleteWhere (cache : CacheStore σ) (r : Repository) (conditions : Record) :
    Attempt (Session σ) Int := do
  let q ← ofExcept (queryOf conditions)
  let found ← inEntities (EntityStore.fetch q)
  let deleted ← (found.map EntityStore.idOf).filterM fun id =>
    inEntities (EntityStore.change fun s => s.delete id)
  r.clean cache (r.settings.cleanOnDelete && !deleted.isEmpty)
    (deleted.map (Tag.ofEntity r.entity ·)).flatten
  log cache ("Deleted " ++ toString deleted.length ++ " " ++ r.entity ++ " entities")
  return deleted.length

end QueryCache.Repository
