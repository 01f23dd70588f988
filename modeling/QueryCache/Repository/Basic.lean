import QueryCache.Key.Derive
import QueryCache.Request.Parser
import QueryCache.Settings.Components
import QueryCache.Tag
import QueryCache.Value.Basic

/-! Views of a repository: an entity type with its settings and the criteria that every read
of it is under. Changing the criteria gives another view. -/

set_option autoImplicit false

namespace QueryCache

structure Repository where
  entity : String
  settings : RepositorySettings := {}
  /-- Whether there is a coordinator to read through. -/
  cached : Bool := true
  transcoder : Option Transcoder := none
  /-- The fields that requests may use; none means any. -/
  searchable : List SearchField := []
  pipeline : Pipeline := {}
  /-- Whether reads go past the cache. -/
  skipCache : Bool := false

/-- The operator that a value names. -/
def Operator.ofValue : Value → Except Failure Operator
  | .operator op => .ok op
  | .str token =>
    match Operator.ofToken? token.toList with
    | some op => .ok op
    | none => .error (.unknownOperator (Text.quote token))
  | .bytes token => .error (.unknownOperator (Value.bytes token).literal)
  | _ => .error .missingAttribute

namespace SearchField

/-- A searchable field; its default operator must compare with one value. -/
def ofEntry (entry : String × Value) : Except Failure SearchField := do
  if entry.2.isNull then return ⟨entry.1, none⟩
  let op ← Operator.ofValue entry.2
  if op.isMultiValue || op.isNullary then throw (.searchableOperator entry.1 op)
  return ⟨entry.1, some op⟩

/-- Searchable fields, given as a mapping to default operators or as a list of names. -/
def ofValue (given : Value) : Except Failure (List SearchField) :=
  match given with
  | .dict entries => entries.mapM ofEntry
  | .list names => .ok (names.map fun name => ⟨name.text, none⟩)
  | _ => .ok []

end SearchField

namespace Repository

/-- The entity type that a class stands for. -/
def entityOfClass (name : String) : String := String.ofList (Text.lower name.toList)

def pushed (r : Repository) (criteria : List Criterion) : Repository :=
  { r with pipeline := r.pipeline.pushed criteria }

def popped (r : Repository) (target : Identity) : Repository :=
  { r with pipeline := r.pipeline.popped target }

def cleared (r : Repository) : Repository := { r with pipeline := r.pipeline.cleared }

def skippingCriteria (r : Repository) (skip : Bool := true) : Repository :=
  { r with pipeline := r.pipeline.skipping skip }

def skippingCache (r : Repository) (skip : Bool := true) : Repository :=
  { r with skipCache := skip }

/-- The criterion of a request. -/
def requestCriterion (r : Repository) (params : Record) : Except Failure RequestCriterion := do
  let s := r.settings
  let request ← (Request.parse params s.params s.enhancedSearch).mapError Failure.parse
  return ⟨request, s.decodePolicy, s.decodeSearch, s.decodeFilters, r.searchable,
    r.transcoder, some r.entity⟩

/-- Whether the parameter that skips the cache is set. -/
def asksToSkipCache (r : Repository) (params : Record) : Bool :=
  match params.get? r.settings.skipCacheParam with
  | some (.bool skip) => skip
  | some (.str text) => Value.isTruthText text
  | _ => false

/-- The view under the criterion of a request. -/
def withRequest (r : Repository) (params : Record) : Except Failure Repository := do
  let view := r.pushed [.request (← r.requestCriterion params)]
  return if r.asksToSkipCache params then view.skippingCache else view

/-- Whether a read goes through the cache. -/
def allowsCaching (r : Repository) (method : String) : Bool :=
  let s := r.settings
  if !r.cached || r.skipCache || !s.cacheEnabled then false
  else if s.cacheOnly.isEmpty then !s.cacheExcept.contains method
  else s.cacheOnly.contains method

/-- The key of a read, given the text of its arguments. -/
def keyOf (r : Repository) (method argsText : String) : Except Failure String := do
  return Key.compose r.settings.keyMark r.entity method argsText
    (← Key.criteriaText r.pipeline.identities)

/-- The key of a read of these arguments. -/
def key (r : Repository) (method : String) (args : List Value) : Except Failure String := do
  r.keyOf method (← Key.argsText args)

/-- The query of a read under the criteria of the view and further ones. -/
def query (r : Repository) (constraints : List Criterion) : Except Failure QueryState := do
  constraints.foldlM (fun q c => c.apply q) (← r.pipeline.applyAll {})

/-- The tags of a read. -/
def tags (r : Repository) (constraints : List Criterion) : Except Failure (List String) :=
  Tag.ofQuery r.entity (r.pipeline.active ++ constraints)

/-- A view in short. -/
def text (r : Repository) : String :=
  "Repository(" ++ Text.quote r.entity ++ ", criteria=" ++ toString r.pipeline.length ++
    ", skip_cache=" ++ (Value.bool r.skipCache).text ++ ")"

end Repository

end QueryCache
