import QueryCache.Failure
import QueryCache.Entity.Rows

/-! A store of entities in memory, in the order they were stored.

A record is stored under its identifier: no two records have equal identifiers. What else can be
read along with a row are its relations. Every query that is run is counted. -/

set_option autoImplicit false

namespace QueryCache

/-- A relation gives a value for each row. -/
abbrev Relation := Record → Except Failure Value

namespace Relation

/-- The same value for every row. -/
def constant (value : Value) : Relation := fun _ => .ok value

/-- The row's own field. -/
def ofField (name : String) : Relation := fun row => .ok ((row.get? name).getD .null)

/-- As many rows owned by the row as its identifier says. -/
def owned : Relation := fun row =>
  match row.get? "id" with
  | none => .error (.missingKey "id")
  | some id =>
    match id.number? with
    | some (.whole n) => .ok (.list (List.replicate n.toNat (.dict [("owner", id)])))
    | _ => .error (.wrongType id.typeName)

/-- The number of values a relation gives for a row; an absent value counts as none. -/
def count (relation : Relation) (row : Record) : Except Failure Nat := do
  let value ← relation row
  if !value.isPresent then return 0
  match value.length? with
  | some size => return size
  | none => throw (.wrongType value.typeName)

end Relation

structure EntityStore where
  entity : String
  relations : List (String × Relation) := []
  records : List Record := []
  /-- The number the next identifier is looked for from. -/
  nextId : Nat := 1
  /-- How many queries have been run. -/
  executions : Nat := 0

namespace EntityStore

def idOf (record : Record) : Value := (record.get? "id").getD .null

/-- Whether a record has the identifier. -/
def hasId (id : Value) (record : Record) : Bool := (idOf record).same id

/-- An identifier must be one that records can be told apart by. -/
def checkId (id : Value) : Except Failure Unit :=
  if id.hashable then .ok () else .error (.wrongType id.typeName)

/-- The first number from `nextId` on that is no identifier. Of one number more than there are
records at least one is free. -/
def freeId (s : EntityStore) : Nat :=
  let candidates := (List.range (s.records.length + 1)).map (s.nextId + ·)
  (candidates.find? fun (n : Nat) => !s.records.any (hasId (.int n))).getD s.nextId

/-- Puts a record in the place of the one with its identifier, or at the end. -/
def place (record : Record) : List Record → List Record
  | [] => [record]
  | other :: rest =>
    if hasId (idOf record) other then record :: rest else other :: place record rest

/-- Stores a record; one without identifier is given the next free one. -/
def insert (s : EntityStore) (attributes : Record) : Except Failure (Record × EntityStore) := do
  if (idOf attributes).isNull then
    let id := s.freeId
    let record := attributes.set "id" (.int id)
    return (record, { s with records := s.records ++ [record], nextId := id + 1 })
  checkId (idOf attributes)
  return (attributes, { s with records := place attributes s.records })

/-- A store with these records. -/
def ofRecords (entity : String) (relations : List (String × Relation)) (records : List Record) :
    Except Failure EntityStore :=
  records.foldlM (fun s record => (s.insert record).map (·.2)) ⟨entity, relations, [], 1, 0⟩

def get? (s : EntityStore) (id : Value) : Except Failure (Option Record) := do
  checkId id
  return s.records.find? (hasId id)

/-- Changes fields of a record, its identifier apart. -/
def update (s : EntityStore) (id : Value) (changes : Record) :
    Except Failure (Record × EntityStore) := do
  match ← s.get? id with
  | none => throw (.notFound s.entity id)
  | some record =>
    let updated := record.setAll (changes.filter (·.1 != "id"))
    return (updated, { s with records := place updated s.records })

/-- Drops a record, and tells whether there was one; an empty store has none to look for. -/
def delete (s : EntityStore) (id : Value) : Except Failure (Bool × EntityStore) := do
  if s.records.isEmpty then return (false, s)
  checkId id
  return (s.records.any (hasId id),
    { s with records := s.records.filter fun record => !hasId id record })

def relation (s : EntityStore) (name : String) : Except Failure Relation :=
  match s.relations.lookup name with
  | some relation => .ok relation
  | none => .error (.unknownRelation name s.entity)

/-- A row with the relations and counts that a query asks for. -/
def withRelations (s : EntityStore) (q : QueryState) (row : Record) : Except Failure Record := do
  let related ← q.relations.foldlM (fun result name => do
    let relation ← s.relation name
    return Record.set result name (← relation row)) row
  q.counts.foldlM (fun result name => do
    let relation ← s.relation name
    return Record.set result (name ++ "_count") (.int (← relation.count row))) related

/-- The rows of a query before they are sorted: groups where it groups, else records. -/
def rows (s : EntityStore) (q : QueryState) : Except Failure (List Record) := do
  let found ← Rows.matching q.predicate s.records
  if q.groupBy.isEmpty then return found
  Rows.grouped q.groupBy q.havingPredicate found

/-- The answer of a query. -/
def select (s : EntityStore) (q : QueryState) : Except Failure (List Record) := do
  let sorted ← Rows.sorted q.sort (← s.rows q)
  (Rows.cut q.offset q.limit sorted).mapM (s.withRelations q)

/-- The number of rows of a query, bounds aside. -/
def count (s : EntityStore) (q : QueryState) : Except Failure Nat :=
  (s.rows q).map List.length

/-- The first row of a query. -/
def first (s : EntityStore) (q : QueryState) : Except Failure (Option Record) :=
  (s.select (q.setLimit (some 1))).map List.head?

/-- The store after one more query. -/
def counted (s : EntityStore) : EntityStore := { s with executions := s.executions + 1 }

end EntityStore

end QueryCache
