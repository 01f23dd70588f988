import QueryCache.Criteria.Request
import QueryCache.Value.Field

/-! Invalidation tags.

The tags of a query name its entity type, every field it reads and every value it pins a
field to. A write does not know which value an entity had before, so its tags name the entity
and the changed fields as wholes. -/

set_option autoImplicit false

namespace QueryCache.Tag

def entity (type : String) : String := type

/-- The text of a value inside a tag. -/
def valueText : Value → String
  | .bool b => if b then "true" else "false"
  | .null => "null"
  | value => value.text

def id (type : String) (id : Value) : String :=
  type ++ ":id:" ++ valueText id

def field (type field : String) : String :=
  type ++ ":field:" ++ field

def value (type field : String) (value : Value) : String :=
  type ++ ":" ++ field ++ ":" ++ valueText value

/-- The tags of one criterion of a query. -/
def ofCriterion (type : String) (c : Criterion) : Except Failure (List String) := do
  let pinned ← c.equalities
  return c.fields.map (field type) ++ pinned.map fun (name, v) => value type name v

/-- The tags of a query. -/
def ofQuery (type : String) (criteria : List Criterion) : Except Failure (List String) := do
  return distinct (entity type :: (← criteria.mapM (ofCriterion type)).flatten)

/-- The tags of a written entity and its changed fields. -/
def ofEntity (type : String) (ident : Value) (changed : List String := []) : List String :=
  distinct (entity type :: id type ident :: changed.map (field type))

/-- The tags of reads pinned to values. -/
def ofValues (type : String) (values : List (String × Value)) : List String :=
  distinct (values.map fun (name, v) => value type name v)

/-- The identifier of an entity, null if it has none. -/
def entityId (entity : Value) : Value := entity.child "id"

/-- The entities that a result contains. -/
def entitiesOf : Value → List Value
  | .null | .bool _ | .int _ | .float _ | .nan _ | .str _ | .bytes _ => []
  | .page items _ => items
  | .list items => items
  | .tuple items => items
  | value => [value]

/-- The tags of the entities in a result. -/
def ofResult (type : String) (result : Value) : List String :=
  distinct <| ((entitiesOf result).map entityId).filterMap fun ident =>
    if ident.isNull then none else some (id type ident)

end QueryCache.Tag
