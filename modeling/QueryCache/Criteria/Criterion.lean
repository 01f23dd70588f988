import QueryCache.Criteria.Transcoder
import QueryCache.Query.State
import QueryCache.Value.Canonical

/-! Criteria: parts of a query that can be pushed, popped and compared.

A criterion is known by its identity: what it asks for, without the functions and names that
only tell how. Keys of cached results are derived from identities. -/

set_option autoImplicit false

namespace QueryCache

/-- A request as a criterion: conditions of one section share its join, the sections combine
by conjunction, and identifiers are decoded when the criterion is applied. -/
structure RequestCriterion where
  request : Request
  policy : DecodePolicy := .noMatch
  decodeSearch : Bool := true
  decodeFilters : Bool := true
  searchable : List SearchField := []
  transcoder : Option Transcoder := none
  entity : Option String := none

/-- A named transformation of a query. -/
structure Scope where
  name : String
  args : List Value := []
  /-- The entity fields that the transformation reads. -/
  reads : List String := []
  run : List Value → QueryState → Except Failure QueryState

inductive Criterion where
  /-- A condition whose operator takes the number of values it has. -/
  | field (name : String) (op : Operator) (values : List Value)
  | column (left : String) (op : Operator) (right : String)
  | orderBy (field : String) (direction : Direction)
  | relation (path : String)
  | relationCount (path : String)
  | scope (s : Scope)
  | request (r : RequestCriterion)

/-- What two criteria must agree on to be the same. -/
inductive Identity where
  | field (name : String) (op : Operator) (values : List Value)
  | column (left : String) (op : Operator) (right : String)
  | orderBy (field : String) (direction : Direction)
  | relation (path : String)
  | relationCount (path : String)
  | scope (name : String) (args : List Value)
  | request (request : Request) (policy : DecodePolicy) (decodeSearch decodeFilters : Bool)
      (searchable : List SearchField)
  deriving Repr

namespace Identity

/-- The kind of criterion. -/
def tag : Identity → String
  | .field _ _ _ => "where"
  | .column _ _ _ => "where_column"
  | .orderBy _ _ => "order_by"
  | .relation _ => "with"
  | .relationCount _ => "with_count"
  | .scope _ _ => "scope"
  | .request _ _ _ _ _ => "request"

/-- Whether two identities are the same, values compared as values. -/
def equal : Identity → Identity → Bool
  | .field a op xs, .field b op' ys => a == b && op == op' && Value.sameAll xs ys
  | .column a op b, .column a' op' b' => a == a' && op == op' && b == b'
  | .orderBy a d, .orderBy b d' => a == b && d == d'
  | .relation a, .relation b => a == b
  | .relationCount a, .relationCount b => a == b
  | .scope a xs, .scope b ys => a == b && Value.sameAll xs ys
  | .request r p s f fields, .request r' p' s' f' fields' =>
    r == r' && p == p' && s == s' && f == f' && fields == fields'
  | _, _ => false

end Identity

/-! ## Identities as JSON -/

def jsonStrings (texts : List String) : JsonTree := .array (texts.map .str)

def jsonOption {α : Type} (f : α → JsonTree) : Option α → JsonTree
  | some x => f x
  | none => .null

def Operator.json (op : Operator) : JsonTree := .str op.code

def Condition.json (c : Condition) : JsonTree :=
  .object [("field", .str c.field), ("operator", c.operator.json),
    ("values", jsonStrings c.values), ("join", .str c.join.code), ("explicit", .bool c.explicit)]

def SearchField.json (f : SearchField) : JsonTree :=
  .object [("field", .str f.field), ("operator", jsonOption Operator.json f.operator)]

def Section.json (s : Section) : JsonTree :=
  .object [("filters", .array (s.conditions.map Condition.json)), ("join", .str s.join.code),
    ("term", jsonOption .str s.term), ("fields", .array (s.fields.map SearchField.json)),
    ("enhanced", .bool s.enhanced)]

def SortField.json (f : SortField) : JsonTree :=
  .object [("field", .str f.field), ("direction", .str f.direction.code)]

def Includes.json (i : Includes) : JsonTree :=
  .object [("relations", jsonStrings i.relations), ("counts", jsonStrings i.counts)]

def Comparison.json (c : Comparison) : JsonTree :=
  .object [("left", .str c.left), ("operator", c.operator.json), ("right", .str c.right)]

def Request.json (r : Request) : JsonTree :=
  .object [
    ("search", jsonOption Section.json r.search),
    ("filter", jsonOption Section.json r.filter),
    ("sort", jsonOption (fun fields => .object [("fields", .array (fields.map SortField.json))])
      r.sort),
    ("include", jsonOption Includes.json r.includes),
    ("group_by", jsonStrings r.groupBy),
    ("having", jsonOption Section.json r.having),
    ("compare", .array (r.compare.map Comparison.json))]

namespace Identity

/-- The parameters in declaration order. -/
def params : Identity → Except Failure (List JsonTree)
  | .field name op values => do
    return [.str name, op.json, .array (← Value.canonicals values)]
  | .column left op right => .ok [.str left, op.json, .str right]
  | .orderBy name direction => .ok [.str name, .str direction.code]
  | .relation path => .ok [.str path]
  | .relationCount path => .ok [.str path]
  | .scope name args => do return [.str name, .array (← Value.canonicals args)]
  | .request given policy decodeSearch decodeFilters searchable =>
    .ok [given.json, .str policy.code, .bool decodeSearch, .bool decodeFilters,
      .array (searchable.map SearchField.json)]

/-- The kind and the parameters. -/
def json (i : Identity) : Except Failure JsonTree := do
  return .array [.str i.tag, .array (← i.params)]

end Identity

namespace Criterion

def identity : Criterion → Identity
  | .field name op values => .field name op values
  | .column left op right => .column left op right
  | .orderBy name direction => .orderBy name direction
  | .relation path => .relation path
  | .relationCount path => .relationCount path
  | .scope s => .scope s.name s.args
  | .request r => .request r.request r.policy r.decodeSearch r.decodeFilters r.searchable

/-- A condition, if its operator takes the number of its values. -/
def where? (field : String) (op : Operator) (values : List Value) : Except Failure Criterion :=
  if op.accepts values.length then .ok (.field field op values)
  else .error (.arity op values.length)

end Criterion

end QueryCache
