import QueryCache.Predicate.Sql

/-! What a query has collected: predicates, a sort order, relations, grouping and bounds.
Building a query is adding to its state. -/

set_option autoImplicit false

namespace QueryCache

structure QueryState where
  wheres : List Predicate := []
  sort : List SortField := []
  relations : List String := []
  counts : List String := []
  groupBy : List String := []
  havings : List Predicate := []
  limit : Option Int := none
  offset : Option Int := none
  deriving Repr

namespace QueryState

/-- The conjunction of all predicates on records. -/
def predicate (q : QueryState) : Predicate := .all q.wheres

/-- The conjunction of all predicates on groups. -/
def havingPredicate (q : QueryState) : Predicate := .all q.havings

def addPredicate (q : QueryState) (p : Predicate) : QueryState :=
  { q with wheres := q.wheres ++ [p] }

def addField (q : QueryState) (field : String) (op : Operator) (values : List Value) :
    QueryState :=
  q.addPredicate (.field field op values)

def addColumn (q : QueryState) (left : String) (op : Operator) (right : String) :
    Except Failure QueryState :=
  (Predicate.compareColumns left op right).map q.addPredicate

def orderBy (q : QueryState) (field : String) (direction : Direction) : QueryState :=
  { q with sort := q.sort ++ [⟨field, direction⟩] }

def addRelation (q : QueryState) (path : String) : QueryState :=
  if q.relations.contains path then q else { q with relations := q.relations ++ [path] }

def addCount (q : QueryState) (path : String) : QueryState :=
  if q.counts.contains path then q else { q with counts := q.counts ++ [path] }

def addGroups (q : QueryState) (fields : List String) : QueryState :=
  { q with groupBy := q.groupBy ++ fields }

def addHaving (q : QueryState) (p : Predicate) : QueryState :=
  { q with havings := q.havings ++ [p] }

def setLimit (q : QueryState) (limit : Option Int) : QueryState := { q with limit := limit }

def setOffset (q : QueryState) (offset : Option Int) : QueryState := { q with offset := offset }

/-- The state as a value. -/
def describe (q : QueryState) : Value :=
  let names (list : List String) : Value := .list (list.map .str)
  let bound (n : Option Int) : Value := (n.map Value.int).getD .null
  .dict [
    ("where", .list (q.wheres.map (·.describe))),
    ("sort", .list (q.sort.map fun s => names [s.field, s.direction.code])),
    ("relations", names q.relations),
    ("counts", names q.counts),
    ("group_by", names q.groupBy),
    ("having", .list (q.havings.map (·.describe))),
    ("limit", bound q.limit),
    ("offset", bound q.offset)]

/-- The clause of the predicates on records. -/
def toSql (q : QueryState) (context : SqlContext := {}) : Except Failure BoundClause :=
  q.predicate.toSql context

end QueryState

end QueryCache
