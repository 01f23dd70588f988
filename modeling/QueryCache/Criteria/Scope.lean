import QueryCache.Criteria.Criterion

/-! Ready-made scopes. -/

set_option autoImplicit false

namespace QueryCache.Scope

/-- Keeps entities whose status is active. -/
def activeOnly : List Value → QueryState → Except Failure QueryState
  | [], q => .ok (q.addField "status" .eq [.str "active"])
  | _, _ => .error (.wrongType "activeOnly takes no argument")

/-- Keeps entities with a value in a field. -/
def whereEquals : List Value → QueryState → Except Failure QueryState
  | [field, value], q => .ok (q.addField field.text .eq [value])
  | _, _ => .error (.wrongType "whereEquals takes a field and a value")

/-- Bounds the number of results. -/
def limited : List Value → QueryState → Except Failure QueryState
  | [.int n], q => .ok (q.setLimit (some n))
  | [.null], q => .ok (q.setLimit none)
  | _, _ => .error (.wrongType "limited takes a number")

/-- Leaves a query as it is, whatever the arguments. -/
def unchanged : List Value → QueryState → Except Failure QueryState
  | _, q => .ok q

/-- Always fails. -/
def failing : List Value → QueryState → Except Failure QueryState
  | _, _ => .error (.invalid "scope failed")

end QueryCache.Scope
