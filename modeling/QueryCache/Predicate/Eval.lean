import QueryCache.Predicate.Basic
import QueryCache.Predicate.Like
import QueryCache.Value.Field

/-! Whether a record satisfies a predicate.

Request values are read as the type of the stored value. A stored null satisfies only the
operators that speak of absence or membership; values without an order satisfy no comparison.
A condition with too few values fails where it needs one. -/

set_option autoImplicit false

namespace QueryCache.Predicate

/-- The value at a position of a condition. -/
def valueAt (values : List Value) (index : Nat) : Except Failure Value :=
  match values[index]? with
  | some value => .ok value
  | none => .error .missingValue

/-- Whether two values stand in a comparison; values without an order do not. -/
def comparesAs (test : Comparator) (left right : Value) : Bool :=
  match test with
  | .eq => left.equal right
  | .neq => !left.equal right
  | .gt => (left.ordered? .gt right).getD false
  | .gte => (left.ordered? .gte right).getD false
  | .lt => (left.ordered? .lt right).getD false
  | .lte => (left.ordered? .lte right).getD false

/-- Whether a value lies between two; `none` where a comparison has no order. -/
def isBetween? (actual : Value) (values : List Value) : Except Failure (Option Bool) := do
  match (← valueAt values 0).ordered? .lte actual with
  | none => return none
  | some false => return some false
  | some true => return actual.ordered? .lte (← valueAt values 1)

/-- Whether a day lies between two, all three known. -/
def isDayBetween (day low high : Option Date) : Bool :=
  match day, low, high with
  | some day, some low, some high =>
    low.ordinal ≤ day.ordinal && day.ordinal ≤ high.ordinal
  | _, _, _ => false

/-- Whether the pattern, as text, covers the text of a value. -/
def isLike (actual pattern : Value) : Bool :=
  Like.matchesText pattern.text.toList actual.text.toList

/-- The operators that a stored null may satisfy. -/
def holdsOfAny? (op : Operator) (actual : Value) (values : List Value) :
    Option (Except Failure Bool) :=
  match op with
  | .isNull => some (.ok actual.isNull)
  | .isNotNull => some (.ok !actual.isNull)
  | .isIn => some (.ok (actual.isIn values))
  | .notIn => some (.ok !actual.isIn values)
  | .dateEquals =>
    match actual.day? with
    | none => some (.ok false)
    | some day => some ((valueAt values 0).map fun value => value.day? == some day)
  | .dateBetween => some do
    let low ← valueAt values 0
    let high ← valueAt values 1
    return isDayBetween actual.day? low.day? high.day?
  | _ => none

/-- The operators that a stored null never satisfies, of a value that is none. -/
def holdsOfPresent (op : Operator) (actual : Value) (values : List Value) :
    Except Failure Bool :=
  match op.comparator? with
  | some test => (valueAt values 0).map (comparesAs test actual)
  | none =>
    match op with
    | .like => (valueAt values 0).map (isLike actual)
    | .between => return (← isBetween? actual values).getD false
    | .notBetween => return ((← isBetween? actual values).map (!·)).getD false
    | _ => return false

/-- Whether a stored value satisfies a condition whose values are of its type. -/
def holdsOf (op : Operator) (actual : Value) (values : List Value) : Except Failure Bool :=
  match holdsOfAny? op actual values with
  | some answer => answer
  | none => if actual.isNull then .ok false else holdsOfPresent op actual values

/-- Whether a record satisfies a condition on a field. -/
def fieldHolds (name : String) (op : Operator) (values : List Value) (record : Value) :
    Except Failure Bool :=
  let actual := record.field name
  holdsOf op actual (values.map (Value.coercedLike actual))

/-- Whether two fields of a record stand in a comparison; nulls stand in none. -/
def columnHolds (left : String) (test : Comparator) (right : String) (record : Value) : Bool :=
  let a := record.field left
  let b := record.field right
  !a.isNull && !b.isNull && comparesAs test a b

mutual

/-- Whether a record satisfies a predicate. Parts are looked at from left to right, as far as
needed. -/
def holds (record : Value) : Predicate → Except Failure Bool
  | .field name op values => fieldHolds name op values record
  | .column left test right => .ok (columnHolds left test right record)
  | .never => .ok false
  | .all parts => allHold record parts
  | .any parts => anyHolds record parts
  | .not part => (holds record part).map (!·)

def allHold (record : Value) : List Predicate → Except Failure Bool
  | [] => .ok true
  | part :: rest => do if ← holds record part then allHold record rest else return false

def anyHolds (record : Value) : List Predicate → Except Failure Bool
  | [] => .ok false
  | part :: rest => do if ← holds record part then return true else anyHolds record rest

end

end QueryCache.Predicate
