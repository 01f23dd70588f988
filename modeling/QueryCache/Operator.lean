import QueryCache.Text.Case
import QueryCache.Text.Ranges

/-! The operators of request conditions: their codes, the words that name them, and how many
values each takes. -/

set_option autoImplicit false

namespace QueryCache

inductive Operator where
  | eq
  | neq
  | like
  | isIn
  | notIn
  | between
  | notBetween
  | gt
  | gte
  | lt
  | lte
  | isNull
  | isNotNull
  | dateEquals
  | dateBetween
  deriving DecidableEq, Repr

/-- The operators that also compare two fields of one record. -/
inductive Comparator where
  | eq
  | neq
  | gt
  | gte
  | lt
  | lte
  deriving DecidableEq, Repr

namespace Operator

/-- The canonical word of an operator. -/
def code : Operator → String
  | .eq => "eq"
  | .neq => "neq"
  | .like => "like"
  | .isIn => "in"
  | .notIn => "notIn"
  | .between => "between"
  | .notBetween => "notBetween"
  | .gt => "gt"
  | .gte => "gte"
  | .lt => "lt"
  | .lte => "lte"
  | .isNull => "isNull"
  | .isNotNull => "isNotNull"
  | .dateEquals => "dateEquals"
  | .dateBetween => "dateBetween"

/-- The constant that names an operator in messages. -/
def constant : Operator → String
  | .eq => "EQ"
  | .neq => "NEQ"
  | .like => "LIKE"
  | .isIn => "IN"
  | .notIn => "NOT_IN"
  | .between => "BETWEEN"
  | .notBetween => "NOT_BETWEEN"
  | .gt => "GT"
  | .gte => "GTE"
  | .lt => "LT"
  | .lte => "LTE"
  | .isNull => "IS_NULL"
  | .isNotNull => "IS_NOT_NULL"
  | .dateEquals => "DATE_EQUALS"
  | .dateBetween => "DATE_BETWEEN"

def all : List Operator :=
  [.eq, .neq, .like, .isIn, .notIn, .between, .notBetween, .gt, .gte, .lt, .lte, .isNull,
    .isNotNull, .dateEquals, .dateBetween]

/-- Takes exactly two values. -/
def isRange : Operator → Bool
  | .between | .notBetween | .dateBetween => true
  | _ => false

/-- Takes a list of values. -/
def isMultiValue : Operator → Bool
  | .isIn | .notIn => true
  | op => op.isRange

/-- Takes no value. -/
def isNullary : Operator → Bool
  | .isNull | .isNotNull => true
  | _ => false

/-- Whether an operator takes `count` values. -/
def accepts (op : Operator) (count : Nat) : Bool :=
  if op.isNullary then count == 0
  else if op.isRange then count == 2
  else if op.isMultiValue then 1 ≤ count
  else count == 1

/-- The words that name operators, in lower case. -/
def words : List (String × Operator) := [
  ("=", .eq), ("eq", .eq), ("!=", .neq), ("<>", .neq), ("ne", .neq), ("neq", .neq),
  ("like", .like), ("ilike", .like), ("in", .isIn), ("notin", .notIn), ("not_in", .notIn),
  ("between", .between), ("notbetween", .notBetween), ("not_between", .notBetween),
  (">", .gt), ("gt", .gt), (">=", .gte), ("gte", .gte), ("<", .lt), ("lt", .lt),
  ("<=", .lte), ("lte", .lte), ("null", .isNull), ("isnull", .isNull), ("is_null", .isNull),
  ("notnull", .isNotNull), ("not_null", .isNotNull), ("isnotnull", .isNotNull),
  ("is_not_null", .isNotNull), ("dateequals", .dateEquals), ("date_equals", .dateEquals),
  ("datebetween", .dateBetween), ("date_between", .dateBetween)]

/-- The operator that a word names, whatever its case. -/
def ofWord? (word : List Char) : Option Operator :=
  let low := Text.lower word
  (words.find? fun entry => entry.1.toList == low).map (·.2)

/-- The operator that a token names, blanks around it dropped. -/
def ofToken? (token : List Char) : Option Operator :=
  ofWord? (Text.trim token)

/-- The operator as a comparison of two fields. -/
def comparator? : Operator → Option Comparator
  | .eq => some .eq
  | .neq => some .neq
  | .gt => some .gt
  | .gte => some .gte
  | .lt => some .lt
  | .lte => some .lte
  | _ => none

end Operator

namespace Comparator

def operator : Comparator → Operator
  | .eq => .eq
  | .neq => .neq
  | .gt => .gt
  | .gte => .gte
  | .lt => .lt
  | .lte => .lte

/-- The comparison sign in clauses. -/
def sign : Comparator → String
  | .eq => "="
  | .neq => "!="
  | .gt => ">"
  | .gte => ">="
  | .lt => "<"
  | .lte => "<="

theorem comparator?_operator (c : Comparator) : c.operator.comparator? = some c := by
  cases c <;> rfl

end Comparator

end QueryCache
