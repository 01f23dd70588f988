import QueryCache.Failure
import QueryCache.Request.Basic
import QueryCache.Value.Compare

/-! Predicates on records: trees of conditions on fields and comparisons of two fields. -/

set_option autoImplicit false

namespace QueryCache

inductive Predicate where
  /-- A field compared with request values. -/
  | field (name : String) (op : Operator) (values : List Value)
  /-- Two fields of one record compared. -/
  | column (left : String) (test : Comparator) (right : String)
  /-- Holds of nothing. -/
  | never
  | all (parts : List Predicate)
  | any (parts : List Predicate)
  | not (part : Predicate)
  deriving Repr, Inhabited

namespace Predicate

/-- The comparison of two fields; only six operators compare fields. -/
def compareColumns (left : String) (op : Operator) (right : String) :
    Except Failure Predicate :=
  match op.comparator? with
  | some test => .ok (.column left test right)
  | none => .error (.notAComparator op)

/-- Joins predicates; one alone stays as it is. -/
def combine (parts : List Predicate) (join : Join) : Predicate :=
  match parts, join with
  | [part], _ => part
  | parts, .or => .any parts
  | parts, .and => .all parts

mutual

/-- The tree as a value. -/
def describe : Predicate → Value
  | .field name op values =>
    .dict [("type", .str "field"), ("field", .str name), ("operator", .str op.code),
      ("values", .list values)]
  | .column left test right =>
    .dict [("type", .str "column"), ("left", .str left),
      ("operator", .str test.operator.code), ("right", .str right)]
  | .never => .dict [("type", .str "never")]
  | .all parts =>
    .dict [("type", .str "and"), ("specifications", .list (describeAll parts))]
  | .any parts =>
    .dict [("type", .str "or"), ("specifications", .list (describeAll parts))]
  | .not part => .dict [("type", .str "not"), ("specification", part.describe)]

def describeAll : List Predicate → List Value
  | [] => []
  | part :: rest => part.describe :: describeAll rest

end

/-- Two predicates are equal when their descriptions are. -/
def equal (p q : Predicate) : Bool :=
  p.describe.equal q.describe

/-- The text that a predicate is hashed by. -/
def hashText (p : Predicate) : String :=
  p.describe.literal

/-- The constructor that a predicate is shown under. -/
def label : Predicate → String
  | .field _ _ _ => "FieldSpecification"
  | .column _ _ _ => "ColumnSpecification"
  | .never => "NeverSpecification"
  | .all _ => "AndSpecification"
  | .any _ => "OrSpecification"
  | .not _ => "NotSpecification"

def literal (p : Predicate) : String :=
  p.label ++ "(" ++ p.describe.literal ++ ")"

/-- Which predicates of a list equal which. -/
def equalities (parts : List Predicate) : List (List Bool) :=
  parts.map fun p => parts.map p.equal

/-- The predicates of a list without those equal to an earlier one of the same hash. -/
def distinct (parts : List Predicate) : List Predicate :=
  parts.foldl
    (fun seen p => if seen.any fun q => q.equal p && q.hashText == p.hashText then seen
      else seen ++ [p]) []

def equals (field : String) (value : Value) : Predicate :=
  .field field .eq [value]

def isIn (field : String) (values : List Value) : Predicate :=
  .field field .isIn values

def notIn (field : String) (values : List Value) : Predicate :=
  .field field .notIn values

def like (field : String) (pattern : Value) : Predicate :=
  .field field .like [pattern]

def between (field : String) (low high : Value) : Predicate :=
  .field field .between [low, high]

end Predicate

end QueryCache
