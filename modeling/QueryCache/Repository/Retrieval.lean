import QueryCache.Entity.Report
import QueryCache.Repository.Basic

/-! The reads of a repository as data: a name and arguments to tell reads apart by, criteria
beside those of the view, and what to report. -/

set_option autoImplicit false

namespace QueryCache

/-- What a read is told apart by. -/
inductive Argument where
  | value (v : Value)
  | criterion (i : Identity)

def Argument.json : Argument → Except Failure JsonTree
  | .value v => v.canonical
  | .criterion i => i.json

structure Retrieval where
  method : String
  args : List Argument := []
  constraints : List Criterion := []
  report : Report

namespace Criterion

/-- The criterion that a condition on a field stands for: a value to equal, or a pair of an
operator and what it takes. -/
def ofCondition (condition : String × Value) : Except Failure Criterion :=
  match condition.2 with
  | .tuple [operator, value] => do
    let op ← Operator.ofValue operator
    if op.isNullary then where? condition.1 op []
    else if op.isMultiValue then
      match value.parts? with
      | some values => where? condition.1 op values
      | none => throw (.wrongType value.typeName)
    else where? condition.1 op [value]
  | value => where? condition.1 .eq [value]

/-- The criteria of conditions on several fields. -/
def ofConditions (conditions : Record) : Except Failure (List Criterion) :=
  conditions.mapM ofCondition

/-- A condition as a value: field, operator and values. -/
def describe : Criterion → Value
  | .field name op values => .tuple [.str name, .str op.code, .tuple values]
  | _ => .null

end Criterion

namespace Retrieval

/-- The text that keys tell the arguments apart by. -/
def argsText (x : Retrieval) : Except Failure String := do
  return (JsonTree.array (← x.args.mapM Argument.json)).text

def all : Retrieval where
  method := "all"
  report := .rows

def first : Retrieval where
  method := "first"
  report := .firstRow

def count : Retrieval where
  method := "count"
  report := .rowCount

def find (id : Value) : Retrieval where
  method := "find"
  args := [.value id]
  constraints := [.field "id" .eq [id]]
  report := .firstRow

def findByField (field : String) (value : Value) : Retrieval where
  method := "find_by_field"
  args := [.value (.str field), .value value]
  constraints := [.field field .eq [value]]
  report := .rows

/-- The order of their fields is not what tells two sets of conditions apart. -/
def findWhere (conditions : Record) : Except Failure Retrieval := do
  let constraints ← Criterion.ofConditions conditions
  let byField := (conditions.zip constraints).mergeSort fun a b => a.1.1 ≤ b.1.1
  return {
    method := "find_where"
    args := [.value (.list (byField.map fun entry => entry.2.describe))]
    constraints := constraints
    report := .rows }

def findWhereIn (field : String) (values : List Value) : Except Failure Retrieval := do
  return {
    method := "find_where_in"
    args := [.value (.str field), .value (.list values)]
    constraints := [← Criterion.where? field .isIn values]
    report := .rows }

def findWhereNotIn (field : String) (values : List Value) : Except Failure Retrieval := do
  return {
    method := "find_where_not_in"
    args := [.value (.str field), .value (.list values)]
    constraints := [← Criterion.where? field .notIn values]
    report := .rows }

def findWhereBetween (field : String) (low high : Value) : Retrieval where
  method := "find_where_between"
  args := [.value (.str field), .value low, .value high]
  constraints := [.field field .between [low, high]]
  report := .rows

def byCriterion (criterion : Criterion) : Retrieval where
  method := "get_by_criteria"
  args := [.criterion criterion.identity]
  constraints := [criterion]
  report := .rows

/-- The size of a page: the default one if none is given, at most the largest allowed. -/
def pageSize (settings : RepositorySettings) (limit : Option Int) : Int :=
  min ((limit.filter (· != 0)).getD settings.pageSize) settings.maxPageSize

def paginate (settings : RepositorySettings) (limit : Option Int) (page : Int) : Retrieval :=
  let size := pageSize settings limit
  { method := "paginate"
    args := [.value (.int size), .value (.int (max page 1))]
    report := .page size (max page 1) }

end Retrieval

end QueryCache
