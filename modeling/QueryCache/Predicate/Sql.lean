import QueryCache.Predicate.Basic

/-! Clauses with bind parameters.

A predicate becomes a clause tree and the values bound to its parameters. The parameters are
named p0, p1 and so on in the order they are met; the count runs on from one predicate to the
next, past failures too. -/

set_option autoImplicit false

namespace QueryCache

/-- How the fields of predicates are called in clauses. -/
structure SqlContext where
  mappings : List (String × String) := []
  table : Option String := none

namespace SqlContext

/-- The column of a field. -/
def columnName (context : SqlContext) (field : String) : String :=
  let name := (context.mappings.lookup field).getD field
  match context.table with
  | some table => if table.isEmpty then name else table ++ "." ++ name
  | none => name

end SqlContext

/-- A column, or the day of its time. -/
structure Column where
  name : String
  day : Bool := false
  deriving DecidableEq, Repr

def Column.text (c : Column) : String :=
  if c.day then "DATE(" ++ c.name ++ ")" else c.name

inductive Clause where
  | constant (holds : Bool)
  | compare (column : Column) (test : Comparator) (param : String)
  | like (column : Column) (param : String)
  | member (negated : Bool) (column : Column) (params : List String)
  | between (negated : Bool) (column : Column) (low high : String)
  | null (negated : Bool) (column : Column)
  | columns (left : Column) (test : Comparator) (right : Column)
  | all (parts : List Clause)
  | any (parts : List Clause)
  | not (part : Clause)
  deriving Repr, Inhabited

namespace Clause

def negation (negated : Bool) : String := if negated then "NOT " else ""

mutual

def text : Clause → String
  | .constant holds => if holds then "1 = 1" else "1 = 0"
  | .compare column test param => column.text ++ " " ++ test.sign ++ " :" ++ param
  | .like column param => column.text ++ " LIKE :" ++ param
  | .member negated column params =>
    column.text ++ " " ++ negation negated ++ "IN (" ++
      ",".intercalate (params.map (":" ++ ·)) ++ ")"
  | .between negated column low high =>
    column.text ++ " " ++ negation negated ++ "BETWEEN :" ++ low ++ " AND :" ++ high
  | .null negated column => column.text ++ " IS " ++ negation negated ++ "NULL"
  | .columns left test right => left.text ++ " " ++ test.sign ++ " " ++ right.text
  | .all parts => " AND ".intercalate (enclosed parts)
  | .any parts => " OR ".intercalate (enclosed parts)
  | .not part => "NOT (" ++ part.text ++ ")"

/-- The parts in parentheses. -/
def enclosed : List Clause → List String
  | [] => []
  | part :: rest => ("(" ++ part.text ++ ")") :: enclosed rest

end

end Clause

/-- The values of bind parameters, in bind order. -/
abbrev Bindings := List (String × Value)

/-- A clause and the values bound to its parameters. -/
structure BoundClause where
  clause : Clause
  bindings : Bindings

/-- A result together with the number of the next bind parameter. -/
abbrev Binding (α : Type) := ExceptT Failure (StateM Nat) α

namespace Binding

/-- The name of a bind parameter. -/
def paramName (index : Nat) : String := "p" ++ toString index

def nextParam : Binding String := do
  let index ← getModify (· + 1)
  return paramName index

/-- Binds the first value; the name is taken before the value is looked for. -/
def first (values : List Value) : Binding (String × Value) := do
  let param ← nextParam
  match values with
  | value :: _ => return (param, value)
  | [] => throw .missingValue

/-- Binds each of a list of values. -/
def each : List Value → Binding Bindings
  | [] => return []
  | value :: rest => do
    let param ← nextParam
    return (param, value) :: (← each rest)

end Binding

namespace Predicate

open Binding

def renderBetween (negated : Bool) (column : Column) (values : List Value) :
    Binding BoundClause :=
  match values with
  | [low, high] => do
    let start ← nextParam
    let finish ← nextParam
    return ⟨.between negated column start finish, [(start, low), (finish, high)]⟩
  | _ => throw .betweenArity

def renderMember (negated : Bool) (column : Column) (values : List Value) :
    Binding BoundClause := do
  if values.isEmpty then return ⟨.constant negated, []⟩
  else
    let bindings ← each values
    return ⟨.member negated column (bindings.map (·.1)), bindings⟩

def renderFirst (values : List Value) (clause : String → Clause) : Binding BoundClause := do
  let binding ← first values
  return ⟨clause binding.1, [binding]⟩

/-- The clause of a condition on a column. -/
def renderField (column : Column) (op : Operator) (values : List Value) :
    Binding BoundClause :=
  match op with
  | .eq => renderFirst values (.compare column .eq)
  | .neq => renderFirst values (.compare column .neq)
  | .gt => renderFirst values (.compare column .gt)
  | .gte => renderFirst values (.compare column .gte)
  | .lt => renderFirst values (.compare column .lt)
  | .lte => renderFirst values (.compare column .lte)
  | .like => renderFirst values (.like column)
  | .isIn => renderMember false column values
  | .notIn => renderMember true column values
  | .between => renderBetween false column values
  | .notBetween => renderBetween true column values
  | .isNull => return ⟨.null false column, []⟩
  | .isNotNull => return ⟨.null true column, []⟩
  | .dateEquals => renderFirst values (.compare { column with day := true } .eq)
  | .dateBetween => renderBetween false { column with day := true } values

mutual

/-- The clause of a predicate. -/
def render (context : SqlContext) : Predicate → Binding BoundClause
  | .field name op values => renderField ⟨context.columnName name, false⟩ op values
  | .column left test right =>
    return ⟨.columns ⟨context.columnName left, false⟩ test ⟨context.columnName right, false⟩, []⟩
  | .never => return ⟨.constant false, []⟩
  | .all [] => return ⟨.constant true, []⟩
  | .all (part :: rest) => do
    let first ← render context part
    let (clauses, bindings) ← renderAll context rest
    return ⟨.all (first.clause :: clauses), first.bindings ++ bindings⟩
  | .any [] => return ⟨.constant false, []⟩
  | .any (part :: rest) => do
    let first ← render context part
    let (clauses, bindings) ← renderAll context rest
    return ⟨.any (first.clause :: clauses), first.bindings ++ bindings⟩
  | .not part => do
    let inner ← render context part
    return ⟨.not inner.clause, inner.bindings⟩

def renderAll (context : SqlContext) : List Predicate → Binding (List Clause × Bindings)
  | [] => return ([], [])
  | part :: rest => do
    let first ← render context part
    let (clauses, bindings) ← renderAll context rest
    return (first.clause :: clauses, first.bindings ++ bindings)

end

/-- The clause of one predicate, its parameters counted from zero. -/
def toSql (p : Predicate) (context : SqlContext := {}) : Except Failure BoundClause :=
  ((render context p).run.run 0).1

/-- The clauses of several predicates that share one count of parameters. -/
def toSqlShared (context : SqlContext) (parts : List Predicate) :
    List (Except Failure BoundClause) :=
  (go parts 0)
where
  go : List Predicate → Nat → List (Except Failure BoundClause)
    | [], _ => []
    | part :: rest, index =>
      let (result, next) := (render context part).run.run index
      result :: go rest next

end Predicate

end QueryCache
