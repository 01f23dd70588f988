import QueryCache.Order.Insertion
import QueryCache.Predicate.Eval
import QueryCache.Query.State

/-! Selecting, grouping, sorting and cutting rows. -/

set_option autoImplicit false

namespace QueryCache.Rows

/-- The rows that satisfy a predicate, in order. -/
def matching (p : Predicate) (rows : List Record) : Except Failure (List Record) :=
  rows.filterM fun row => p.holds (.dict row)

/-- The values a row is grouped by. -/
def groupKey (fields : List String) (row : Record) : List Value :=
  fields.map (Value.field (.dict row))

/-- Counts a key among the keys seen so far, keys that are the same together. -/
def tally : List (List Value × Nat) → List Value → List (List Value × Nat)
  | [], key => [(key, 1)]
  | (other, size) :: rest, key =>
    if Value.sameAll other key then (other, size + 1) :: rest
    else (other, size) :: tally rest key

/-- The row of a group: its values under the grouped fields, its size under `count`. -/
def groupRow (fields : List String) (group : List Value × Nat) : Record :=
  (Record.setAll [] (fields.zip group.1)).set "count" (.int group.2)

/-- One row for each group in order of first appearance, where the predicate on groups holds. -/
def grouped (fields : List String) (having : Predicate) (rows : List Record) :
    Except Failure (List Record) :=
  let keys := rows.map (groupKey fields)
  match (keys.flatten).find? (!·.hashable) with
  | some value => .error (.wrongType value.typeName)
  | none => matching having ((keys.foldl tally []).map (groupRow fields))

/-- Whether a sort key comes before another; null comes after every value, and keys without an
order cannot be sorted. -/
def before (a b : Value) : Except Failure Bool :=
  if a.isNull then .ok false
  else if b.isNull then .ok true
  else if a.same b then .ok false
  else
    match a.ordered? .lt b with
    | some answer => .ok answer
    | none => .error (.wrongType a.typeName)

/-- Rows in the order of one field, rows of equal keys in the order they were in. Descending
rows are ascending ones seen from behind, so that equal keys keep their order too. -/
def sortedBy (s : SortField) (rows : List Record) : Except Failure (List Record) := do
  let keyed := rows.map fun row => (Value.field (.dict row) s.field, row)
  let sort := Insertion.sort fun a b => before a.1 b.1
  match s.direction with
  | .asc => return (← sort keyed).map (·.2)
  | .desc => return (← sort keyed.reverse).reverse.map (·.2)

/-- Rows in the order of several fields, the first field deciding first. -/
def sorted (sort : List SortField) (rows : List Record) : Except Failure (List Record) :=
  sort.reverse.foldlM (fun rows s => sortedBy s rows) rows

/-- A position among `size` items; a negative one counts from the end. -/
def position (size : Nat) (index : Int) : Nat :=
  if index < 0 then (index + size).toNat else min index.toNat size

/-- The rows from an offset on, at most as many as the limit. -/
def cut (offset limit : Option Int) (rows : List Record) : List Record :=
  let first := offset.getD 0
  let start := position rows.length first
  match limit with
  | none => rows.drop start
  | some limit => (rows.take (position rows.length (first + limit))).drop start

end QueryCache.Rows
