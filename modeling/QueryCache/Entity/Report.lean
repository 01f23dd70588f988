import QueryCache.Cache.Store
import QueryCache.Entity.Store

/-! What is answered of the rows of a query: all of them, the first, their number, or one
page. A page runs two queries, one for the number of rows and one for its items. -/

set_option autoImplicit false

namespace QueryCache

/-! ## Pages: how many there are, and where each begins -/

namespace Pagination

/-- The number of pages, known once the number of items is: the quotient rounded up. -/
def completed (p : Pagination) : Except Failure Pagination :=
  match p.totalItems, p.totalPages with
  | some items, none =>
    if p.pageSize = 0 then .error .divisionByZero
    else .ok { p with totalPages := some ((items + p.pageSize - 1).fdiv p.pageSize) }
  | _, _ => .ok p

/-- The number of items before the page. -/
def offset (p : Pagination) : Int := (p.page - 1) * p.pageSize

def hasNext (p : Pagination) : Bool :=
  match p.totalPages with
  | some pages => p.page < pages
  | none => false

def hasPrevious (p : Pagination) : Bool := 1 < p.page

def describe (p : Pagination) : Record := [
  ("page", .int p.page), ("page_size", .int p.pageSize),
  ("total_items", .ofOption .int p.totalItems), ("total_pages", .ofOption .int p.totalPages),
  ("offset", .int p.offset), ("has_next", .bool p.hasNext), ("has_previous", .bool p.hasPrevious)]

end Pagination

/-! ## Reports -/

inductive Report where
  | rows
  | firstRow
  | rowCount
  | page (size number : Int)
  deriving DecidableEq, Repr

namespace EntityStore

/-- Runs a query for its rows. -/
def fetch (q : QueryState) : Attempt EntityStore (List Record) := fun s =>
  (s.select q, s.counted)

/-- Runs a query for the number of its rows. -/
def measure (q : QueryState) : Attempt EntityStore Nat := fun s =>
  (s.count q, s.counted)

/-- A change that leaves the store as it was where it fails. -/
def change {α : Type} (f : EntityStore → Except Failure (α × EntityStore)) :
    Attempt EntityStore α := fun s =>
  match f s with
  | .ok (answer, s) => (.ok answer, s)
  | .error e => (.error e, s)

end EntityStore

namespace Report

/-- The page of a query: its bounds follow from the number of rows. -/
def ofPage (size number : Int) (q : QueryState) : Attempt EntityStore Value := do
  let total ← EntityStore.measure q
  let info ← (liftM (Pagination.completed ⟨number, size, some total, none⟩) :
    Attempt EntityStore Pagination)
  let items ← EntityStore.fetch ((q.setLimit (some size)).setOffset (some info.offset))
  return .page (items.map .dict) info

def answer (report : Report) (q : QueryState) : Attempt EntityStore Value := do
  match report with
  | .rows => return .list ((← EntityStore.fetch q).map .dict)
  | .firstRow =>
    let found ← EntityStore.fetch (q.setLimit (some 1))
    return (found.head?.map Value.dict).getD .null
  | .rowCount => return .int (← EntityStore.measure q)
  | .page size number => ofPage size number q

end Report

end QueryCache
