import QueryCache.Proofs.Entity.Selection
import QueryCache.Tag

/-! Reports of two stores whose records stand in pairs: a report stays as it is unless it shows a
record that differs from its partner. -/

set_option autoImplicit false

namespace QueryCache

open Outcome

namespace Report

/-- What a report of a query says. -/
def result (report : Report) (q : QueryState) (s : EntityStore) : Except Failure Value :=
  ((report.answer q).run s).1

theorem run_rows (q : QueryState) (s : EntityStore) : (Report.rows.answer q).run s =
    ((s.select q).map fun rows => .list (rows.map .dict), s.counted) :=
  Attempt.map_eq (EntityStore.fetch q) (fun found => Value.list (found.map .dict)) s

theorem run_firstRow (q : QueryState) (s : EntityStore) : (Report.firstRow.answer q).run s =
    ((s.select (q.setLimit (some 1))).map fun found => (found.head?.map Value.dict).getD .null,
      s.counted) :=
  Attempt.map_eq (EntityStore.fetch (q.setLimit (some 1)))
    (fun found => (found.head?.map Value.dict).getD .null) s

theorem run_rowCount (q : QueryState) (s : EntityStore) : (Report.rowCount.answer q).run s =
    ((s.count q).map fun (total : Nat) => .int total, s.counted) :=
  Attempt.map_eq (EntityStore.measure q) (fun (total : Nat) => Value.int total) s

/-- The query of the items of a page. -/
def pageQuery (size : Int) (q : QueryState) (info : Pagination) : QueryState :=
  (q.setLimit (some size)).setOffset (some info.offset)

theorem run_page (size number : Int) (q : QueryState) (s : EntityStore) :
    ((Report.page size number).answer q).run s = match s.count q with
      | .error e => (.error e, s.counted)
      | .ok total =>
        match Pagination.completed ⟨number, size, some total, none⟩ with
        | .error e => (.error e, s.counted)
        | .ok info =>
          ((s.select (pageQuery size q info)).map fun items => .page (items.map .dict) info,
            s.counted.counted) := by
  change ofPage size number q s = _
  unfold ofPage
  rw [Attempt.bind_eq]
  simp only [EntityStore.measure]
  cases s.count q with
  | error e => rfl
  | ok total =>
    dsimp only
    rw [Attempt.bind_eq, Attempt.lift_eq]
    cases Pagination.completed ⟨number, size, some (total : Int), none⟩ with
    | error e => rfl
    | ok info => exact Attempt.map_eq _ (fun items : List Record => Value.page (items.map .dict) info) _

/-- A report changes nothing but the number of queries that have been run. -/
theorem run_answer (report : Report) (q : QueryState) (s : EntityStore) :
    ∃ n, (report.answer q).run s = (report.result q s, { s with executions := n }) := by
  -- The answer is the first part of the run by definition; only the store is in question.
  have count {run : Except Failure Value × EntityStore} (counts : ∃ n, run.2 = { s with executions := n }) :
      ∃ n, run = (run.1, { s with executions := n }) := by
    obtain ⟨n, counts⟩ := counts
    exact ⟨n, Prod.ext rfl counts⟩
  apply count
  cases report with
  | rows => exact ⟨s.executions + 1, by rw [run_rows]; rfl⟩
  | firstRow => exact ⟨s.executions + 1, by rw [run_firstRow]; rfl⟩
  | rowCount => exact ⟨s.executions + 1, by rw [run_rowCount]; rfl⟩
  | page size number =>
    rw [run_page]
    split
    · exact ⟨s.executions + 1, rfl⟩
    · split
      · exact ⟨s.executions + 1, rfl⟩
      · exact ⟨s.executions + 1 + 1, rfl⟩

/-! ## Conditions that hold alike -/

variable {α : Type} {old new : α → Record} {s s' : EntityStore} {q : QueryState}
  {fields : List String} {items : List α} {v : Value}

variable (depends : q.DependsOn fields) (before : s.records = items.map old)
  (after : s'.records = items.map new)
  (agree : ∀ a, ∀ name ∈ fields, Value.field (.dict (old a)) name = Value.field (.dict (new a)) name)

include depends before after agree

end Report

end QueryCache
