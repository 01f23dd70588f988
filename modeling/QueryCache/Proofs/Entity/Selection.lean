import QueryCache.Entity.Report
import QueryCache.Proofs.Outcome
import QueryCache.Proofs.Predicate.Reads

/-! Queries on two stores whose records stand in pairs.

Where the records of a pair agree on the fields that a query reads, the query selects the same
pairs in the same order from both. A choice from pairs is written as a list of them, once, of
which both answers are images. -/

set_option autoImplicit false

namespace QueryCache

open Outcome

namespace Insertion

variable {α β ε : Type} (before : Before β ε) (f : α → β)

theorem run_map (falling : Bool) (last : α) (seen rest : List α) :
    run before falling (f last) (seen.map f) (rest.map f) =
      (run (fun a b => before (f a) (f b)) falling last seen rest).map
        fun parts => (parts.1.map f, parts.2.map f) := by
  induction rest generalizing last seen with
  | nil => rfl
  | cons item rest ih =>
    simp only [List.map_cons, run]
    cases before (f item) (f last) with
    | error e => rfl
    | ok answer =>
      by_cases stands : answer = falling
      · -- The run goes on as long as the items go the same way.
        have := ih item (item :: seen)
        simpa [bind, Except.bind, stands] using this
      · simp [bind, Except.bind, stands, pure, Except.pure, Except.map]

theorem place_map (sorted : Array α) (item : α) (fuel low high : Nat) :
    place before (sorted.map f) (f item) fuel low high =
      place (fun a b => before (f a) (f b)) sorted item fuel low high := by
  induction fuel generalizing low high with
  | zero => rfl
  | succ fuel ih =>
    simp only [place, Array.getElem?_map]
    cases sorted[low + (high - low) / 2]? with
    | none => rfl
    | some other => simp only [Option.map_some, ih]

theorem insert_map (sorted : List α) (item : α) :
    insert before (sorted.map f) (f item) =
      (insert (fun a b => before (f a) (f b)) sorted item).map (List.map f) := by
  simp only [insert, ← List.map_toArray, place_map, Array.size_map]
  cases place (fun a b => before (f a) (f b)) sorted.toArray item (sorted.toArray.size + 1) 0
    sorted.toArray.size with
  | error e => rfl
  | ok index => simp [bind, Except.bind, pure, Except.pure, Except.map, List.map_insertIdx]

theorem foldlM_insert_map (sorted rest : List α) :
    (rest.map f).foldlM (insert before) (sorted.map f) =
      (rest.foldlM (insert fun a b => before (f a) (f b)) sorted).map (List.map f) := by
  induction rest generalizing sorted with
  | nil => rfl
  | cons item rest ih =>
    rw [List.map_cons, List.foldlM_cons, List.foldlM_cons, insert_map]
    cases insert (fun a b => before (f a) (f b)) sorted item with
    | error e => rfl
    | ok next => exact ih next

/-- Sorting looks at items through their comparison only. -/
theorem sort_map (items : List α) :
    sort before (items.map f) = (sort (fun a b => before (f a) (f b)) items).map (List.map f) := by
  match items with
  | [] => rfl
  | [item] => rfl
  | first :: second :: rest =>
    simp only [List.map_cons, sort]
    cases before (f second) (f first) with
    | error e => rfl
    | ok falling =>
      have started := run_map before f falling second [second, first] rest
      simp only [List.map_cons, List.map_nil] at started
      simp only [bind, Except.bind, started]
      cases run (fun a b => before (f a) (f b)) falling second [second, first] rest with
      | error e => rfl
      | ok parts =>
        have sorted := foldlM_insert_map before f
          (if falling then parts.1 else parts.1.reverse) parts.2
        cases falling <;> simpa [Except.map] using sorted

end Insertion

/-! ## Rows in pairs -/

namespace Rows

variable {α : Type} {old new : α → Record} {x y : Except Failure (List Record)}

/-- Two outcomes that are images of one choice. -/
def Alike (old new : α → Record) (x y : Except Failure (List Record)) : Prop :=
  ∃ chosen : Except Failure (List α), x = chosen.map (List.map old) ∧ y = chosen.map (List.map new)

theorem Alike.bind (alike : Alike old new x y) {f g : List Record → Except Failure (List Record)}
    (next : ∀ items : List α, Alike old new (f (items.map old)) (g (items.map new))) :
    Alike old new (x >>= f) (y >>= g) := by
  obtain ⟨chosen, rfl, rfl⟩ := alike
  cases chosen with
  | error e => exact ⟨.error e, rfl, rfl⟩
  | ok items => exact next items

theorem filterM_map (f : α → Record) (p : Record → Except Failure Bool) (items : List α) :
    (items.map f).filterM p = (items.filterM fun a => p (f a)).map (List.map f) := by
  -- The filter collects backwards, so the induction is about what it holds so far.
  have aux (kept : List α) : List.filterAuxM p (items.map f) (kept.map f) =
      (List.filterAuxM (fun a => p (f a)) items kept).map (List.map f) := by
    induction items generalizing kept with
    | nil => rfl
    | cons item rest ih =>
      simp only [List.map_cons, List.filterAuxM]
      cases p (f item) with
      | error e => rfl
      | ok b =>
        cases b with
        | true => exact ih (item :: kept)
        | false => exact ih kept
  simp only [List.filterM]
  rw [← List.map_nil, aux]
  cases List.filterAuxM (fun a => p (f a)) items [] with
  | error e => rfl
  | ok kept => simp [Except.map, bind, Except.bind, pure, Except.pure]

theorem matching_alike {p : Predicate} (agree : ∀ a, p.holds (.dict (old a)) = p.holds (.dict (new a)))
    (items : List α) : Alike old new (matching p (items.map old)) (matching p (items.map new)) := by
  refine ⟨items.filterM fun a => p.holds (.dict (old a)), filterM_map _ _ _, ?_⟩
  rw [matching, filterM_map]
  simp only [agree]

/-- Groups are made of the values of the grouped fields, whatever else the records hold. -/
theorem grouped_congr {fields : List String} (having : Predicate)
    (agree : ∀ a, ∀ name ∈ fields, Value.field (.dict (old a)) name = Value.field (.dict (new a)) name)
    (items : List α) : grouped fields having (items.map old) = grouped fields having (items.map new) := by
  have keys : (items.map old).map (groupKey fields) = (items.map new).map (groupKey fields) := by
    simp only [List.map_map]
    apply List.map_congr_left
    intro a _
    exact List.map_congr_left (agree a)
  simp only [grouped, keys]

theorem sortedBy_eq (s : SortField) (f : α → Record) (items : List α) :
    sortedBy s (items.map f) =
      (match s.direction with
        | .asc => Insertion.sort (fun a b => before (Value.field (.dict (f a)) s.field)
            (Value.field (.dict (f b)) s.field)) items
        | .desc => (Insertion.sort (fun a b => before (Value.field (.dict (f a)) s.field)
            (Value.field (.dict (f b)) s.field)) items.reverse).map List.reverse).map (List.map f) := by
  -- Each row is sorted with its key beside it, and both are images of the item.
  have keyed (items : List α) := Insertion.sort_map
    (fun a b : Value × Record => before a.1 b.1)
    (fun a => (Value.field (.dict (f a)) s.field, f a)) items
  unfold sortedBy
  dsimp only
  rw [List.map_map]
  cases s.direction with
  | asc =>
    dsimp only
    rw [show ((fun row => (Value.field (.dict row) s.field, row)) ∘ f) =
      fun a => (Value.field (.dict (f a)) s.field, f a) from rfl, keyed]
    cases Insertion.sort (fun a b => before (Value.field (.dict (f a)) s.field)
      (Value.field (.dict (f b)) s.field)) items with
    | error e => rfl
    | ok sorted => simp [Except.map, bind, Except.bind, pure, Except.pure]
  | desc =>
    dsimp only
    rw [show ((fun row => (Value.field (.dict row) s.field, row)) ∘ f) =
      fun a => (Value.field (.dict (f a)) s.field, f a) from rfl, ← List.map_reverse, keyed]
    cases Insertion.sort (fun a b => before (Value.field (.dict (f a)) s.field)
      (Value.field (.dict (f b)) s.field)) items.reverse with
    | error e => rfl
    | ok sorted => simp [Except.map, bind, Except.bind, pure, Except.pure]

theorem sortedBy_alike {s : SortField}
    (agree : ∀ a, Value.field (.dict (old a)) s.field = Value.field (.dict (new a)) s.field)
    (items : List α) : Alike old new (sortedBy s (items.map old)) (sortedBy s (items.map new)) := by
  refine ⟨_, sortedBy_eq s old items, ?_⟩
  rw [sortedBy_eq]
  simp only [agree]

theorem sorted_alike {sort : List SortField}
    (agree : ∀ a, ∀ s ∈ sort, Value.field (.dict (old a)) s.field = Value.field (.dict (new a)) s.field)
    (items : List α) : Alike old new (sorted sort (items.map old)) (sorted sort (items.map new)) := by
  unfold sorted
  -- The last field is sorted by first, and each later sort is stable.
  replace agree : ∀ a, ∀ s ∈ sort.reverse,
      Value.field (.dict (old a)) s.field = Value.field (.dict (new a)) s.field :=
    fun a s member => agree a s (List.mem_reverse.1 member)
  generalize sort.reverse = fields at agree
  induction fields generalizing items with
  | nil => exact ⟨.ok items, rfl, rfl⟩
  | cons s rest ih =>
    simp only [List.foldlM_cons]
    apply (sortedBy_alike (fun a => agree a s (by simp)) items).bind
    exact fun items => ih items fun a s member => agree a s (by simp [member])

theorem cut_none (rows : List Record) : cut none none rows = rows := by
  simp [cut, position]

/-- Cutting looks at places only. -/
theorem cut_map (offset limit : Option Int) (items : List α) :
    ∃ kept : List α, ∀ f : α → Record, cut offset limit (items.map f) = kept.map f := by
  unfold cut
  cases limit with
  | none => exact ⟨items.drop (position items.length (offset.getD 0)), by simp⟩
  | some limit =>
    refine ⟨(items.take (position items.length (offset.getD 0 + limit))).drop
      (position items.length (offset.getD 0)), ?_⟩
    intro f
    simp [List.map_drop, List.map_take]

end Rows

/-! ## Queries -/

/-- A query that depends on some fields only, and attaches nothing to its rows. -/
structure QueryState.DependsOn (fields : List String) (q : QueryState) : Prop where
  wheres : ∀ p ∈ q.wheres, p.DependsOn fields
  sort : ∀ s ∈ q.sort, s.field ∈ fields
  groupBy : ∀ name ∈ q.groupBy, name ∈ fields
  relations : q.relations = []
  counts : q.counts = []

namespace QueryState.DependsOn

variable {fields : List String} {q : QueryState}

theorem setLimit (depends : q.DependsOn fields) (limit : Option Int) :
    (q.setLimit limit).DependsOn fields :=
  ⟨depends.wheres, depends.sort, depends.groupBy, depends.relations, depends.counts⟩

theorem setOffset (depends : q.DependsOn fields) (offset : Option Int) :
    (q.setOffset offset).DependsOn fields :=
  ⟨depends.wheres, depends.sort, depends.groupBy, depends.relations, depends.counts⟩

end QueryState.DependsOn

namespace EntityStore

variable {α : Type} {old new : α → Record} {s s' : EntityStore} {q : QueryState}
  {fields : List String} {items : List α}

theorem select_bare (s : EntityStore) (relations : q.relations = []) (counts : q.counts = []) :
    s.select q = (do return Rows.cut q.offset q.limit (← Rows.sorted q.sort (← s.rows q))) := by
  -- Without relations a row stays as it is.
  have bare (row : Record) : s.withRelations q row = .ok row := by
    rw [withRelations, relations, counts]
    rfl
  have whole (rows : List Record) : rows.mapM (s.withRelations q) = .ok rows := by
    have back : (rows.map id).mapM (s.withRelations q) = .ok rows :=
      mapM_map_eq_ok fun row _ => bare row
    simpa using back
  simp only [select, whole]
  rfl

variable (depends : q.DependsOn fields) (before : s.records = items.map old)
  (after : s'.records = items.map new)
  (agree : ∀ a, ∀ name ∈ fields, Value.field (.dict (old a)) name = Value.field (.dict (new a)) name)

include depends before after agree

theorem matching_rows : Rows.Alike old new (Rows.matching q.predicate s.records)
    (Rows.matching q.predicate s'.records) := by
  rw [before, after]
  apply Rows.matching_alike
  intro a
  exact Predicate.dependsOn_all depends.wheres _ _ (agree a)

/-- A query that groups finds the same groups. -/
theorem rows_eq (groups : q.groupBy ≠ []) : s.rows q = s'.rows q := by
  obtain ⟨chosen, first, second⟩ := matching_rows depends before after agree
  have grouping : q.groupBy.isEmpty = false := by simpa using groups
  unfold rows
  rw [first, second]
  cases chosen with
  | error e => rfl
  | ok kept =>
    simp only [Except.map, bind, Except.bind, grouping, Bool.false_eq_true, if_false]
    exact Rows.grouped_congr _ (fun a name member => agree a name (depends.groupBy name member)) kept

theorem rows_alike (single : q.groupBy = []) : Rows.Alike old new (s.rows q) (s'.rows q) := by
  obtain ⟨chosen, first, second⟩ := matching_rows depends before after agree
  refine ⟨chosen, ?_, ?_⟩
  · rw [rows, first, single]
    cases chosen <;> rfl
  · rw [rows, second, single]
    cases chosen <;> rfl

theorem count_eq : s.count q = s'.count q := by
  unfold count
  by_cases single : q.groupBy = []
  · obtain ⟨chosen, first, second⟩ := rows_alike depends before after agree single
    rw [first, second]
    cases chosen <;> simp [Except.map]
  · rw [rows_eq depends before after agree single]

theorem select_eq (groups : q.groupBy ≠ []) : s.select q = s'.select q := by
  rw [select_bare s depends.relations depends.counts, select_bare s' depends.relations depends.counts,
    rows_eq depends before after agree groups]

theorem select_alike (single : q.groupBy = []) : Rows.Alike old new (s.select q) (s'.select q) := by
  rw [select_bare s depends.relations depends.counts, select_bare s' depends.relations depends.counts]
  apply (rows_alike depends before after agree single).bind
  intro items
  apply (Rows.sorted_alike (fun a s member => agree a s.field (depends.sort s member)) items).bind
  intro items
  obtain ⟨kept, image⟩ := Rows.cut_map q.offset q.limit items
  exact ⟨.ok kept, congrArg Except.ok (image old), congrArg Except.ok (image new)⟩

end EntityStore

end QueryCache
