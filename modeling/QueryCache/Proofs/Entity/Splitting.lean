import QueryCache.Proofs.Entity.Paging
import QueryCache.Proofs.Entity.Sorting

/-! Selections under one more condition.

A stable sort puts the items that meet a condition in the same order whether the others are sorted
along with them or not. So a query with one condition more selects those of its rows that meet it, in
the order in which it selects all of them. -/

set_option autoImplicit false

namespace QueryCache

open Outcome

/-- Sorting some of the items leaves them as a sort of all items does. -/
theorem Insertion.sort_filter {α ε K : Type} [LinearOrder K] {before : Before α ε} {rank : α → K} {items : List α}
    (answers : Answers before rank items) (p : α → Bool) :
    sort before (items.filter p) = (sort before items).map (List.filter p) := by
  -- Of items that carry their places no two are equal, and only one order of them is stable.
  have answers' : Answers (fun a b : α × Nat => before a.1 b.1) (fun a => rank a.1) items.zipIdx :=
    fun a member b member' =>
      answers a.1 (List.fst_mem_of_mem_zipIdx member) b.1 (List.fst_mem_of_mem_zipIdx member')
  have stood := pairwise_zipIdx items
  obtain ⟨all, run, perm, ranked⟩ := exists_sort answers' stood
  obtain ⟨kept, run', perm', ranked'⟩ := exists_sort (answers'.subset List.filter_sublist.subset)
    (stood.filter fun a => p a.1)
  have same : kept = all.filter fun a => p a.1 := by
    refine List.Perm.eq_of_pairwise ?_ ranked' (ranked.filter _) (perm'.trans (perm.symm.filter _))
    rintro a b - - (less | ⟨tie, before⟩) (less' | ⟨tie', before'⟩)
    · exact absurd less less'.not_gt
    · exact absurd tie' less.ne'
    · exact absurd tie less'.ne'
    · exact absurd before before'.not_gt
  have unplaced : items.filter p = (items.zipIdx.filter fun a => p a.1).map Prod.fst := by
    conv_lhs => rw [← List.zipIdx_map_fst 0 items, List.filter_map]
    rfl
  have whole : sort before items = .ok (all.map Prod.fst) := by
    conv_lhs => rw [← List.zipIdx_map_fst 0 items, sort_map, run]
    rfl
  rw [unplaced, sort_map, run', whole, same]
  exact congrArg Except.ok List.filter_map.symm

namespace SortField

variable {s : SortField} {fields : List SortField} {rows : List Record}

/-- Where the values of a field are ordered, rows are compared by the ranks of their values. -/
theorem Orders.answers (orders : s.Orders rows) : ∃ (K : Type) (_ : LinearOrder K) (rank : Record → K),
    Insertion.Answers (fun a b => Rows.before (s.value a) (s.value b)) rank rows := by
  obtain ⟨K, _, place, agrees⟩ := orders
  refine ⟨WithTop K, inferInstance, fun row => Value.rank place (s.value row), fun a member b member' => ?_⟩
  exact Value.before_eq fun null null' => agrees _ ⟨null, a, member, rfl⟩ _ ⟨null', b, member', rfl⟩

theorem sortedBy_filter (orders : s.Orders rows) (p : Record → Bool) :
    Rows.sortedBy s (rows.filter p) = (Rows.sortedBy s rows).map (List.filter p) := by
  obtain ⟨K, _, rank, answers⟩ := orders.answers
  have answers' : Insertion.Answers (fun a b => Rows.before (s.value a) (s.value b)) rank rows.reverse :=
    answers.subset (List.reverse_perm rows).subset
  have unmapped (x : Except Failure (List Record)) : x.map (List.map id) = x := by
    cases x <;> simp [Except.map]
  have turned (x : Except Failure (List Record)) :
      (x.map (List.filter p)).map List.reverse = (x.map List.reverse).map (List.filter p) := by
    cases x <;> simp [Except.map]
  have run (rows : List Record) := Rows.sortedBy_eq s id rows
  simp only [List.map_id, unmapped] at run
  rw [run, run]
  -- A descending sort looks at the rows from behind, and so does a condition on them.
  cases s.direction with
  | asc => exact Insertion.sort_filter answers p
  | desc =>
    have filtered := Insertion.sort_filter answers' p
    rw [List.filter_reverse] at filtered
    exact (congrArg (Except.map List.reverse) filtered).trans (turned _)

theorem sorted_filter (orders : ∀ s ∈ fields, s.Orders rows) (p : Record → Bool) :
    Rows.sorted fields (rows.filter p) = (Rows.sorted fields rows).map (List.filter p) := by
  induction fields with
  | nil => rfl
  | cons s rest ih =>
    have last (rows : List Record) :
        Rows.sorted (s :: rest) rows = Rows.sorted rest rows >>= fun rows => Rows.sortedBy s rows := by
      unfold Rows.sorted
      rw [List.reverse_cons, List.foldlM_append]
      simp only [List.foldlM_cons, List.foldlM_nil, bind_pure]
    rw [last, last, ih fun s' member => orders s' (by simp [member])]
    cases run : Rows.sorted rest rows with
    | error e => rfl
    | ok others =>
      have sub := (Rows.perm_of_sorted run).subset
      exact sortedBy_filter ((orders s (by simp)).subset sub) p

end SortField

/-! ## One condition more -/

variable {p : Predicate} {meets : Record → Bool} {q : QueryState} {records found rows : List Record}

theorem Rows.matching_addPredicate (matched : matching q.predicate records = .ok found)
    (decided : ∀ record ∈ records, p.holds (.dict record) = .ok (meets record)) :
    matching (q.addPredicate p).predicate records = .ok (found.filter meets) := by
  obtain ⟨answered, rfl⟩ := filterM_eq_ok matched
  rw [matching, List.filter_filter]
  apply filterM_of_decided
  intro record member
  obtain ⟨answer, given⟩ := answered record member
  have both := Predicate.allHold_append (.dict record) q.wheres [p]
  have first : Predicate.allHold (.dict record) q.wheres = .ok answer := by
    rw [← given, QueryState.predicate, Predicate.holds]
  have last : Predicate.allHold (.dict record) [p] = .ok (meets record) := by
    rw [Predicate.allHold, decided record member]
    cases meets record <;> rfl
  rw [first, last] at both
  rw [QueryState.predicate, Predicate.holds, given]
  refine both.trans ?_
  cases answer <;> cases meets record <;> rfl

theorem Rows.subset_of_matching (matched : matching p records = .ok found) : found ⊆ records := by
  rw [(filterM_eq_ok matched).2]
  exact List.filter_sublist.subset

/-- A query is about the same records in the same order, of which those that meet the condition stay. -/
theorem EntityStore.select_addPredicate {s : EntityStore}
    (ordered : ∀ found, Rows.matching q.predicate s.records = .ok found → ∀ field ∈ q.sort, field.Orders found)
    (single : q.groupBy = []) (unlimited : q.limit = none) (fromStart : q.offset = none)
    (selected : s.select q = .ok rows) :
    ∃ placed : List Record, placed.mapM (s.withRelations q) = .ok rows ∧
      ∀ (p : Predicate) (meets : Record → Bool), (∀ record ∈ s.records, p.holds (.dict record) = .ok (meets record)) →
        s.select (q.addPredicate p) = (placed.filter meets).mapM (s.withRelations q) := by
  obtain ⟨found, told, selected⟩ := bind_eq_ok.1 selected
  obtain ⟨placed, sorted, related⟩ := bind_eq_ok.1 selected
  obtain ⟨matching, matched, same⟩ := bind_eq_ok.1 told
  rw [single] at same
  cases same
  rw [unlimited, fromStart, Rows.cut_none] at related
  refine ⟨placed, related, fun p meets decided => ?_⟩
  have kept : s.rows (q.addPredicate p) = .ok (found.filter meets) := by
    rw [EntityStore.rows, Rows.matching_addPredicate matched decided]
    exact if_pos (by rw [QueryState.addPredicate, single]; rfl)
  have sorted' : Rows.sorted (q.addPredicate p).sort (found.filter meets) = .ok (placed.filter meets) := by
    rw [QueryState.addPredicate, SortField.sorted_filter (ordered found matched) meets, sorted]
    rfl
  rw [select, kept]
  simp only [bind, Except.bind, sorted']
  rw [QueryState.addPredicate, unlimited, fromStart, Rows.cut_none]
  rfl

end QueryCache
