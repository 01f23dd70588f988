import QueryCache.Proofs.Entity.Report
import QueryCache.Proofs.Order.Insertion
import Mathlib.Algebra.Order.Floor.Div

/-! Rows page by page.

A page is cut out of the rows that the query has without bounds, and their number is counted before
they are sorted. Sorting neither drops a row nor adds one, so that both speak of the same rows. -/

set_option autoImplicit false

namespace QueryCache

open Outcome

/-! ## Pages of a list -/

namespace Pagination

variable {α β : Type} {items : List α} {size : Nat} {k : Int}

/-- The items of a page. Pages below the first are the first. -/
def pageOf (size : Nat) (items : List α) (k : Int) : List α :=
  (items.drop ((max k 1 - 1).toNat * size)).take size

theorem pageOf_map (f : α → β) (size : Nat) (items : List α) (k : Int) :
    (pageOf size items k).map f = pageOf size (items.map f) k := by
  simp only [pageOf, List.map_take, List.map_drop]

theorem length_pageOf (size : Nat) (items : List α) (k : Int) :
    (pageOf size items k).length = min size (items.length - (max k 1 - 1).toNat * size) := by
  rw [pageOf, List.length_take, List.length_drop]

theorem flatMap_pageOf (size count : Nat) (items : List α) :
    (List.range count).flatMap (fun i : Nat => pageOf size items (i + 1)) = items.take (count * size) := by
  have starts (i : Nat) : (max (i + 1 : Int) 1 - 1).toNat = i := by omega
  simp only [pageOf, starts]
  induction count with
  | zero => simp
  | succ count ih =>
    rw [List.range_succ, List.flatMap_append, ih, Nat.succ_mul, List.take_add]
    simp

/-- The pages of some items, as many as fill them. -/
structure Paged (size : Nat) (items : List α) (page : Int → List α) : Prop where
  whole : (List.range (items.length ⌈/⌉ size)).flatMap (fun i : Nat => page (i + 1)) = items
  full : ∀ k : Int, 1 ≤ k → k < (items.length ⌈/⌉ size : Nat) → (page k).length = size
  last : ∀ k : Int, 1 ≤ k → k = (items.length ⌈/⌉ size : Nat) → 1 ≤ (page k).length ∧ (page k).length ≤ size
  beyond : ∀ k : Int, (items.length ⌈/⌉ size : Nat) < k → page k = []
  below : ∀ k : Int, k < 1 → page k = page 1

theorem paged (positive : 0 < size) (items : List α) : Paged size items (pageOf size items) := by
  -- Both facts are about page n + 1: the pages up to n hold everything, and how much is left for it.
  have reached (n : Nat) : items.length ⌈/⌉ size ≤ n ↔ items.length ≤ size * n := ceilDiv_le_iff_le_mul positive
  have length (n : Nat) : (pageOf size items (n + 1)).length = min size (items.length - size * n) := by
    rw [length_pageOf, show (max (n + 1 : Int) 1 - 1).toNat = n by omega, Nat.mul_comm]
  constructor
  case whole =>
    rw [flatMap_pageOf, Nat.mul_comm]
    exact List.take_of_length_le ((reached _).1 (Nat.le_refl _))
  case full =>
    intro k first inside
    obtain ⟨n, rfl⟩ : ∃ n : Nat, k = n + 1 := ⟨(k - 1).toNat, by omega⟩
    have more : ¬items.length ≤ size * (n + 1) := by
      rw [← reached]
      omega
    rw [length]
    rw [Nat.mul_succ] at more
    omega
  case last =>
    intro k first at_
    obtain ⟨n, rfl⟩ : ∃ n : Nat, k = n + 1 := ⟨(k - 1).toNat, by omega⟩
    have more : ¬items.length ≤ size * n := by
      rw [← reached]
      omega
    rw [length]
    omega
  case beyond =>
    intro k outside
    obtain ⟨n, rfl⟩ : ∃ n : Nat, k = n + 1 := ⟨(k - 1).toNat, by omega⟩
    have none : items.length ≤ size * n := by
      rw [← reached]
      omega
    rw [← List.length_eq_zero_iff, length]
    omega
  case below =>
    intro k below
    have same : max k 1 = max 1 1 := by omega
    unfold pageOf
    rw [same]

/-- There is a next page exactly if one of the later ones has items. -/
theorem Paged.next_iff {page : Int → List α} (paged : Paged size items page) (first : 1 ≤ k) :
    k < (items.length ⌈/⌉ size : Nat) ↔ ∃ later, k < later ∧ page later ≠ [] := by
  constructor
  · intro inside
    refine ⟨(items.length ⌈/⌉ size : Nat), inside, fun none => ?_⟩
    have some := (paged.last _ (by omega) rfl).1
    rw [none] at some
    cases some
  · rintro ⟨later, after, some⟩
    by_contra outside
    exact some (paged.beyond later (by omega))

end Pagination

/-! ## Rows -/

namespace Rows

theorem perm_of_sortedBy {s : SortField} {rows sorted : List Record} (run : sortedBy s rows = .ok sorted) :
    sorted.Perm rows := by
  have placed := sortedBy_eq s id rows
  rw [List.map_id, run] at placed
  obtain ⟨sorted, sort, rfl⟩ := map_eq_ok.1 placed.symm
  rw [List.map_id]
  cases way : s.direction with
  | asc =>
    rw [way] at sort
    exact Insertion.perm_of_sort sort
  | desc =>
    rw [way] at sort
    obtain ⟨behind, sort', rfl⟩ := map_eq_ok.1 sort
    calc behind.reverse.Perm behind := List.reverse_perm behind
      _ |>.Perm rows.reverse := Insertion.perm_of_sort sort'
      _ |>.Perm rows := List.reverse_perm rows

theorem perm_of_sorted {sort : List SortField} {rows sorted : List Record} (run : Rows.sorted sort rows = .ok sorted) :
    sorted.Perm rows := by
  apply of_foldlM_eq_ok (P := fun sorted => sorted.Perm rows) run (.refl rows)
  exact fun s _ before after perm run => (perm_of_sortedBy run).trans perm

theorem cut_eq (offset size : Nat) (rows : List Record) :
    cut (some offset) (some size) rows = (rows.drop offset).take size := by
  have place (n : Nat) : position rows.length n = min n rows.length := by
    rw [position, if_neg (by omega), Int.toNat_natCast]
  simp only [cut, Option.getD_some, ← Int.natCast_add, place, ← List.take_eq_take_min]
  rw [List.drop_take, ← List.drop_eq_drop_min]
  rcases Nat.le_total offset rows.length with inside | outside
  · rw [Nat.min_eq_left inside, Nat.add_sub_cancel_left]
  · rw [List.drop_of_length_le outside, List.take_nil, List.take_nil]

/-- A cut from no less than zero on has no more rows than asked for. -/
theorem length_cut_le {offset size : Int} (start : 0 ≤ offset) (room : 0 ≤ size) (rows : List Record) :
    ((cut (some offset) (some size) rows).length : Int) ≤ size := by
  lift offset to Nat using start
  lift size to Nat using room
  rw [cut_eq, Int.ofNat_le]
  exact List.length_take_le _ _

end Rows

namespace EntityStore

variable {s : EntityStore} {q : QueryState} {rows : List Record}

/-- What a query without bounds finds is counted, and any stretch of it is what the query finds within
bounds. -/
theorem select_stretch (unlimited : q.limit = none) (fromStart : q.offset = none) (all : s.select q = .ok rows) :
    s.count q = .ok rows.length ∧ ∀ offset size : Nat,
      s.select ((q.setLimit (some size)).setOffset (some offset)) = .ok ((rows.drop offset).take size) := by
  obtain ⟨found, decided, all⟩ := bind_eq_ok.1 all
  obtain ⟨sorted, sort, all⟩ := bind_eq_ok.1 all
  have whole : Rows.cut q.offset q.limit sorted = sorted := by
    rw [unlimited, fromStart, Rows.cut_none]
  rw [whole, mapM_eq_ok] at all
  constructor
  · rw [count, decided, ← all.length_eq, (Rows.perm_of_sorted sort).length_eq]
    rfl
  · intro offset size
    -- The bounds come in only when the rows are found and sorted.
    have run : s.select ((q.setLimit (some size)).setOffset (some offset)) =
        (Rows.cut (some offset) (some size) sorted).mapM (s.withRelations q) := by
      change (s.rows q >>= fun found => Rows.sorted q.sort found >>= fun sorted =>
        (Rows.cut (some offset) (some size) sorted).mapM (s.withRelations q)) = _
      rw [decided]
      change (Rows.sorted q.sort found >>= _) = _
      rw [sort]
      rfl
    rw [run, Rows.cut_eq, mapM_eq_ok]
    exact List.forall₂_take size (List.forall₂_drop offset all)

/-- However many rows there are, no more come than are asked for. -/
theorem length_select_le {offset size : Int} (start : 0 ≤ offset) (room : 0 ≤ size)
    (selected : s.select ((q.setLimit (some size)).setOffset (some offset)) = .ok rows) : (rows.length : Int) ≤ size := by
  obtain ⟨found, -, selected⟩ := bind_eq_ok.1 selected
  obtain ⟨sorted, -, selected⟩ := bind_eq_ok.1 selected
  rw [← (mapM_eq_ok.1 selected).length_eq]
  exact Rows.length_cut_le start room sorted

end EntityStore

end QueryCache
