import QueryCache.Proofs.Cache.Consistency

/-! Pruning a cache in memory.

Each turn of the loop takes one row from the heap, so it comes to an end. It drops a key only if the row
agrees with the recorded expiry of the key, and rows that were left over from earlier expiries do nothing.
It stops at the first row that is not due; as the rows are in order none of the others is due then, and
every recorded expiry has its row. An expiry that is no number is in no order, and hides rows behind it. -/

set_option autoImplicit false

namespace QueryCache.MemoryCache

variable {c : MemoryCache} {rows : Heap (Time × String)} {now : Time}

/-! ## Rows in order -/

theorem rowBefore_iff {a b : Time × String} {x y : Extent} (atA : Binary64.extent? a.1 = some x)
    (atB : Binary64.extent? b.1 = some y) : rowBefore a b = true ↔ x.lt y = true ∨ x = y ∧ a.2 < b.2 := by
  unfold rowBefore Time.le Time.lt
  simp only [atA, atB, Extent.le]
  rcases Extent.lt_trichotomy x y with less | rfl | more
  · simp [less, Extent.ne_of_lt less]
  · simp [Extent.lt_irrefl]
  · simp [more, (Extent.ne_of_lt more).symm]

theorem rowBefore_eq_false_iff {a b : Time × String} {x y : Extent} (atA : Binary64.extent? a.1 = some x)
    (atB : Binary64.extent? b.1 = some y) : rowBefore b a = false ↔ x.lt y = true ∨ x = y ∧ a.2 ≤ b.2 := by
  rw [← Bool.not_eq_true, rowBefore_iff atB atA]
  rcases Extent.lt_trichotomy x y with less | rfl | more
  · simp [less, Extent.lt_asymm less, (Extent.ne_of_lt less).symm]
  · simp only [Extent.lt_irrefl, Bool.false_eq_true, false_or, true_and, String.not_lt]
  · simp [more, Extent.lt_asymm more, (Extent.ne_of_lt more).symm]

/-- Rows whose times are numbers are in order by their times, and at one time by their keys. -/
theorem orders_rowBefore (numbers : ∀ row ∈ rows, row.1 ≠ .nan) : Heap.Orders rowBefore rows where
  asymm a inA b inB less := by
    obtain ⟨x, atA⟩ := Time.exists_extent (numbers a inA)
    obtain ⟨y, atB⟩ := Time.exists_extent (numbers b inB)
    rw [rowBefore_eq_false_iff atA atB]
    refine ((rowBefore_iff atA atB).1 less).imp_right fun ⟨same, keys⟩ => ⟨same, ?_⟩
    exact String.not_lt.1 (String.lt_asymm keys)
  trans a inA b inB c inC first last := by
    obtain ⟨x, atA⟩ := Time.exists_extent (numbers a inA)
    obtain ⟨y, atB⟩ := Time.exists_extent (numbers b inB)
    obtain ⟨z, atC⟩ := Time.exists_extent (numbers c inC)
    rw [rowBefore_eq_false_iff atA atC]
    rcases (rowBefore_eq_false_iff atA atB).1 first with less | ⟨rfl, keys⟩
    · rcases (rowBefore_eq_false_iff atB atC).1 last with less' | ⟨rfl, -⟩
      · exact .inl (Extent.lt_trans less less')
      · exact .inl less
    · rcases (rowBefore_eq_false_iff atB atC).1 last with less' | ⟨rfl, keys'⟩
      · exact .inl less'
      · exact .inr ⟨rfl, String.le_trans keys keys'⟩

/-- What is due is due with all that is no later. -/
theorem le_of_rowBefore {a b : Time × String} (number : a.1 ≠ .nan) (earlier : rowBefore b a = false)
    (due : b.1.le now = true) : a.1.le now = true := by
  obtain ⟨x, atA⟩ := Time.exists_extent number
  obtain ⟨y, atB⟩ := Time.exists_extent (Time.ne_nan_of_le due)
  refine Time.le_trans (Time.le_iff.2 ⟨x, y, atA, atB, ?_⟩) due
  rcases (rowBefore_eq_false_iff atA atB).1 earlier with less | ⟨rfl, -⟩
  · rw [Extent.le, Extent.lt_asymm less, Bool.not_false]
  · simp [Extent.le, Extent.lt_irrefl]

/-- The rows are in order, unless the time of one of them is no number. -/
def Sorted (rows : Heap (Time × String)) : Prop :=
  (∀ row ∈ rows, row.1 ≠ .nan) → Heap.Ordered rowBefore rows

theorem sorted_empty : Sorted #[] := fun _ _ _ _ _ nothing => nomatch nothing

theorem Sorted.push (sorted : Sorted rows) (row : Time × String) : Sorted (Heap.push rowBefore rows row) := by
  intro numbers
  have ordered := sorted fun other member => numbers other (Heap.mem_push.2 (.inr member))
  exact ordered.push (orders_rowBefore numbers)

-- What was taken was due, and so a number.
theorem Sorted.popWhile (sorted : Sorted rows) (now : Time) (fuel : Nat) :
    Sorted (Heap.popWhile rowBefore (fun row => row.1.le now) fuel rows).2 := by
  intro numbers
  have all (row : Time × String) (member : row ∈ rows) : row.1 ≠ .nan := by
    rcases (Heap.mem_of_popWhile rowBefore (fun row => row.1.le now) fuel rows).1 member with taken | left
    · exact Time.ne_nan_of_le (Heap.holds_of_mem_popWhile rowBefore _ fuel rows row taken)
    · exact numbers row left
  exact (sorted all).popWhile (orders_rowBefore all) _ fuel

/-- Of rows that are in order none that is due is left behind. -/
theorem Sorted.not_due (sorted : Sorted rows) (numbers : ∀ row ∈ rows, row.1 ≠ .nan) {fuel : Nat}
    (enough : rows.size ≤ fuel) :
    ∀ row ∈ (Heap.popWhile rowBefore (fun row => row.1.le now) fuel rows).2, row.1.le now = false :=
  (sorted numbers).not_holds_popWhile (orders_rowBefore numbers)
    (fun a inA _ _ earlier due => le_of_rowBefore (numbers a inA) earlier due) enough

/-! ## Rows of a run -/

theorem dropDue_withRows (c : MemoryCache) (rows : Heap (Time × String)) (row : Time × String) :
    ({ c with rows := rows }).dropDue row = { c.dropDue row with rows := rows } := by
  unfold dropDue
  dsimp only
  split
  · split <;> rfl
  · rfl

theorem rows_prune (c : MemoryCache) (now : Time) : (c.prune now).rows =
    (Heap.popWhile rowBefore (fun row => row.1.le now) c.rows.size c.rows).2 := by
  unfold prune
  generalize Heap.popWhile rowBefore (fun row => row.1.le now) c.rows.size c.rows = split
  refine List.foldlRecOn _ _ (motive := fun c' : MemoryCache => c'.rows = split.2) rfl fun c' same row _ => ?_
  exact (congrArg MemoryCache.rows (dropDue_withRows c' c'.rows row)).trans same

theorem Sorted.hold (sorted : Sorted c.rows) (now : Time) (entry : CacheEntry) (span : Option Binary64) :
    Sorted ((c.hold now entry span).index entry).rows := by
  unfold index
  dsimp only
  split
  · exact sorted.push _
  · exact sorted

theorem invariant_sorted : Invariant fun c => Sorted c.rows where
  empty := sorted_empty
  drop _ _ sorted := sorted
  unindex _ _ sorted := sorted
  hold _ now entry span sorted := sorted.hold now entry span
  erase _ _ sorted := sorted
  prune c now sorted := by
    rw [rows_prune]
    exact sorted.popWhile now c.rows.size

/-! ## The loop -/

/-- Pruning turn by turn: as long as the first row is due it is taken, and its key dropped unless the row
is out of date. -/
inductive Prunes (now : Time) : Nat → MemoryCache → MemoryCache → Prop where
  | done {c : MemoryCache} : (∀ row, c.rows[0]? = some row → row.1.le now = false) → Prunes now 0 c c
  | next {turns : Nat} {c final : MemoryCache} {row : Time × String} {later : Heap (Time × String)} :
      Heap.pop? rowBefore c.rows = some (row, later) → row.1.le now = true →
      Prunes now turns ({ c with rows := later }.dropDue row) final → Prunes now (turns + 1) c final

theorem Prunes.unique {turns turns' : Nat} {final final' : MemoryCache} (loop : Prunes now turns c final)
    (other : Prunes now turns' c final') : turns' = turns ∧ final' = final := by
  induction loop generalizing turns' with
  | done idle =>
    cases other with
    | done _ => exact ⟨rfl, rfl⟩
    | next first due _ => cases (idle _ (Heap.pop?_head first)).symm.trans due
  | next first due _ ih =>
    cases other with
    | done idle => cases (idle _ (Heap.pop?_head first)).symm.trans due
    | next first' due' rest =>
      cases first.symm.trans first'
      obtain ⟨rfl, rfl⟩ := ih rest
      exact ⟨rfl, rfl⟩

-- Dropping a key neither reads nor changes the rows, so they may all be taken before.
theorem prunes_popWhile (c : MemoryCache) (now : Time) (rows : Heap (Time × String)) {fuel : Nat}
    (enough : rows.size ≤ fuel) :
    Prunes now (Heap.popWhile rowBefore (fun row => row.1.le now) fuel rows).1.length { c with rows := rows }
      ((Heap.popWhile rowBefore (fun row => row.1.le now) fuel rows).1.foldl dropDue
        { c with rows := (Heap.popWhile rowBefore (fun row => row.1.le now) fuel rows).2 }) := by
  induction fuel generalizing c rows with
  | zero =>
    refine .done fun row first => ?_
    rw [Array.size_eq_zero_iff.1 (Nat.le_zero.1 enough)] at first
    cases first
  | succ fuel ih =>
    unfold Heap.popWhile
    split
    · next row later popped =>
      have size := Heap.size_of_pop? popped
      split
      · next due =>
        refine .next popped due ?_
        have onwards := ih (c.dropDue row) later (by omega)
        rw [← dropDue_withRows, ← dropDue_withRows] at onwards
        exact onwards
      · next early =>
        refine .done fun first head => ?_
        cases (Heap.pop?_head popped).symm.trans head
        simpa using early
    · next nothing =>
      refine .done fun row first => ?_
      rw [Heap.eq_empty_of_pop? nothing] at first
      cases first

/-- The loop ends after as many turns as there are rows at most, and nowhere but in the pruned cache. -/
theorem prunes_iff (c : MemoryCache) (now : Time) :
    ∃ turns ≤ c.rows.size, ∀ k final, Prunes now k c final ↔ k = turns ∧ final = c.prune now := by
  have loop := prunes_popWhile c now c.rows (Nat.le_refl _)
  refine ⟨_, ?_, fun k final => ⟨loop.unique, ?_⟩⟩
  · have kept := (Heap.popWhile_perm rowBefore (fun row => row.1.le now) c.rows.size c.rows).length_eq
    rw [List.length_append, Array.length_toList, Array.length_toList] at kept
    omega
  · rintro ⟨rfl, rfl⟩
    exact loop

/-- Whatever is done to a cache, and at whatever times, pruning it comes to an end. Keys without a recorded
expiry that is due are left alone, and those with one are gone if the expiries of all rows are numbers. -/
theorem pruned_run (events : List (Time × CacheAction)) (now : Time) :
    (∃ turns ≤ (run {} events).rows.size, ∀ k final,
      Prunes now k (run {} events) final ↔ k = turns ∧ final = (run {} events).prune now) ∧
    (∀ key, (∀ expiry, Table.get? (run {} events).expiry key = some expiry → expiry.le now = false) →
      Leaves (run {} events) ((run {} events).prune now) key) ∧
    ((∀ row ∈ (run {} events).rows, row.1 ≠ .nan) →
      ∀ key expiry, Table.get? (run {} events).expiry key = some expiry → expiry.le now = true →
        Gone ((run {} events).prune now) key) := by
  have tidy := tidy_empty.run events
  refine ⟨prunes_iff _ now, fun key early => ?_, fun numbers key expiry recorded due => ?_⟩
  · rcases (prunedAt_prune tidy now).2 key with leaves | ⟨⟨expiry, recorded, due⟩, -⟩
    · exact leaves
    · cases (early expiry recorded).symm.trans due
  · rcases (prunedAt_prune tidy now).2 key with leaves | ⟨-, gone⟩
    · -- What is still recorded has its row, and no row that is left is due.
      have waiting := (((kept_run events).prune now).scheduled key expiry (leaves.expiry.trans recorded)).resolve_left
        List.not_mem_nil
      rw [rows_prune] at waiting
      cases due.symm.trans ((invariant_sorted.run events).not_due numbers (Nat.le_refl _) _ waiting)
    · exact gone

/-- A run that lets two of three entries live longer than they were put for. Their first rows stay. -/
def prolonging : List (Time × CacheAction) := [
  (Binary64.zero, .put ⟨"due", ["t"], [0], some (.finite false 1)⟩),
  (Binary64.zero, .put ⟨"longer", ["t"], [1], some (.finite false 1)⟩),
  (Binary64.zero, .put ⟨"for ever", ["t"], [2], some (.finite false 1)⟩),
  (Binary64.zero, .touch "longer" (.finite false 3)),
  (Binary64.zero, .put ⟨"for ever", ["t"], [3], none⟩)]

-- The three rows for the first time are taken, and one of the keys goes.
theorem pruned_run_prolonging :
    ((run {} prolonging).rows.size = 4 ∧ ((run {} prolonging).prune (.finite false 2)).rows.size = 1) ∧
      Gone ((run {} prolonging).prune (.finite false 2)) "due" ∧
      Leaves (run {} prolonging) ((run {} prolonging).prune (.finite false 2)) "longer" ∧
      Leaves (run {} prolonging) ((run {} prolonging).prune (.finite false 2)) "for ever" := by
  obtain ⟨-, left, gone⟩ := pruned_run prolonging (.finite false 2)
  have longer : Table.get? (run {} prolonging).expiry "longer" = some (.finite false 3) := by decide +kernel
  have never : Table.get? (run {} prolonging).expiry "for ever" = none := by decide +kernel
  refine ⟨by decide +kernel, ?_, left "longer" fun expiry recorded => ?_, left "for ever" fun expiry recorded => ?_⟩
  · exact gone (by decide +kernel) "due" (.finite false 1) (by decide +kernel) (by decide)
  · cases longer.symm.trans recorded
    decide
  · cases never.symm.trans recorded

/-- A run that touches an entry for what is no number of seconds, and another one for none. -/
def touchedForNothing : List (Time × CacheAction) := [
  (Binary64.zero, .put ⟨"first", ["t"], [0], none⟩),
  (Binary64.zero, .touch "first" .nan),
  (Binary64.zero, .put ⟨"second", ["t"], [1], none⟩),
  (Binary64.zero, .touch "second" Binary64.zero)]

-- The row of the first entry is never due, and the loop does not get past it.
theorem prune_hides_due :
    ∃ expiry, Table.get? (run {} touchedForNothing).expiry "second" = some expiry ∧ expiry.le Binary64.zero = true ∧
      Table.get? ((run {} touchedForNothing).prune Binary64.zero).expiry "second" = some expiry ∧
      "second" ∈ keysOf ((run {} touchedForNothing).prune Binary64.zero).tags "t" :=
  ⟨Binary64.zero, by decide +kernel, by decide, by decide +kernel, by decide +kernel⟩

end QueryCache.MemoryCache
