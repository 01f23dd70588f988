import QueryCache.Order.Insertion
import QueryCache.Proofs.Outcome
import Mathlib.Data.List.InsertIdx
import Mathlib.Order.Lattice

/-! Sorting by insertion is stable.

Whatever the comparison answers, every item comes out once. Where it answers as places in a linear
order do, the items come out by their places, and items of one place in the order they stood in. -/

set_option autoImplicit false

namespace QueryCache.Insertion

open Outcome

variable {α ε : Type} {before : Before α ε}

/-! ## What comes out -/

/-- A beginning and the rest are what there was, cut in two. -/
theorem append_of_run {falling : Bool} {last : α} {seen rest : List α} {parts : List α × List α}
    (ran : run before falling last seen rest = .ok parts) :
    parts.1.reverse ++ parts.2 = seen.reverse ++ rest := by
  induction rest generalizing last seen with
  | nil =>
    cases ran
    rfl
  | cons item rest ih =>
    obtain ⟨answer, -, ran⟩ := bind_eq_ok.1 ran
    split at ran
    · simpa using ih ran
    · cases ran
      rfl

theorem le_of_place {sorted : Array α} {item : α} {fuel low high index : Nat} (inside : low ≤ high)
    (found : place before sorted item fuel low high = .ok index) : index ≤ high := by
  induction fuel generalizing low high with
  | zero =>
    cases found
    exact inside
  | succ fuel ih =>
    rw [place] at found
    split at found
    · next room =>
      dsimp only at found
      split at found
      · cases found
        exact inside
      · obtain ⟨answer, -, found⟩ := bind_eq_ok.1 found
        split at found
        · have := ih (by omega) found
          omega
        · exact ih (by omega) found
    · cases found
      exact inside

theorem perm_of_insert {sorted inserted : List α} {item : α} (run : insert before sorted item = .ok inserted) :
    inserted.Perm (item :: sorted) := by
  obtain ⟨index, found, run⟩ := bind_eq_ok.1 run
  cases run
  apply List.perm_insertIdx
  simpa using le_of_place (Nat.zero_le _) found

theorem perm_of_foldlM_insert {sorted rest inserted : List α}
    (run : rest.foldlM (insert before) sorted = .ok inserted) : inserted.Perm (sorted ++ rest) := by
  induction rest generalizing sorted with
  | nil =>
    cases run
    simp
  | cons item rest ih =>
    rw [List.foldlM_cons] at run
    obtain ⟨next, first, run⟩ := bind_eq_ok.1 run
    calc inserted.Perm (next ++ rest) := ih run
      _ |>.Perm (item :: sorted ++ rest) := (perm_of_insert first).append_right rest
      _ |>.Perm (sorted ++ item :: rest) := List.perm_middle.symm

theorem perm_of_sort {items sorted : List α} (run : sort before items = .ok sorted) : sorted.Perm items := by
  match items with
  | [] | [_] =>
    cases run
    exact .refl _
  | first :: second :: rest =>
    obtain ⟨falling, -, run⟩ := bind_eq_ok.1 run
    obtain ⟨parts, began, run⟩ := bind_eq_ok.1 run
    have whole : parts.1.reverse ++ parts.2 = first :: second :: rest := by simpa using append_of_run began
    rw [← whole]
    refine (perm_of_foldlM_insert run).trans (List.Perm.append_right _ ?_)
    split
    · exact (List.reverse_perm parts.1).symm
    · exact .refl _

/-! ## In which order -/

variable {K : Type} [LinearOrder K] {rank : α → K} {earlier : α → α → Prop}

/-- On some items the comparison answers as their ranks do. -/
def Answers (before : Before α ε) (rank : α → K) (items : List α) : Prop :=
  ∀ a ∈ items, ∀ b ∈ items, before a b = .ok (decide (rank a < rank b))

theorem Answers.subset {items fewer : List α} (answers : Answers before rank items) (sub : fewer ⊆ items) :
    Answers before rank fewer :=
  fun a member b member' => answers a (sub member) b (sub member')

/-- Items with the places they stand at. -/
theorem pairwise_zipIdx (items : List α) : items.zipIdx.Pairwise fun a b => a.2 < b.2 := by
  rw [← List.pairwise_map, List.zipIdx_map_snd]
  exact List.pairwise_lt_range'

/-- How a stable sort leaves items: by their ranks, and within a rank as they stood before. -/
def Ranked (rank : α → K) (earlier : α → α → Prop) (a b : α) : Prop :=
  rank a < rank b ∨ rank a = rank b ∧ earlier a b

theorem Ranked.le {a b : α} (ranked : Ranked rank earlier a b) : rank a ≤ rank b := by
  rcases ranked with less | ⟨same, -⟩
  · exact less.le
  · exact same.le

theorem Ranked.of_le {a b : α} (le : rank a ≤ rank b) (stood : earlier a b) : Ranked rank earlier a b := by
  rcases le.lt_or_eq with less | same
  · exact .inl less
  · exact .inr ⟨same, stood⟩

/-- With enough fuel halving ends where smaller and equal items end and greater ones begin. -/
theorem exists_place {sorted : List α} {item : α} (rising : sorted.Pairwise fun a b => rank a ≤ rank b)
    (answers : ∀ other ∈ sorted, before item other = .ok (decide (rank item < rank other)))
    (fuel low high : Nat) (enough : high - low < fuel) (inside : low ≤ high) (bound : high ≤ sorted.length)
    (below : ∀ (i : Nat) (h : i < sorted.length), i < low → rank sorted[i] ≤ rank item)
    (above : ∀ (i : Nat) (h : i < sorted.length), high ≤ i → rank item < rank sorted[i]) :
    ∃ index, place before sorted.toArray item fuel low high = .ok index ∧ index ≤ sorted.length ∧
      (∀ (i : Nat) (h : i < sorted.length), i < index → rank sorted[i] ≤ rank item) ∧
      ∀ (i : Nat) (h : i < sorted.length), index ≤ i → rank item < rank sorted[i] := by
  have steps {i j : Nat} (h : i < sorted.length) (h' : j < sorted.length) (le : i ≤ j) :
      rank sorted[i] ≤ rank sorted[j] := by
    rcases Nat.lt_or_eq_of_le le with less | rfl
    · exact List.pairwise_iff_getElem.1 rising i j h h' less
    · exact le_rfl
  induction fuel generalizing low high with
  | zero => omega
  | succ fuel ih =>
    rw [place]
    by_cases room : low < high
    · have middle : low + (high - low) / 2 < sorted.length := by omega
      rw [if_pos room]
      simp only [List.getElem?_toArray, List.getElem?_eq_getElem middle, answers _ (List.getElem_mem middle)]
      -- A greater middle item bounds the place from above, any other one from below.
      by_cases less : rank item < rank sorted[low + (high - low) / 2]
      · simp only [less, decide_true, bind, Except.bind, if_true]
        apply ih _ _ (by omega) (by omega) (by omega) below
        exact fun i h from_ => less.trans_le (steps middle h from_)
      · simp only [less, decide_false, bind, Except.bind, Bool.false_eq_true, if_false]
        refine ih _ _ (by omega) (by omega) bound (fun i h upTo => ?_) above
        exact (steps h middle (by omega)).trans (not_lt.1 less)
    · obtain rfl : low = high := by omega
      rw [if_neg room]
      exact ⟨low, rfl, bound, below, above⟩

/-- An item that stood after all others is put behind those of its rank. -/
theorem exists_insert {sorted : List α} {item : α} (ranked : sorted.Pairwise (Ranked rank earlier))
    (answers : ∀ other ∈ sorted, before item other = .ok (decide (rank item < rank other)))
    (last : ∀ other ∈ sorted, earlier other item) :
    ∃ inserted, insert before sorted item = .ok inserted ∧ inserted.Pairwise (Ranked rank earlier) := by
  obtain ⟨index, found, bound, below, above⟩ := exists_place (ranked.imp Ranked.le) answers
    (sorted.length + 1) 0 sorted.length (by omega) (by omega) (Nat.le_refl _)
    (fun i _ none => by omega) (fun i _ none => by omega)
  obtain ⟨first, rest, rfl, rfl, placed⟩ := List.exists_of_modifyTailIdx (List.cons item) bound
  refine ⟨first ++ item :: rest, ?_, ?_⟩
  · rw [insert]
    simp only [List.size_toArray, found]
    exact congrArg Except.ok placed
  · rw [List.pairwise_append] at ranked ⊢
    obtain ⟨ranked, ranked', across⟩ := ranked
    have smaller : ∀ other ∈ first, rank other ≤ rank item := by
      intro other member
      obtain ⟨i, h, rfl⟩ := List.getElem_of_mem member
      have placed := below i (by rw [List.length_append]; omega) h
      rwa [List.getElem_append_left h] at placed
    have greater : ∀ other ∈ rest, rank item < rank other := by
      intro other member
      obtain ⟨i, h, rfl⟩ := List.getElem_of_mem member
      have placed := above (first.length + i) (by rw [List.length_append]; omega) (by omega)
      simpa only [List.getElem_append_right (Nat.le_add_right _ _), Nat.add_sub_cancel_left] using placed
    refine ⟨ranked, List.pairwise_cons.2 ⟨fun other member => .inl (greater other member), ranked'⟩, ?_⟩
    intro a member b member'
    rcases List.mem_cons.1 member' with rfl | member'
    · exact .of_le (smaller a member) (last a (by simp [member]))
    · exact across a member b member'

theorem exists_foldlM_insert {sorted rest : List α} (ranked : sorted.Pairwise (Ranked rank earlier))
    (answers : Answers before rank (sorted ++ rest)) (stood : rest.Pairwise earlier)
    (across : ∀ a ∈ sorted, ∀ b ∈ rest, earlier a b) :
    ∃ inserted, rest.foldlM (insert before) sorted = .ok inserted ∧ inserted.Pairwise (Ranked rank earlier) := by
  induction rest generalizing sorted with
  | nil => exact ⟨sorted, rfl, ranked⟩
  | cons item rest ih =>
    rw [List.pairwise_cons] at stood
    obtain ⟨next, inserted, ranked'⟩ := exists_insert ranked
      (fun other member => answers item (by simp) other (by simp [member]))
      (fun other member => across other member item (by simp))
    have perm := perm_of_insert inserted
    have answers' : Answers before rank (next ++ rest) := by
      apply answers.subset
      exact ((perm.append_right rest).trans List.perm_middle.symm).subset
    have across' : ∀ a ∈ next, ∀ b ∈ rest, earlier a b := by
      intro a member b member'
      rcases List.mem_cons.1 (perm.subset member) with rfl | member
      · exact stood.1 b member'
      · exact across a member b (by simp [member'])
    obtain ⟨all, run, ranked''⟩ := ih ranked' answers' stood.2 across'
    refine ⟨all, ?_, ranked''⟩
    rw [List.foldlM_cons, inserted]
    exact run

/-- The order that a beginning is in, its last item first. -/
def Running (rank : α → K) (earlier : α → α → Prop) (falling : Bool) (seen : List α) : Prop :=
  if falling then seen.Pairwise fun a b => rank a < rank b else seen.reverse.Pairwise (Ranked rank earlier)

theorem Running.ranked {falling : Bool} {seen : List α} (running : Running rank earlier falling seen) :
    (if falling then seen else seen.reverse).Pairwise (Ranked rank earlier) := by
  cases falling with
  | false => exact running
  -- No two items of a falling beginning have one rank, so turning it round moves none past its equal.
  | true => exact List.Pairwise.imp Or.inl running

/-- The last item of a beginning is the greatest or the least of it, so the next one need only be
compared with that. -/
theorem Running.next {falling : Bool} {item last : α} {seen : List α}
    (running : Running rank earlier falling (last :: seen)) (goes : decide (rank item < rank last) = falling)
    (stood : ∀ a ∈ last :: seen, earlier a item) : Running rank earlier falling (item :: last :: seen) := by
  cases falling with
  | false =>
    have running : (last :: seen).reverse.Pairwise (Ranked rank earlier) := running
    have le : rank last ≤ rank item := by simpa using goes
    have greatest : ∀ a ∈ last :: seen, rank a ≤ rank last := by
      rw [List.reverse_cons] at running
      intro a member
      rcases List.mem_cons.1 member with rfl | member
      · exact le_rfl
      · exact ((List.pairwise_append.1 running).2.2 a (by simp [member]) last (by simp)).le
    change (item :: last :: seen).reverse.Pairwise (Ranked rank earlier)
    rw [List.reverse_cons, List.pairwise_append]
    refine ⟨running, by simp, fun a member b single => ?_⟩
    rw [List.mem_singleton.1 single]
    have member := List.mem_reverse.1 member
    exact .of_le ((greatest a member).trans le) (stood a member)
  | true =>
    have running : (last :: seen).Pairwise fun a b => rank a < rank b := running
    have less : rank item < rank last := by simpa using goes
    refine List.pairwise_cons.2 ⟨fun a member => ?_, running⟩
    rcases List.mem_cons.1 member with rfl | member
    · exact less
    · exact less.trans (List.rel_of_pairwise_cons running member)

theorem exists_run {falling : Bool} {last : α} {seen rest : List α}
    (answers : Answers before rank (last :: seen ++ rest)) (stood : ((last :: seen).reverse ++ rest).Pairwise earlier)
    (running : Running rank earlier falling (last :: seen)) :
    ∃ parts, run before falling last (last :: seen) rest = .ok parts ∧ Running rank earlier falling parts.1 := by
  induction rest generalizing last seen with
  | nil => exact ⟨_, rfl, running⟩
  | cons item rest ih =>
    rw [run, answers item (by simp) last (by simp)]
    by_cases goes : decide (rank item < rank last) = falling
    · simp only [bind, Except.bind, goes, if_true]
      have stood' : ∀ a ∈ last :: seen, earlier a item := fun a member =>
        (List.pairwise_append.1 stood).2.2 a (List.mem_reverse.2 member) item (by simp)
      have moved : (item :: last :: seen ++ rest).Perm (last :: seen ++ item :: rest) := List.perm_middle.symm
      exact ih (answers.subset moved.subset) (by simpa using stood) (running.next goes stood')
    · simp only [bind, Except.bind, goes, if_false]
      exact ⟨_, rfl, running⟩

/-- Where comparing never fails and agrees with ranks, sorting is stable. -/
theorem exists_sort {items : List α} (answers : Answers before rank items) (stood : items.Pairwise earlier) :
    ∃ sorted, sort before items = .ok sorted ∧ sorted.Perm items ∧ sorted.Pairwise (Ranked rank earlier) := by
  suffices ∃ sorted, sort before items = .ok sorted ∧ sorted.Pairwise (Ranked rank earlier) by
    obtain ⟨sorted, run, ranked⟩ := this
    exact ⟨sorted, run, perm_of_sort run, ranked⟩
  match items with
  | [] => exact ⟨[], rfl, .nil⟩
  | [item] => exact ⟨[item], rfl, List.pairwise_singleton _ _⟩
  | first :: second :: rest =>
    have compared := answers second (by simp) first (by simp)
    have alone : ∀ falling, Running rank earlier falling [first] := by
      intro falling
      cases falling <;> exact List.pairwise_singleton _ _
    have two := (alone (decide (rank second < rank first))).next rfl fun a member =>
      List.mem_singleton.1 member ▸ (List.pairwise_cons.1 stood).1 second (by simp)
    obtain ⟨parts, began, running⟩ := exists_run (answers.subset ((List.Perm.swap ..).subset))
      (by simpa using stood) two
    -- What is sorted so far and the rest are what there was, the first part perhaps turned round.
    have whole : parts.1.reverse ++ parts.2 = first :: second :: rest := by simpa using append_of_run began
    have perm : (if decide (rank second < rank first) then parts.1 else parts.1.reverse).Perm parts.1.reverse := by
      split
      · exact (List.reverse_perm parts.1).symm
      · exact .refl _
    rw [← whole] at answers stood
    obtain ⟨-, stood, across⟩ := List.pairwise_append.1 stood
    obtain ⟨sorted, run, ranked⟩ := exists_foldlM_insert running.ranked
      (answers.subset (perm.append_right parts.2).subset) stood fun a member => across a (perm.subset member)
    refine ⟨sorted, ?_, ranked⟩
    rw [sort, compared]
    simp only [bind, Except.bind, began]
    exact run

end QueryCache.Insertion
