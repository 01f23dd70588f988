import Mathlib.Logic.Equiv.Basic
import QueryCache.Order.Heap

/-! What the operations of a heap do to its items.

Moving an item changes places only. So a heap loses no item but the one that is taken, whatever the
order is, and even where it is none.

The first item is the earliest. No item comes before the one above it; while an item is moved this may
fail next to its place and nowhere else, and what is below that place does not come before what is above
it. Items that have no order among themselves may spoil a heap, so an order is asked for on those in it. -/

set_option autoImplicit false

namespace QueryCache.Heap

variable {α : Type} {before : Before α} {h h' rest : Heap α} {first item : α} {n m k place : Nat}

theorem swapIfInBounds_perm (h : Heap α) (place other : Nat) : (h.swapIfInBounds place other).Perm h := by
  rw [Array.swapIfInBounds_def]
  split
  · split
    · exact Array.swap_perm _ _
    · exact .refl h
  · exact .refl h

theorem raise_perm (before : Before α) (h : Heap α) (place : Nat) : (raise before h place).Perm h := by
  fun_induction raise before h place with
  | case1 h place _ parent item other _ _ _ ih => exact ih.trans (swapIfInBounds_perm h place parent)
  | _ => exact .refl _

theorem sink_perm (before : Before α) (h : Heap α) (place : Nat) : (sink before h place).1.Perm h := by
  fun_induction sink before h place with
  | case1 h place _ ih => exact ih.trans (swapIfInBounds_perm h place (below before h place))
  | case2 h place _ => exact .refl h

theorem mem_push : item ∈ push before h first ↔ item = first ∨ item ∈ h := by
  rw [push, (raise_perm before (Array.push h first) h.size).mem_iff, Array.mem_push, or_comm]

/-- The last item takes the place of the first. -/
theorem cons_set_dropLast_perm {last : α} {items : List α} (head : items.head? = some first)
    (final : items.getLast? = some last) : (first :: items.dropLast.set 0 last).Perm items := by
  match items with
  | [] => cases head
  | [only] =>
    cases head
    exact .refl _
  | _ :: next :: more =>
    cases head
    rw [List.getLast?_cons_cons, List.getLast?_eq_some_getLast (List.cons_ne_nil next more)] at final
    cases final
    refine ((List.perm_append_singleton _ _).symm.trans ?_).cons first
    rw [List.dropLast_concat_getLast]

theorem pop?_perm (popped : pop? before h = some (first, rest)) : (first :: rest.toList).Perm h.toList := by
  unfold pop? at popped
  split at popped
  · next head last atFront atBack =>
    cases popped
    have sunk := sink_perm before (h.pop.setIfInBounds 0 last) 0
    refine (((raise_perm before _ _).trans sunk).toList.cons first).trans ?_
    rw [Array.toList_setIfInBounds, Array.toList_pop]
    refine cons_set_dropLast_perm ?_ ?_
    · simpa [List.head?_eq_getElem?] using atFront
    · simpa using atBack
  · cases popped

/-- Each item has been taken or is left. -/
theorem popWhile_perm (before : Before α) (holds : α → Bool) (fuel : Nat) (h : Heap α) :
    ((popWhile before holds fuel h).1 ++ (popWhile before holds fuel h).2.toList).Perm h.toList := by
  induction fuel generalizing h with
  | zero => exact .refl _
  | succ fuel ih =>
    unfold popWhile
    split
    · next first rest popped =>
      split
      · exact ((ih rest).cons first).trans (pop?_perm popped)
      · exact .refl _
    · exact .refl _

theorem mem_of_popWhile (before : Before α) (holds : α → Bool) (fuel : Nat) (h : Heap α) :
    item ∈ h ↔ item ∈ (popWhile before holds fuel h).1 ∨ item ∈ (popWhile before holds fuel h).2 := by
  have kept := (popWhile_perm before holds fuel h).mem_iff (a := item)
  rw [List.mem_append, Array.mem_toList_iff, Array.mem_toList_iff] at kept
  exact kept.symm

theorem holds_of_mem_popWhile (before : Before α) (holds : α → Bool) (fuel : Nat) (h : Heap α) :
    ∀ item ∈ (popWhile before holds fuel h).1, holds item = true := by
  induction fuel generalizing h with
  | zero => nofun
  | succ fuel ih =>
    unfold popWhile
    split
    · next first rest _ =>
      split
      · next due =>
        intro item member
        rcases List.mem_cons.1 member with rfl | member
        · exact due
        · exact ih rest item member
      · nofun
    · nofun

/-! ## Order -/

/-- Two items of a heap are in order or level with each other. -/
structure Orders (before : Before α) (h : Heap α) : Prop where
  asymm : ∀ a ∈ h, ∀ b ∈ h, before a b = true → before b a = false
  trans : ∀ a ∈ h, ∀ b ∈ h, ∀ c ∈ h, before b a = false → before c b = false → before c a = false

theorem Orders.mono (orders : Orders before h) (fewer : ∀ item ∈ h', item ∈ h) : Orders before h' where
  asymm a inA b inB := orders.asymm a (fewer a inA) b (fewer b inB)
  trans a inA b inB c inC := orders.trans a (fewer a inA) b (fewer b inB) c (fewer c inC)

theorem Orders.of_perm (orders : Orders before h) (same : h'.Perm h) : Orders before h' :=
  orders.mono fun _ => same.mem_iff.1

theorem Orders.irrefl (orders : Orders before h) {a : α} (inside : a ∈ h) : before a a = false := by
  cases same : before a a with
  | false => rfl
  | true => exact same.symm.trans (orders.asymm a inside a inside same)

/-- The item at a place does not come before the one at another. -/
def Follows (before : Before α) (h : Heap α) (place other : Nat) : Prop :=
  ∀ a b, h[place]? = some a → h[other]? = some b → before a b = false

/-- No item comes before the one above it. -/
def Ordered (before : Before α) (h : Heap α) : Prop := ∀ n, 0 < n → Follows before h n ((n - 1) / 2)

theorem Follows.trans (first : Follows before h n m) (last : Follows before h m k) (orders : Orders before h)
    (inside : m < h.size) : Follows before h n k := by
  intro a c atN atK
  have atM : h[m]? = some h[m] := Array.getElem?_eq_getElem inside
  exact orders.trans c (Array.mem_of_getElem? atK) h[m] (Array.getElem_mem inside) a (Array.mem_of_getElem? atN)
    (last h[m] c atM atK) (first a h[m] atN atM)

theorem follows_self (orders : Orders before h) (n : Nat) : Follows before h n n := by
  intro a b atN atN'
  cases atN.symm.trans atN'
  exact orders.irrefl (Array.mem_of_getElem? atN)

theorem follows_of_before (orders : Orders before h) {a b : α} (atN : h[n]? = some a) (atM : h[m]? = some b)
    (earlier : before a b = true) : Follows before h m n := by
  intro b' a' atM' atN'
  cases atN.symm.trans atN'
  cases atM.symm.trans atM'
  exact orders.asymm a (Array.mem_of_getElem? atN) b (Array.mem_of_getElem? atM) earlier

theorem follows_of_absent (absent : h.size ≤ n) (m : Nat) : Follows before h n m :=
  fun _ _ atN => nomatch (Array.getElem?_eq_none absent).symm.trans atN

/-! ## The first item -/

theorem Ordered.follows_first (ordered : Ordered before h) (orders : Orders before h) (n : Nat) (inside : n < h.size) :
    Follows before h n 0 := by
  induction n using Nat.strongRecOn with
  | ind n ih =>
    rcases Nat.eq_zero_or_pos n with rfl | below
    · exact follows_self orders 0
    · exact (ordered n below).trans (ih ((n - 1) / 2) (by omega) (by omega)) orders (by omega)

theorem Ordered.not_before_first (ordered : Ordered before h) (orders : Orders before h) (head : h[0]? = some first) :
    ∀ item ∈ h, before item first = false := by
  intro item member
  obtain ⟨n, inside, own⟩ := Array.getElem_of_mem member
  exact ordered.follows_first orders n inside item first (Array.getElem?_eq_some_iff.2 ⟨inside, own⟩) head

/-! ## Items that are moved -/

theorem follows_swap (inside : n < h.size) (inside' : m < h.size) (place other : Nat) :
    Follows before (h.swapIfInBounds n m) place other ↔
      Follows before h (Equiv.swap n m place) (Equiv.swap n m other) := by
  have moved (k : Nat) : (h.swapIfInBounds n m)[k]? = h[Equiv.swap n m k]? := by
    rw [Array.swapIfInBounds_def, dif_pos inside, dif_pos inside', Array.getElem?_swap, Equiv.swap_apply_def]
    by_cases first : k = n
    · rw [first, if_pos rfl, if_pos rfl, Array.getElem?_eq_getElem inside']
      split
      · next same => simp only [same]
      · rfl
    · rw [if_neg first, if_neg (Ne.symm first)]
      by_cases second : k = m
      · rw [second, if_pos rfl, if_pos rfl, Array.getElem?_eq_getElem inside]
      · rw [if_neg second, if_neg (Ne.symm second)]
  unfold Follows
  rw [moved, moved]

/-- The item at a place may be out of order with those next to it. -/
structure Sinking (before : Before α) (h : Heap α) (place : Nat) : Prop where
  apart : ∀ n, 0 < n → n ≠ place → (n - 1) / 2 ≠ place → Follows before h n ((n - 1) / 2)
  across : ∀ n, 0 < n → (n - 1) / 2 = place → 0 < place → Follows before h n ((place - 1) / 2)

/-- The item at a place may be out of order with the one above it. -/
structure Rising (before : Before α) (h : Heap α) (place : Nat) : Prop extends Sinking before h place where
  below : ∀ n, 0 < n → (n - 1) / 2 = place → Follows before h n place

theorem Rising.swap (rising : Rising before h place) (orders : Orders before h) (inside : place < h.size)
    (positive : 0 < place) (earlier : Follows before h ((place - 1) / 2) place) :
    Rising before (h.swapIfInBounds place ((place - 1) / 2)) ((place - 1) / 2) := by
  have inside' : (place - 1) / 2 < h.size := by omega
  -- What is below the upper place, and not in the lower one, follows the item that was there.
  have beside (n : Nat) (below : 0 < n) (under : (n - 1) / 2 = (place - 1) / 2) (other : n ≠ place) :
      Follows before h n ((place - 1) / 2) := by
    have follows := rising.apart n below other (by omega)
    rwa [under] at follows
  refine ⟨⟨fun n below other apart => ?apart, fun n below under upper => ?across⟩, fun n below under => ?below⟩
  case apart =>
    have lower : n ≠ place := by
      rintro rfl
      exact apart rfl
    rw [follows_swap inside inside', Equiv.swap_apply_of_ne_of_ne lower other]
    by_cases under : (n - 1) / 2 = place
    · rw [under, Equiv.swap_apply_left]
      exact rising.across n below under positive
    · rw [Equiv.swap_apply_of_ne_of_ne under apart]
      exact rising.apart n below lower under
  case across =>
    have upwards := rising.apart ((place - 1) / 2) upper (by omega) (by omega)
    have above : Equiv.swap place ((place - 1) / 2) (((place - 1) / 2 - 1) / 2) = ((place - 1) / 2 - 1) / 2 :=
      Equiv.swap_apply_of_ne_of_ne (by omega) (by omega)
    rw [follows_swap inside inside', above]
    by_cases same : n = place
    · rw [same, Equiv.swap_apply_left]
      exact upwards
    · rw [Equiv.swap_apply_of_ne_of_ne same (by omega)]
      exact (beside n below under same).trans upwards orders inside'
  case below =>
    rw [follows_swap inside inside', Equiv.swap_apply_right]
    by_cases same : n = place
    · rw [same, Equiv.swap_apply_left]
      exact earlier
    · rw [Equiv.swap_apply_of_ne_of_ne same (by omega)]
      exact (beside n below under same).trans earlier orders inside'

theorem Rising.ordered (rising : Rising before h place)
    (settled : 0 < place → Follows before h place ((place - 1) / 2)) : Ordered before h := by
  intro n below
  by_cases same : n = place
  · subst same
    exact settled below
  · by_cases under : (n - 1) / 2 = place
    · rw [under]
      exact rising.below n below under
    · exact rising.apart n below same under

theorem ordered_raise (rising : Rising before h place) (orders : Orders before h) :
    Ordered before (raise before h place) := by
  fun_induction raise before h place with
  | case1 h place positive parent item other atParent atPlace earlier ih =>
    have inside := (Array.getElem?_eq_some_iff.1 atPlace).1
    have swapped := rising.swap orders inside positive (follows_of_before orders atPlace atParent earlier)
    exact ih swapped (orders.of_perm (swapIfInBounds_perm h place parent))
  | case2 h place positive parent item other atParent atPlace settled =>
    refine rising.ordered fun _ a b atPlace' atParent' => ?_
    cases atPlace.symm.trans atPlace'
    cases atParent.symm.trans atParent'
    simpa using settled
  | case3 h place positive parent missing =>
    exact rising.ordered fun _ a b atPlace atParent => (missing a b atPlace atParent).elim
  | case4 h place first => exact rising.ordered fun positive => absurd positive first

theorem below_cases (before : Before α) (h : Heap α) (inside : 2 * place + 1 < h.size) :
    below before h place < h.size ∧ (below before h place - 1) / 2 = place := by
  unfold below
  split
  · next first second atFirst atSecond =>
    have inside' := (Array.getElem?_eq_some_iff.1 atSecond).1
    split <;> omega
  · omega

/-- Of the two items below a place neither comes before the one that is picked. -/
theorem follows_below (orders : Orders before h) (positive : 0 < n) (under : (n - 1) / 2 = place) :
    Follows before h n (below before h place) := by
  have sides : n = 2 * place + 1 ∨ n = 2 * place + 2 := by omega
  unfold below
  split
  · next first second atFirst atSecond =>
    split
    · next earlier =>
      rcases sides with rfl | rfl
      · exact follows_self orders _
      · exact follows_of_before orders atFirst atSecond earlier
    · next later =>
      rcases sides with rfl | rfl
      · intro a b atPlace atOther
        cases atFirst.symm.trans atPlace
        cases atSecond.symm.trans atOther
        simpa using later
      · exact follows_self orders _
  · next missing =>
    rcases sides with rfl | rfl
    · exact follows_self orders _
    · exact fun a b atPlace atOther => (missing b a atOther atPlace).elim

theorem Sinking.swap (sinking : Sinking before h place) (orders : Orders before h) (inside : 2 * place + 1 < h.size) :
    Sinking before (h.swapIfInBounds place (below before h place)) (below before h place) := by
  have lower := lt_below before h place
  have picked (n : Nat) (positive : 0 < n) (under : (n - 1) / 2 = place) := follows_below orders positive under
  obtain ⟨inside', above⟩ := below_cases before h inside
  generalize below before h place = next at *
  refine ⟨fun n below other apart => ?apart, fun n below under _ => ?across⟩
  case apart =>
    rw [follows_swap (by omega) inside']
    by_cases same : n = place
    · subst same
      rw [Equiv.swap_apply_left, Equiv.swap_apply_of_ne_of_ne (by omega) apart]
      exact sinking.across next (by omega) above below
    · rw [Equiv.swap_apply_of_ne_of_ne same other]
      by_cases under : (n - 1) / 2 = place
      · rw [under, Equiv.swap_apply_left]
        exact picked n below under
      · rw [Equiv.swap_apply_of_ne_of_ne under apart]
        exact sinking.apart n below same under
  case across =>
    have follows := sinking.apart n below (by omega) (by omega)
    rw [follows_swap (by omega) inside', above, Equiv.swap_apply_left,
      Equiv.swap_apply_of_ne_of_ne (by omega) (by omega)]
    rwa [under] at follows

/-- An item that has sunk to an end of the heap may rise from there. -/
theorem rising_sink (sinking : Sinking before h place) (orders : Orders before h) :
    Rising before (sink before h place).1 (sink before h place).2 := by
  fun_induction sink before h place with
  | case1 h place inside ih =>
    exact ih (sinking.swap orders inside) (orders.of_perm (swapIfInBounds_perm h place _))
  | case2 h place last =>
    refine ⟨sinking, fun n below under => follows_of_absent ?_ place⟩
    dsimp only
    omega

/-! ## Operations -/

theorem Ordered.push (ordered : Ordered before h) (orders : Orders before (push before h item)) :
    Ordered before (push before h item) := by
  refine ordered_raise ⟨⟨fun n below other _ => ?_, fun n below under _ => ?_⟩, fun n below under => ?_⟩
    (orders.of_perm (raise_perm before (Array.push h item) h.size).symm)
  · intro a b atPlace atParent
    rw [Array.getElem?_push, if_neg other] at atPlace
    have inside := (Array.getElem?_eq_some_iff.1 atPlace).1
    rw [Array.getElem?_push, if_neg (by omega)] at atParent
    exact ordered n below a b atPlace atParent
  -- Nothing is below the last place.
  · refine follows_of_absent ?_ _
    rw [Array.size_push]
    omega
  · refine follows_of_absent ?_ _
    rw [Array.size_push]
    omega

theorem pop?_head (popped : pop? before h = some (first, rest)) : h[0]? = some first := by
  unfold pop? at popped
  split at popped
  · next head last atFront _ =>
    cases popped
    exact atFront
  · cases popped

theorem size_of_pop? (popped : pop? before h = some (first, rest)) : rest.size + 1 = h.size := by
  simpa using (pop?_perm popped).length_eq

theorem mem_of_pop? (popped : pop? before h = some (first, rest)) : item ∈ h ↔ item = first ∨ item ∈ rest := by
  have kept := (pop?_perm popped).mem_iff (a := item)
  rwa [List.mem_cons, Array.mem_toList_iff, Array.mem_toList_iff, Iff.comm] at kept

theorem Orders.pop? (orders : Orders before h) (popped : pop? before h = some (first, rest)) : Orders before rest :=
  orders.mono fun _ member => (mem_of_pop? popped).2 (.inr member)

theorem Ordered.pop? (ordered : Ordered before h) (orders : Orders before h)
    (popped : pop? before h = some (first, rest)) : Ordered before rest := by
  have left := orders.pop? popped
  unfold Heap.pop? at popped
  split at popped
  · next head last atFront atBack =>
    cases popped
    have raised := left.of_perm (raise_perm before _ _).symm
    refine ordered_raise (rising_sink ⟨fun n below other upper => ?_, fun _ _ _ positive => absurd positive (Nat.lt_irrefl 0)⟩ ?_) raised
    · intro a b atPlace atParent
      rw [Array.getElem?_setIfInBounds_ne (Ne.symm other), Array.getElem?_pop] at atPlace
      rw [Array.getElem?_setIfInBounds_ne (Ne.symm upper), Array.getElem?_pop] at atParent
      split at atPlace
      · split at atParent
        · exact ordered n below a b atPlace atParent
        · cases atParent
      · cases atPlace
    · exact raised.of_perm (sink_perm before _ 0).symm
  · cases popped

theorem eq_empty_of_pop? (nothing : pop? before h = none) : h = #[] := by
  by_contra some_
  have filled : 0 < h.size := Array.size_pos_iff.2 some_
  unfold Heap.pop? at nothing
  split at nothing
  · cases nothing
  · next missing =>
    have final : h.size - 1 < h.size := by omega
    refine missing h[0] h[h.size - 1] (Array.getElem?_eq_getElem filled) ?_
    rw [Array.back?_eq_getElem?, Array.getElem?_eq_getElem final]

variable {holds : α → Bool} {fuel : Nat}

theorem Ordered.popWhile (ordered : Ordered before h) (orders : Orders before h) (holds : α → Bool) (fuel : Nat) :
    Ordered before (popWhile before holds fuel h).2 := by
  induction fuel generalizing h with
  | zero => exact ordered
  | succ fuel ih =>
    unfold Heap.popWhile
    split
    · next first rest popped =>
      split
      · exact ih (ordered.pop? orders popped) (orders.pop? popped)
      · exact ordered
    · exact ordered

/-- What holds of an item and of all that are no later holds of none that is left. -/
theorem Ordered.not_holds_popWhile (ordered : Ordered before h) (orders : Orders before h)
    (earlier : ∀ a ∈ h, ∀ b ∈ h, before b a = false → holds b = true → holds a = true) (enough : h.size ≤ fuel) :
    ∀ item ∈ (Heap.popWhile before holds fuel h).2, holds item = false := by
  induction fuel generalizing h with
  | zero =>
    intro item member
    rw [Array.size_eq_zero_iff.1 (Nat.le_zero.1 enough)] at member
    cases Array.not_mem_empty item member
  | succ fuel ih =>
    unfold Heap.popWhile
    split
    · next first rest popped =>
      have size := size_of_pop? popped
      split
      · refine ih (ordered.pop? orders popped) (orders.pop? popped) (fun a inA b inB => ?_) (by omega)
        exact earlier a ((mem_of_pop? popped).2 (.inr inA)) b ((mem_of_pop? popped).2 (.inr inB))
      · next stops =>
        intro item member
        have last := ordered.not_before_first orders (pop?_head popped) item member
        by_contra goes
        exact stops (earlier first ((mem_of_pop? popped).2 (.inl rfl)) item member last (by simpa using goes))
    · next nothing =>
      intro item member
      rw [eq_empty_of_pop? nothing] at member
      cases Array.not_mem_empty item member

end QueryCache.Heap
