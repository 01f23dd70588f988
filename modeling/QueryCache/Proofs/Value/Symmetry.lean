import QueryCache.Proofs.Distinct
import QueryCache.Proofs.Value.Same
import QueryCache.Value.Compare
import Mathlib.Data.List.Perm.Subperm

/-! Comparing values in either direction.

Two values are the same, or in some order, however they are turned around, as long as they are well
formed: no key stands twice in a mapping, and no item of a set is the same as another. -/

set_option autoImplicit false

namespace QueryCache

namespace Value

/-! ## Well-formed values -/

/-- Whether no two items are the same. -/
def areApart : List Value → Bool
  | [] => true
  | x :: rest => rest.all (fun y => !x.same y) && areApart rest

mutual

/-- Whether a value is one that there can be: its days exist, its keys are distinct, and the items of
its sets are distinct and can be keys. -/
def isWellFormed : Value → Bool
  | .date d => d.isValid
  | .dateTime t => t.isValid
  | .list items | .tuple items | .page items _ => areWellFormed items
  | .set items => hashableAll items && areApart items && areWellFormed items
  | .dict entries | .object entries => (entries.map Prod.fst).Nodup && wellFormedEntries entries
  | _ => true

def areWellFormed : List Value → Bool
  | [] => true
  | item :: rest => item.isWellFormed && areWellFormed rest

def wellFormedEntries : List (String × Value) → Bool
  | [] => true
  | (_, value) :: rest => value.isWellFormed && wellFormedEntries rest

end

theorem areWellFormed_iff {items : List Value} :
    areWellFormed items = true ↔ ∀ item ∈ items, item.isWellFormed = true := by
  induction items with
  | nil => simp [areWellFormed]
  | cons item rest ih => rw [areWellFormed, Bool.and_eq_true, ih, List.forall_mem_cons]

theorem wellFormedEntries_iff {entries : List (String × Value)} :
    wellFormedEntries entries = true ↔ ∀ entry ∈ entries, entry.2.isWellFormed = true := by
  induction entries with
  | nil => simp [wellFormedEntries]
  | cons entry rest ih => rw [wellFormedEntries, Bool.and_eq_true, ih, List.forall_mem_cons]

theorem hashableAll_iff {items : List Value} : hashableAll items = true ↔ ∀ item ∈ items, item.hashable = true := by
  induction items with
  | nil => simp [hashableAll]
  | cons item rest ih => rw [hashableAll, Bool.and_eq_true, ih, List.forall_mem_cons]

/-! ## Values by their items -/

-- A value holds lists of values, so induction on it alone says nothing of those lists.
section

variable {motive : Value → Prop} (atom : ∀ a, a.isAtomic = true → motive a)
  (list : ∀ items, (∀ item ∈ items, motive item) → motive (.list items))
  (tuple : ∀ items, (∀ item ∈ items, motive item) → motive (.tuple items))
  (set : ∀ items, (∀ item ∈ items, motive item) → motive (.set items))
  (dict : ∀ entries, (∀ entry ∈ entries, motive entry.2) → motive (.dict entries))
  (object : ∀ entries, (∀ entry ∈ entries, motive entry.2) → motive (.object entries))
  (page : ∀ items p, (∀ item ∈ items, motive item) → motive (.page items p))

include atom list tuple set dict object page

@[elab_as_elim]
theorem byItems (a : Value) : motive a :=
  a.rec (atom _ rfl) (fun _ => atom _ rfl) (fun _ => atom _ rfl) (fun _ => atom _ rfl) (fun _ => atom _ rfl)
    (fun _ => atom _ rfl) (fun _ => atom _ rfl) (fun _ => atom _ rfl) (fun _ => atom _ rfl)
    (fun items each => list items each) (fun items each => tuple items each) (fun items each => set items each)
    (fun entries each => dict entries each) (fun entries each => object entries each)
    (fun items p each => page items p each) (fun _ => atom _ rfl)
    (fun _ => atom _ rfl) (fun _ => atom _ rfl) (fun _ _ => atom _ rfl)
    (fun _ member => absurd member List.not_mem_nil) (fun _ _ first others => List.forall_mem_cons.2 ⟨first, others⟩)
    (fun _ member => absurd member List.not_mem_nil) (fun _ _ first others => List.forall_mem_cons.2 ⟨first, others⟩)
    fun _ _ holds => holds

end

/-! ## Sameness -/

theorem same_list {xs : List Value} {b : Value} :
    (Value.list xs).same b = true ↔ ∃ ys, b = .list ys ∧ sameAll xs ys = true := by
  cases b <;> simp [same, number?]

theorem same_page {xs : List Value} {p : Pagination} {b : Value} :
    (Value.page xs p).same b = true ↔ ∃ ys, b = .page ys p ∧ sameAll xs ys = true := by
  cases b with
  | page ys q => simpa [same, eq_comm (a := q)] using and_comm
  | _ => simp [same, number?]

theorem same_set {xs : List Value} {b : Value} :
    (Value.set xs).same b = true ↔ ∃ ys, b = .set ys ∧ xs.length = ys.length ∧ allMembers xs ys = true := by
  cases b <;> simp [same, number?]

theorem same_dict {xs : List (String × Value)} {b : Value} :
    (Value.dict xs).same b = true ↔ ∃ ys, b = .dict ys ∧ xs.length = ys.length ∧ allEntries xs ys = true := by
  cases b <;> simp [same, number?]

theorem same_object {xs : List (String × Value)} {b : Value} :
    (Value.object xs).same b = true ↔ ∃ ys, b = .object ys ∧ xs.length = ys.length ∧ allEntries xs ys = true := by
  cases b <;> simp [same, number?]

theorem sameAll_iff {xs ys : List Value} : sameAll xs ys = true ↔ List.Forall₂ (fun x y => x.same y = true) xs ys := by
  induction xs generalizing ys with
  | nil => cases ys <;> simp [sameAll]
  | cons x xs ih =>
    cases ys with
    | nil => simp [sameAll]
    | cons y ys => rw [sameAll, Bool.and_eq_true, ih, List.forall₂_cons]

theorem allMembers_iff {xs ys : List Value} : allMembers xs ys = true ↔ ∀ x ∈ xs, ∃ y ∈ ys, x.same y = true := by
  induction xs with
  | nil => simp [allMembers]
  | cons x xs ih => rw [allMembers, Bool.and_eq_true, ih, List.forall_mem_cons, List.any_eq_true]

theorem allEntries_iff {xs ys : List (String × Value)} :
    allEntries xs ys = true ↔ ∀ entry ∈ xs, ∃ y, ys.lookup entry.1 = some y ∧ entry.2.same y = true := by
  induction xs with
  | nil => simp [allEntries]
  | cons entry xs ih =>
    rw [allEntries, Bool.and_eq_true, ih, List.forall_mem_cons]
    cases ys.lookup entry.1 <;> simp

/-- Items that can be keys are the same turned around. -/
theorem same_comm_of_hashable {a b : Value} (hashable : a.hashable = true) (hashable' : b.hashable = true) :
    a.same b = b.same a :=
  Bool.eq_iff_iff.2 ⟨same_symm hashable, same_symm hashable'⟩

/-- As many distinct items as there are, each found: there are no others. -/
theorem members_turned {xs ys : List Value} (hashable : ∀ x ∈ xs, x.hashable = true) (apart : areApart xs = true)
    (few : ys.length ≤ xs.length) (within : ∀ x ∈ xs, ∃ y ∈ ys, x.same y = true) :
    ∀ y ∈ ys, ∃ x ∈ xs, x.same y = true := by
  induction xs generalizing ys with
  | nil => simp [List.length_eq_zero_iff.1 (Nat.le_zero.1 few)]
  | cons x xs ih =>
    rw [areApart, Bool.and_eq_true] at apart
    obtain ⟨⟨y, member, same⟩, others⟩ := List.forall_mem_cons.1 within
    obtain ⟨hashable, hashables⟩ := List.forall_mem_cons.1 hashable
    obtain ⟨before, after, rfl⟩ := List.append_of_mem member
    -- No other item is the same as `y`, or it would be the same as `x`.
    have rest : ∀ x' ∈ xs, ∃ y' ∈ before ++ after, x'.same y' = true := by
      intro x' member'
      obtain ⟨y', found, same'⟩ := others x' member'
      refine ⟨y', ?_, same'⟩
      rcases List.mem_append.1 found with left | right
      · exact List.mem_append_left _ left
      · rcases List.mem_cons.1 right with rfl | right
        · have same'' : x.same x' = true := same_trans hashable same (same_symm (hashables x' member') same')
          have other := List.all_eq_true.1 apart.1 x' member'
          simp [same''] at other
        · exact List.mem_append_right _ right
    have found := ih hashables apart.2 (by simp at few ⊢; omega) rest
    intro z inside
    rcases List.mem_append.1 inside with left | right
    · obtain ⟨x', member', same'⟩ := found z (List.mem_append_left _ left)
      exact ⟨x', List.mem_cons_of_mem _ member', same'⟩
    · rcases List.mem_cons.1 right with rfl | right
      · exact ⟨x, List.mem_cons_self, same⟩
      · obtain ⟨x', member', same'⟩ := found z (List.mem_append_right _ right)
        exact ⟨x', List.mem_cons_of_mem _ member', same'⟩

/-- As many keys as there are, each found: there are no others, and so no other entries. -/
theorem entries_turned {xs ys : List (String × Value)} (unique : (xs.map Prod.fst).Nodup)
    (unique' : (ys.map Prod.fst).Nodup)
    (same : xs.length = ys.length) (within : allEntries xs ys = true)
    (turned : ∀ entry ∈ xs, ∀ other ∈ ys, entry.2.same other.2 = true → other.2.same entry.2 = true) :
    allEntries ys xs = true := by
  rw [allEntries_iff] at within ⊢
  have keys : xs.map Prod.fst ⊆ ys.map Prod.fst := by
    intro key found
    obtain ⟨entry, member, rfl⟩ := List.mem_map.1 found
    obtain ⟨y, held, -⟩ := within entry member
    obtain ⟨before, after, rfl, -⟩ := List.lookup_eq_some_iff.1 held
    simp
  have perm := (List.subperm_of_subset unique keys).perm_of_length_le (by simp [same])
  intro other member
  obtain ⟨entry, found, key⟩ := List.mem_map.1 (perm.mem_iff.2 (List.mem_map_of_mem member))
  obtain ⟨y, held, equal⟩ := within entry found
  rw [key, lookup_of_mem unique' member] at held
  cases held
  exact ⟨entry.2, key ▸ lookup_of_mem unique found, turned entry found other member equal⟩

section

variable {xs ys : List Value} {entries entries' : List (String × Value)}

/-- The items of a value can be turned around. -/
def Turnable (xs : List Value) : Prop :=
  ∀ x ∈ xs, ∀ y : Value, x.isWellFormed = true → y.isWellFormed = true → x.same y = true → y.same x = true

theorem Turnable.sameAll (turnable : Turnable xs) (wellFormed : areWellFormed xs = true)
    (wellFormed' : areWellFormed ys = true) (same : sameAll xs ys = true) : Value.sameAll ys xs = true := by
  rw [sameAll_iff] at same ⊢
  rw [areWellFormed_iff] at wellFormed wellFormed'
  induction same with
  | nil => exact .nil
  | cons first _ ih =>
    obtain ⟨turn, turnable⟩ := List.forall_mem_cons.1 turnable
    obtain ⟨head, wellFormed⟩ := List.forall_mem_cons.1 wellFormed
    obtain ⟨head', wellFormed'⟩ := List.forall_mem_cons.1 wellFormed'
    exact .cons (turn _ head head' first) (ih turnable wellFormed wellFormed')

theorem Turnable.allEntries (turnable : Turnable (entries.map Prod.snd))
    (wellFormed : ((entries.map Prod.fst).Nodup && wellFormedEntries entries) = true)
    (wellFormed' : ((entries'.map Prod.fst).Nodup && wellFormedEntries entries') = true)
    (same : entries.length = entries'.length ∧ allEntries entries entries' = true) :
    entries'.length = entries.length ∧ Value.allEntries entries' entries = true := by
  simp only [Bool.and_eq_true, decide_eq_true_eq, wellFormedEntries_iff] at wellFormed wellFormed'
  refine ⟨same.1.symm, entries_turned wellFormed.1 wellFormed'.1 same.1 same.2 ?_⟩
  intro entry member other member' equal
  exact turnable entry.2 (List.mem_map_of_mem member) other.2 (wellFormed.2 entry member)
    (wellFormed'.2 other member') equal

end

theorem same_turned {a b : Value} (wellFormed : a.isWellFormed = true) (wellFormed' : b.isWellFormed = true)
    (same : a.same b = true) : b.same a = true := by
  -- Sequences and mappings turn item by item; a set turns since as many members cannot all lie within fewer.
  induction a using byItems generalizing b with
  | atom a atomic =>
    have hashable : a.hashable = true := by cases a <;> first | rfl | cases atomic
    exact same_symm hashable same
  | list xs each =>
    obtain ⟨ys, rfl, all⟩ := same_list.1 same
    have turnable : Turnable xs := fun x member y first second => each x member first second
    exact same_list.2 ⟨xs, rfl, turnable.sameAll wellFormed wellFormed' all⟩
  | tuple xs each =>
    obtain ⟨ys, rfl, all⟩ := same_tuple.1 same
    have turnable : Turnable xs := fun x member y first second => each x member first second
    exact same_tuple.2 ⟨xs, rfl, turnable.sameAll wellFormed wellFormed' all⟩
  | page xs p each =>
    obtain ⟨ys, rfl, all⟩ := same_page.1 same
    have turnable : Turnable xs := fun x member y first second => each x member first second
    exact same_page.2 ⟨xs, rfl, turnable.sameAll wellFormed wellFormed' all⟩
  | set xs each =>
    obtain ⟨ys, rfl, sizes, within⟩ := same_set.1 same
    simp only [isWellFormed, Bool.and_eq_true, hashableAll_iff] at wellFormed
    refine same_set.2 ⟨xs, rfl, sizes.symm, allMembers_iff.2 fun y member => ?_⟩
    obtain ⟨x, found, equal⟩ :=
      members_turned wellFormed.1.1 wellFormed.1.2 (Nat.le_of_eq sizes.symm) (allMembers_iff.1 within) y member
    exact ⟨x, found, same_symm (wellFormed.1.1 x found) equal⟩
  | dict xs each =>
    obtain ⟨ys, rfl, all⟩ := same_dict.1 same
    have turnable : Turnable (xs.map Prod.snd) := by
      rintro x member y first second
      obtain ⟨entry, found, rfl⟩ := List.mem_map.1 member
      exact each entry found first second
    exact same_dict.2 ⟨xs, rfl, turnable.allEntries wellFormed wellFormed' all⟩
  | object xs each =>
    obtain ⟨ys, rfl, all⟩ := same_object.1 same
    have turnable : Turnable (xs.map Prod.snd) := by
      rintro x member y first second
      obtain ⟨entry, found, rfl⟩ := List.mem_map.1 member
      exact each entry found first second
    exact same_object.2 ⟨xs, rfl, turnable.allEntries wellFormed wellFormed' all⟩

/-- It does not matter on which side a value stands. -/
theorem same_comm {a b : Value} (wellFormed : a.isWellFormed = true) (wellFormed' : b.isWellFormed = true) :
    a.same b = b.same a :=
  Bool.eq_iff_iff.2 ⟨same_turned wellFormed wellFormed', same_turned wellFormed' wellFormed⟩

/-! ## Order -/

end Value

/-- The test that the two sides meet when they change places. -/
def OrderTest.turned : OrderTest → OrderTest
  | .lt => .gt
  | .lte => .gte
  | .gt => .lt
  | .gte => .lte

theorem OrderTest.holds_swap (test : OrderTest) (o : Ordering) : test.turned.holds o.swap = test.holds o := by
  cases test <;> cases o <;> rfl

theorem OrderTest.holdsOf_turned (test : OrderTest) (m n : Number) : test.turned.holdsOf n m = test.holdsOf m n := by
  unfold holdsOf
  cases m.extent? <;> cases n.extent? <;> first | rfl | (cases test <;> rfl)

theorem compareBytes_swap (a b : List UInt8) : (compareBytes a b).swap = compareBytes b a := by
  induction a generalizing b with
  | nil => cases b <;> rfl
  | cons x a ih =>
    cases b with
    | nil => rfl
    | cons y b =>
      rw [compareBytes, compareBytes, Ordering.swap_then, ih, ← Std.OrientedOrd.eq_swap]

theorem DateTime.compare_swap (s t : DateTime) : (s.compare? t).map Ordering.swap = t.compare? s := by
  unfold compare?
  cases s.offset <;> cases t.offset <;> first | rfl | exact congrArg some Std.OrientedOrd.eq_swap.symm

namespace Value

variable {test : OrderTest}

/-- The items of a value can be ordered from either side. -/
def Orderable (test : OrderTest) (xs : List Value) : Prop :=
  ∀ x ∈ xs, ∀ y : Value, x.isWellFormed = true → y.isWellFormed = true → y.ordered? test.turned x = x.ordered? test y

theorem Orderable.orderedAll {xs ys : List Value} (orderable : Orderable test xs) (wellFormed : areWellFormed xs = true)
    (wellFormed' : areWellFormed ys = true) : orderedAll? test.turned ys xs = orderedAll? test xs ys := by
  induction xs generalizing ys with
  | nil =>
    cases ys with
    | nil => exact congrArg some (test.holds_swap .eq)
    | cons y ys => exact congrArg some (test.holds_swap .lt)
  | cons x xs ih =>
    cases ys with
    | nil => exact congrArg some (test.holds_swap .gt)
    | cons y ys =>
      rw [areWellFormed, Bool.and_eq_true] at wellFormed wellFormed'
      obtain ⟨turn, orderable⟩ := List.forall_mem_cons.1 orderable
      rw [orderedAll?, orderedAll?, same_comm wellFormed'.1 wellFormed.1, turn y wellFormed.1 wellFormed'.1,
        ih orderable wellFormed.2 wellFormed'.2]

theorem allMembers_eq {xs ys : List Value} (hashable : ∀ x ∈ xs, x.hashable = true)
    (hashable' : ∀ y ∈ ys, y.hashable = true) : allMembers xs ys = xs.all fun x => ys.any fun y => y.same x := by
  rw [Bool.eq_iff_iff, allMembers_iff]
  simp only [List.all_eq_true, List.any_eq_true]
  refine forall₂_congr fun x member => exists_congr fun y => and_congr_right fun member' => ?_
  rw [same_comm_of_hashable (hashable x member) (hashable' y member')]

/-- One set lies within another exactly if the other lies around it. -/
theorem ordered_set_turned {xs ys : List Value} (hashable : ∀ x ∈ xs, x.hashable = true)
    (hashable' : ∀ y ∈ ys, y.hashable = true) (test : OrderTest) :
    (Value.set ys).ordered? test.turned (.set xs) = (Value.set xs).ordered? test (.set ys) := by
  simp only [ordered?]
  rw [← allMembers_eq hashable hashable', ← allMembers_eq hashable' hashable]
  cases test <;> rfl

/-- Two values are in an order exactly if, with their sides changed, they are in the opposite one. -/
theorem ordered_turned {a b : Value} (wellFormed : a.isWellFormed = true) (wellFormed' : b.isWellFormed = true)
    (test : OrderTest) : b.ordered? test.turned a = a.ordered? test b := by
  induction a using byItems generalizing b with
  | atom a atomic =>
    cases a with
    | list | tuple | set | dict | object | page => cases atomic
    | str s =>
      cases b with
      | str t => rw [ordered?, ordered?, ← test.holds_swap, ← Std.OrientedOrd.eq_swap]
      | _ => simp [ordered?, number?]
    | bytes s =>
      cases b with
      | bytes t => rw [ordered?, ordered?, ← test.holds_swap, compareBytes_swap]
      | _ => simp [ordered?, number?]
    | date s =>
      cases b with
      | date t => rw [ordered?, ordered?, ← test.holds_swap, ← Std.OrientedOrd.eq_swap]
      | _ => simp [ordered?, number?]
    | dateTime s =>
      cases b with
      | dateTime t =>
        rw [ordered?, ordered?, ← s.compare_swap t, Option.map_map]
        exact congrArg (Option.map · _) (funext fun o => test.holds_swap o)
      | _ => simp [ordered?, number?]
    | bool | int | float | nan => cases b <;> simp [ordered?, number?, test.holdsOf_turned]
    | _ => cases b <;> simp [ordered?, number?]
  | list xs each =>
    cases b with
    | list ys =>
      have orderable : Orderable test xs := fun x member y first second => each x member first second
      simp only [ordered?]
      exact orderable.orderedAll wellFormed wellFormed'
    | _ => simp [ordered?, number?]
  | tuple xs each =>
    cases b with
    | tuple ys =>
      have orderable : Orderable test xs := fun x member y first second => each x member first second
      simp only [ordered?]
      exact orderable.orderedAll wellFormed wellFormed'
    | _ => simp [ordered?, number?]
  | set xs each =>
    cases b with
    | set ys =>
      simp only [isWellFormed, Bool.and_eq_true, hashableAll_iff] at wellFormed wellFormed'
      exact ordered_set_turned wellFormed.1.1 wellFormed'.1.1 test
    | _ => simp [ordered?, number?]
  | dict | object | page => cases b <;> simp [ordered?, number?]

end Value

end QueryCache
