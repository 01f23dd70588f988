import QueryCache.Proofs.Value.Symmetry

/-! Values that are the same compare alike with every value.

They need not be written alike: a truth value is the same as a number, and a time as that instant at another
offset. Whatever compares values by value tells them apart no more than equality does. -/

set_option autoImplicit false

namespace QueryCache

theorem Number.extent_eq_of_atom {m n : Number} {atom : Atom} (first : m.atom? = some atom)
    (second : n.atom? = some atom) : m.extent? = n.extent? := by
  obtain ⟨x, found, rfl⟩ := Option.map_eq_some_iff.1 first
  obtain ⟨y, found', same⟩ := Option.map_eq_some_iff.1 second
  cases same
  rw [found, found']

theorem OrderTest.holdsOf_congr (test : OrderTest) (k : Number) {m n : Number} (same : m.extent? = n.extent?) :
    test.holdsOf k m = test.holdsOf k n := by
  simp only [holdsOf, same]

theorem DateTime.compare_congr {s t : DateTime} (same : s.equal t = true) (u : DateTime) :
    u.compare? s = u.compare? t := by
  obtain ⟨kind, place⟩ := (s.equal_iff t).1 same
  unfold DateTime.place at place
  unfold compare?
  -- Both have an offset or both have none, and then whatever they are compared with decides.
  cases own : s.offset <;> cases own' : t.offset <;> simp_all
  all_goals cases u.offset <;> rfl

namespace Value

/-! ## Sameness -/

/-- Sameness leads from each of some items on to a third value. -/
def Leads (xs : List Value) : Prop := ∀ x ∈ xs, ∀ y z : Value, x.same y = true → y.same z = true → x.same z = true

theorem Leads.sameAll {xs ys zs : List Value} (leads : Leads xs) (first : sameAll xs ys = true)
    (second : sameAll ys zs = true) : Value.sameAll xs zs = true := by
  rw [sameAll_iff] at first second ⊢
  induction first generalizing zs with
  | nil => exact second
  | cons head _ ih =>
    obtain ⟨here, leads⟩ := List.forall_mem_cons.1 leads
    cases second with
    | cons head' tail' => exact .cons (here _ _ head head') (ih leads tail')

theorem Leads.allEntries {xs ys zs : List (String × Value)} (leads : Leads (xs.map Prod.snd))
    (first : xs.length = ys.length ∧ allEntries xs ys = true)
    (second : ys.length = zs.length ∧ allEntries ys zs = true) :
    xs.length = zs.length ∧ Value.allEntries xs zs = true := by
  simp only [allEntries_iff] at first second ⊢
  refine ⟨first.1.trans second.1, fun entry member => ?_⟩
  obtain ⟨y, found, same⟩ := first.2 entry member
  obtain ⟨before, after, rfl, -⟩ := List.lookup_eq_some_iff.1 found
  obtain ⟨z, found', same'⟩ := second.2 (entry.1, y) (by simp)
  exact ⟨z, found', leads entry.2 (List.mem_map_of_mem member) y z same same'⟩

theorem same_through {a b c : Value} (first : a.same b = true) (second : b.same c = true) : a.same c = true := by
  induction a using byItems generalizing b c with
  -- Atoms can be hashed, and among those equality is transitive by its hash; a collection goes item by item.
  | atom a atomic =>
    have hashable : a.hashable = true := by cases a <;> first | rfl | cases atomic
    exact same_trans hashable first second
  | list xs each =>
    obtain ⟨ys, rfl, all⟩ := same_list.1 first
    obtain ⟨zs, rfl, all'⟩ := same_list.1 second
    exact same_list.2 ⟨zs, rfl, Leads.sameAll (fun x member _ _ => each x member) all all'⟩
  | tuple xs each =>
    obtain ⟨ys, rfl, all⟩ := same_tuple.1 first
    obtain ⟨zs, rfl, all'⟩ := same_tuple.1 second
    exact same_tuple.2 ⟨zs, rfl, Leads.sameAll (fun x member _ _ => each x member) all all'⟩
  | page xs p each =>
    obtain ⟨ys, rfl, all⟩ := same_page.1 first
    obtain ⟨zs, rfl, all'⟩ := same_page.1 second
    exact same_page.2 ⟨zs, rfl, Leads.sameAll (fun x member _ _ => each x member) all all'⟩
  | set xs each =>
    obtain ⟨ys, rfl, size, all⟩ := same_set.1 first
    obtain ⟨zs, rfl, size', all'⟩ := same_set.1 second
    refine same_set.2 ⟨zs, rfl, size.trans size', allMembers_iff.2 fun x member => ?_⟩
    obtain ⟨y, found, same⟩ := allMembers_iff.1 all x member
    obtain ⟨z, found', same'⟩ := allMembers_iff.1 all' y found
    exact ⟨z, found', each x member same same'⟩
  | dict xs each =>
    obtain ⟨ys, rfl, all⟩ := same_dict.1 first
    obtain ⟨zs, rfl, all'⟩ := same_dict.1 second
    have leads : Leads (xs.map Prod.snd) := List.forall_mem_map.2 fun entry member _ _ => each entry member
    exact same_dict.2 ⟨zs, rfl, leads.allEntries all all'⟩
  | object xs each =>
    obtain ⟨ys, rfl, all⟩ := same_object.1 first
    obtain ⟨zs, rfl, all'⟩ := same_object.1 second
    have leads : Leads (xs.map Prod.snd) := List.forall_mem_map.2 fun entry member _ _ => each entry member
    exact same_object.2 ⟨zs, rfl, leads.allEntries all all'⟩

theorem same_nan {serial : Nat} {w : Value} : (Value.nan serial).same w = true ↔ w = .nan serial := by
  rw [same_iff_atom rfl]
  constructor
  · rintro ⟨atom, first, second⟩
    cases first
    cases w with
    | nan other =>
      cases second
      rfl
    | _ => simp [atom?, Number.atom?] at second
  · rintro rfl
    exact ⟨_, rfl, rfl⟩

section

variable {v w : Value} (wellFormed : v.isWellFormed = true) (wellFormed' : w.isWellFormed = true)
  (same : v.same w = true)

include wellFormed wellFormed' same

theorem same_congr (actual : Value) : actual.same v = actual.same w := by
  rw [Bool.eq_iff_iff]
  exact ⟨fun found => same_through found same,
    fun found => same_through found (same_turned wellFormed wellFormed' same)⟩

theorem equal_congr (actual : Value) : actual.equal v = actual.equal w := by
  by_cases number : ∃ serial, v = .nan serial
  · obtain ⟨serial, rfl⟩ := number
    rw [same_nan.1 same]
  · have number : ∀ serial, v ≠ .nan serial := fun serial same => number ⟨serial, same⟩
    have number' : ∀ serial, w ≠ .nan serial := by
      rintro serial rfl
      exact number serial (same_nan.1 (same_turned wellFormed wellFormed' same))
    rw [equal_eq_same_of_ne_nan number, equal_eq_same_of_ne_nan number', same_congr wellFormed wellFormed' same]

end

/-! ## Order -/

theorem ordered_number {v : Value} {n : Number} (numeric : v.number? = some n) (test : OrderTest) (actual : Value) :
    actual.ordered? test v = actual.number?.map fun m => test.holdsOf m n := by
  cases v with
  | bool | int | float | nan =>
    cases numeric
    cases actual <;> rfl
  | _ => cases numeric

/-- Values with no order at all. -/
theorem ordered_none {v : Value} (unordered : v matches .null | .dict _ | .object _ | .page _ _ | .operator _ |
    .names _ | .function _ | .foreign _ _) (test : OrderTest) (actual : Value) : actual.ordered? test v = none := by
  cases v with
  | null | dict | object | page | operator | names | function | foreign =>
    cases actual <;> simp [ordered?, number?]
  | _ => cases unordered

/-- Two values that are the same have the same order to a third, where they are atoms. -/
theorem ordered_congr_atom {v w : Value} (atomic : v.isAtomic = true) (same : v.same w = true) (test : OrderTest)
    (actual : Value) : actual.ordered? test v = actual.ordered? test w := by
  obtain ⟨atom, first, second⟩ := (same_iff_atom atomic).1 same
  cases v with
  | list | tuple | set | dict | object | page => cases atomic
  | bool | int | float =>
    obtain ⟨m, numeric, found⟩ := numeric_of_atoms first second
    have place := Number.extent_eq_of_atom first found
    rw [ordered_number rfl, ordered_number numeric]
    exact congrArg (Option.map · _) (funext fun k => test.holdsOf_congr k place)
  | dateTime t =>
    cases first
    cases w with
    | dateTime t' =>
      have equal : t.equal t' = true := by simpa [Value.same] using same
      cases actual with
      | dateTime u => simp only [ordered?, DateTime.compare_congr equal u]
      | _ => rfl
    | _ => simp [atom?, Number.atom?] at second
  | foreign type serial =>
    cases first
    cases w with
    | foreign type' serial' => rw [ordered_none rfl, ordered_none rfl]
    | _ => simp [atom?, Number.atom?] at second
  | _ =>
    cases first
    cases w with
    | bool | int | float => simp [atom?, Number.atom?] at second
    | _ => cases second <;> rfl

/-- The items of a sequence keep their place in an order when they are replaced by the same. -/
theorem orderedAll_congr {ys zs : List Value} (wellFormed : areWellFormed ys = true)
    (wellFormed' : areWellFormed zs = true) (same : sameAll ys zs = true) {test : OrderTest}
    (each : ∀ y ∈ ys, ∀ z : Value, y.isWellFormed = true → z.isWellFormed = true → y.same z = true →
      ∀ x : Value, x.ordered? test y = x.ordered? test z) (xs : List Value) :
    orderedAll? test xs ys = orderedAll? test xs zs := by
  rw [areWellFormed_iff] at wellFormed wellFormed'
  rw [sameAll_iff] at same
  induction same generalizing xs with
  | nil => rfl
  | cons head _ ih =>
    obtain ⟨here, each⟩ := List.forall_mem_cons.1 each
    obtain ⟨first, wellFormed⟩ := List.forall_mem_cons.1 wellFormed
    obtain ⟨first', wellFormed'⟩ := List.forall_mem_cons.1 wellFormed'
    cases xs with
    | nil => rfl
    | cons x xs =>
      rw [orderedAll?, orderedAll?, same_congr first first' head x, here _ first first' head x,
        ih wellFormed wellFormed' each xs]

/-- Sets of the same items lie within, and around, the same sets. -/
theorem ordered_set_congr {xs ys zs : List Value} (wellFormed : (Value.set ys).isWellFormed = true)
    (size : ys.length = zs.length) (within : allMembers ys zs = true) {test : OrderTest} :
    (Value.set xs).ordered? test (.set ys) = (Value.set xs).ordered? test (.set zs) := by
  simp only [isWellFormed, Bool.and_eq_true, hashableAll_iff] at wellFormed
  obtain ⟨⟨hashable, apart⟩, -⟩ := wellFormed
  have forth := allMembers_iff.1 within
  have back := members_turned hashable apart (Nat.le_of_eq size.symm) forth
  have inside : allMembers xs ys = allMembers xs zs := by
    rw [Bool.eq_iff_iff, allMembers_iff, allMembers_iff]
    refine forall₂_congr fun x _ => ⟨?_, ?_⟩
    · rintro ⟨y, member, same⟩
      obtain ⟨z, found, same'⟩ := forth y member
      exact ⟨z, found, same_through same same'⟩
    · rintro ⟨z, member, same⟩
      obtain ⟨y, found, same'⟩ := back z member
      exact ⟨y, found, same_through same (same_symm (hashable y found) same')⟩
  have around : (ys.all fun y => xs.any fun x => x.same y) = zs.all fun z => xs.any fun x => x.same z := by
    rw [Bool.eq_iff_iff]
    simp only [List.all_eq_true, List.any_eq_true]
    constructor
    · intro each z member
      obtain ⟨y, found, same⟩ := back z member
      obtain ⟨x, found', same'⟩ := each y found
      exact ⟨x, found', same_through same' same⟩
    · intro each y member
      obtain ⟨z, found, same⟩ := forth y member
      obtain ⟨x, found', same'⟩ := each z found
      exact ⟨x, found', same_through same' (same_symm (hashable y member) same)⟩
  simp only [ordered?, inside, around]

theorem ordered_congr {v w : Value} (wellFormed : v.isWellFormed = true) (wellFormed' : w.isWellFormed = true)
    (same : v.same w = true) (test : OrderTest) (actual : Value) :
    actual.ordered? test v = actual.ordered? test w := by
  induction v using byItems generalizing w actual with
  | atom v atomic => exact ordered_congr_atom atomic same test actual
  | list ys each =>
    obtain ⟨zs, rfl, all⟩ := same_list.1 same
    cases actual with
    | list xs =>
      simp only [ordered?]
      exact orderedAll_congr wellFormed wellFormed' all (fun y member _ => each y member) xs
    | _ => rfl
  | tuple ys each =>
    obtain ⟨zs, rfl, all⟩ := same_tuple.1 same
    cases actual with
    | tuple xs =>
      simp only [ordered?]
      exact orderedAll_congr wellFormed wellFormed' all (fun y member _ => each y member) xs
    | _ => rfl
  | set ys each =>
    obtain ⟨zs, rfl, size, within⟩ := same_set.1 same
    cases actual with
    | set xs => exact ordered_set_congr wellFormed size within
    | _ => rfl
  -- What follows is never in order with anything.
  | dict ys each =>
    obtain ⟨zs, rfl, -⟩ := same_dict.1 same
    rw [ordered_none rfl, ordered_none rfl]
  | object ys each =>
    obtain ⟨zs, rfl, -⟩ := same_object.1 same
    rw [ordered_none rfl, ordered_none rfl]
  | page ys p each =>
    obtain ⟨zs, rfl, -⟩ := same_page.1 same
    rw [ordered_none rfl, ordered_none rfl]

end Value

end QueryCache
