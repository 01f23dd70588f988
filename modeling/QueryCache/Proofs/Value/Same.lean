import QueryCache.Value.Compare
import Mathlib.Logic.Basic

/-! Sameness of values that can identify something.

Apart from tuples such values are the same exactly if they have one atom in common: numbers and
truth values their place on the exact scale, times their instant. A float that is no number has
none, so it is not even the same as itself. -/

set_option autoImplicit false

namespace QueryCache

/-- What a value without parts is compared by. -/
inductive Atom where
  | null
  | number (place : Extent)
  | nan (serial : Nat)
  | str (s : String)
  | bytes (b : List UInt8)
  | date (d : Date)
  | time (aware : Bool) (micros : Int)
  | operator (op : Operator)
  | params (given : ParamNames)
  | function (path : String)
  | foreign (serial : Nat)

def Number.atom? (n : Number) : Option Atom := n.extent?.map .number

theorem Number.equal_iff_atom (m n : Number) :
    m.equal n = true ↔ ∃ atom, m.atom? = some atom ∧ n.atom? = some atom := by
  unfold equal atom?
  generalize m.extent? = x
  generalize n.extent? = y
  cases x with
  | none => exact ⟨nofun, nofun⟩
  | some x =>
    cases y with
    | none => exact ⟨nofun, nofun⟩
    | some y =>
      constructor
      · intro same
        exact ⟨.number x, rfl, by rw [beq_iff_eq.1 same]; rfl⟩
      · rintro ⟨atom, first, second⟩
        cases first
        cases second
        exact beq_self_eq_true x

theorem Number.nan_equal (n : Number) : (Number.binary .nan).equal n = false := rfl

/-- The microseconds that times of one kind are compared by. -/
def DateTime.place (t : DateTime) : Int :=
  if t.offset.isSome then t.instant else t.localMicros

theorem DateTime.equal_iff (s t : DateTime) :
    s.equal t = true ↔ s.offset.isSome = t.offset.isSome ∧ s.place = t.place := by
  unfold equal place
  cases s.offset with
  | none =>
    cases t.offset with
    | none => exact beq_iff_eq.trans ⟨fun same => ⟨rfl, same⟩, fun same => same.2⟩
    | some _ => exact ⟨nofun, fun same => nomatch same.1⟩
  | some _ =>
    cases t.offset with
    | none => exact ⟨nofun, fun same => nomatch same.1⟩
    | some _ => exact beq_iff_eq.trans ⟨fun same => ⟨rfl, same⟩, fun same => same.2⟩

namespace Value

def atom? : Value → Option Atom
  | .null => some .null
  | .bool b => (Number.whole (if b then 1 else 0)).atom?
  | .int n => (Number.whole n).atom?
  | .float x => (Number.binary x).atom?
  | .nan serial => some (.nan serial)
  | .str s => some (.str s)
  | .bytes b => some (.bytes b)
  | .date d => some (.date d)
  | .dateTime t => some (.time t.offset.isSome t.place)
  | .operator op => some (.operator op)
  | .names given => some (.params given)
  | .function path => some (.function path)
  | .foreign _ serial => some (.foreign serial)
  | .list _ | .tuple _ | .set _ | .dict _ | .object _ | .page _ _ => none

/-- Whether a value has no parts. -/
def isAtomic : Value → Bool
  | .list _ | .tuple _ | .set _ | .dict _ | .object _ | .page _ _ => false
  | _ => true

/-- What is no number has no atom of one. -/
theorem atom_of_number {a : Value} {place : Extent} (found : a.atom? = some (.number place)) :
    ∃ n, a.number? = some n ∧ n.atom? = some (.number place) := by
  cases a with
  | bool | int | float => exact ⟨_, rfl, found⟩
  | _ => cases found

theorem same_of_numbers {a b : Value} {m n : Number} (numeric : a.number? = some m)
    (numeric' : b.number? = some n) (number : ∀ serial, a ≠ .nan serial) : a.same b = m.equal n := by
  cases a with
  | bool | int | float =>
    cases numeric
    cases b with
    | bool | int | float | nan => cases numeric'; simp [same, number?]
    | _ => cases numeric'
  | nan serial => exact absurd rfl (number serial)
  | _ => cases numeric

/-- A number's atom is one of numbers only. -/
theorem numeric_of_atoms {n : Number} {b : Value} {atom : Atom} (first : n.atom? = some atom)
    (second : b.atom? = some atom) : ∃ m, b.number? = some m ∧ m.atom? = some atom := by
  obtain ⟨place, -, rfl⟩ := Option.map_eq_some_iff.1 first
  exact atom_of_number second

theorem same_iff_atom {a b : Value} (atomic : a.isAtomic = true) :
    a.same b = true ↔ ∃ atom, a.atom? = some atom ∧ b.atom? = some atom := by
  -- Numbers of all kinds are compared with each other, and with what is no number they have no atom
  -- in common.
  cases a with
  | list | tuple | set | dict | object | page => cases atomic
  | bool | int | float =>
    cases b with
    | bool | int | float =>
      rw [same_of_numbers rfl rfl (by simp)]
      exact Number.equal_iff_atom _ _
    | nan serial =>
      rw [same_of_numbers rfl rfl (by simp), Number.equal_iff_atom]
      constructor
      · rintro ⟨atom, -, none⟩
        cases none
      · rintro ⟨atom, first, second⟩
        obtain ⟨m, -, found⟩ := numeric_of_atoms first second
        cases second
        obtain ⟨place, -, other⟩ := Option.map_eq_some_iff.1 found
        cases other
    | _ =>
      constructor
      · intro same
        simp [Value.same, number?] at same
      · rintro ⟨atom, first, second⟩
        obtain ⟨m, numeric, -⟩ := numeric_of_atoms first second
        cases numeric
  | nan serial =>
    cases b with
    | nan other => simpa [Value.same, atom?] using eq_comm
    | bool | int | float =>
      constructor
      · intro same
        simp [Value.same, number?, Number.nan_equal] at same
      · rintro ⟨atom, first, second⟩
        cases first
        simp only [atom?, Number.atom?, Option.map_eq_some_iff] at second
        obtain ⟨place, -, other⟩ := second
        cases other
    | _ => simp [Value.same, atom?, number?]
  | _ =>
    cases b with
    | bool | int | float =>
      constructor
      · intro same
        simp [Value.same, number?] at same
      · rintro ⟨atom, first, second⟩
        obtain ⟨m, numeric, -⟩ := numeric_of_atoms second first
        cases numeric
    | _ => simp [Value.same, atom?, number?, DateTime.equal_iff] <;> grind

/-- Only a number that is none is the same as itself and not equal to itself. -/
theorem equal_eq_same_of_ne_nan {actual v : Value} (number : ∀ serial, v ≠ .nan serial) :
    actual.equal v = actual.same v := by
  unfold equal
  split
  · exact absurd rfl (number _)
  · rfl

/-! ## Identifiers -/

theorem same_tuple {items : List Value} {b : Value} :
    (Value.tuple items).same b = true ↔ ∃ others, b = .tuple others ∧ sameAll items others = true := by
  cases b <;> simp [same, number?]

mutual

theorem same_symm {a b : Value} (hashable : a.hashable = true) (same : a.same b = true) :
    b.same a = true := by
  match a with
  | .tuple items =>
    obtain ⟨others, rfl, all⟩ := same_tuple.1 same
    exact same_tuple.2 ⟨items, rfl, sameAll_symm hashable all⟩
  | .null | .bool _ | .int _ | .float _ | .nan _ | .str _ | .bytes _ | .date _ | .dateTime _ |
    .operator _ | .names _ | .function _ | .foreign _ _ =>
    obtain ⟨atom, first, second⟩ := (same_iff_atom rfl).1 same
    refine (same_iff_atom ?_).2 ⟨atom, second, first⟩
    cases b <;> first | rfl | cases second
  | .list _ | .set _ | .dict _ | .object _ | .page _ _ => cases hashable

theorem sameAll_symm {xs ys : List Value} (hashable : hashableAll xs = true)
    (same : sameAll xs ys = true) : sameAll ys xs = true := by
  match xs, ys with
  | [], [] => exact same
  | [], _ :: _ => simp [sameAll] at same
  | _ :: _, [] => simp [sameAll] at same
  | x :: xs, y :: ys =>
    simp only [hashableAll, sameAll, Bool.and_eq_true] at hashable same ⊢
    exact ⟨same_symm hashable.1 same.1, sameAll_symm hashable.2 same.2⟩

end

mutual

theorem same_trans {a b c : Value} (hashable : a.hashable = true) (first : a.same b = true)
    (second : b.same c = true) : a.same c = true := by
  match a with
  | .tuple items =>
    obtain ⟨others, rfl, all⟩ := same_tuple.1 first
    obtain ⟨more, rfl, all'⟩ := same_tuple.1 second
    exact same_tuple.2 ⟨more, rfl, sameAll_trans hashable all all'⟩
  | .null | .bool _ | .int _ | .float _ | .nan _ | .str _ | .bytes _ | .date _ | .dateTime _ |
    .operator _ | .names _ | .function _ | .foreign _ _ =>
    obtain ⟨atom, found, found'⟩ := (same_iff_atom rfl).1 first
    have atomic : b.isAtomic = true := by cases b <;> first | rfl | cases found'
    obtain ⟨atom', again, found''⟩ := (same_iff_atom atomic).1 second
    cases found'.symm.trans again
    exact (same_iff_atom rfl).2 ⟨atom, found, found''⟩
  | .list _ | .set _ | .dict _ | .object _ | .page _ _ => cases hashable

theorem sameAll_trans {xs ys zs : List Value} (hashable : hashableAll xs = true)
    (first : sameAll xs ys = true) (second : sameAll ys zs = true) : sameAll xs zs = true := by
  match xs, ys, zs with
  | [], [], [] => exact first
  | [], _ :: _, _ => simp [sameAll] at first
  | _ :: _, [], _ => simp [sameAll] at first
  | _, [], _ :: _ => simp [sameAll] at second
  | _, _ :: _, [] => simp [sameAll] at second
  | x :: xs, y :: ys, z :: zs =>
    simp only [hashableAll, sameAll, Bool.and_eq_true] at hashable first second ⊢
    exact ⟨same_trans hashable.1 first.1 second.1, sameAll_trans hashable.2 first.2 second.2⟩

end

end Value

end QueryCache
