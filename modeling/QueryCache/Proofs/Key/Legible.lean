import QueryCache.Proofs.Calendar.Text
import QueryCache.Proofs.Key.JsonText
import QueryCache.Proofs.Outcome

/-! Values that can be read off their JSON.

JSON writes values of several types alike: texts, bytes, days and times are strings, lists and tuples
are arrays. Of values that do not stand for one another in that way equal JSON means that they are
equal. -/

set_option autoImplicit false

namespace QueryCache

open Outcome

namespace Base64

theorem digit_inj : ∀ n < 64, ∀ m < 64, digit n = digit m → n = m := by
  have found : ∀ n < 64, (List.range 64).find? (digit · == digit n) = some n := by decide
  intro n small m small' same
  have := found n small
  rw [same, found m small'] at this
  exact (Option.some.inj this).symm

theorem digit_ne_padding : ∀ n < 64, digit n ≠ '=' := by
  decide

theorem encode_injective : Function.Injective encode := by
  intro bytes others
  have bound (x : UInt8) : x.toNat < 256 := x.toNat_lt
  have apart {n : Nat} (small : n < 64) : digit n ≠ '=' := digit_ne_padding n small
  have low {n : Nat} : n % 64 < 64 := Nat.mod_lt _ (by decide)
  -- Three bytes are four digits, and the padding at the end tells how many are left over.
  induction bytes using encode.induct generalizing others with
  | case1 =>
    intro same
    rcases others with _ | ⟨x, _ | ⟨y, _ | ⟨z, rest⟩⟩⟩
    · rfl
    all_goals cases same
  | case2 a =>
    intro same
    have := bound a
    rcases others with _ | ⟨x, _ | ⟨y, _ | ⟨z, rest⟩⟩⟩
    · cases same
    · have := bound x
      simp only [encode, List.cons.injEq] at same
      have first := digit_inj _ (by omega) _ (by omega) same.1
      have second := digit_inj _ low _ low same.2.1
      rw [UInt8.toNat_inj.1 (by omega : a.toNat = x.toNat)]
    all_goals
      simp only [encode, List.cons.injEq] at same
      exact absurd same.2.2.1.symm (apart low)
  | case3 a b =>
    intro same
    have := bound a
    have := bound b
    rcases others with _ | ⟨x, _ | ⟨y, _ | ⟨z, rest⟩⟩⟩
    · cases same
    · simp only [encode, List.cons.injEq] at same
      exact absurd same.2.2.1 (apart low)
    · have := bound x
      have := bound y
      simp only [encode, List.cons.injEq] at same
      have first := digit_inj _ (by omega) _ (by omega) same.1
      have second := digit_inj _ low _ low same.2.1
      have third := digit_inj _ low _ low same.2.2.1
      rw [UInt8.toNat_inj.1 (by omega : a.toNat = x.toNat), UInt8.toNat_inj.1 (by omega : b.toNat = y.toNat)]
    · simp only [encode, List.cons.injEq] at same
      exact absurd same.2.2.2.1.symm (apart low)
  | case4 a b c rest ih =>
    intro same
    have := bound a
    have := bound b
    have := bound c
    rcases others with _ | ⟨x, _ | ⟨y, _ | ⟨z, rest'⟩⟩⟩
    · cases same
    · simp only [encode, List.cons.injEq] at same
      exact absurd same.2.2.1 (apart low)
    · simp only [encode, List.cons.injEq] at same
      exact absurd same.2.2.2.1 (apart low)
    · have := bound x
      have := bound y
      have := bound z
      simp only [encode, List.cons.injEq] at same
      have first := digit_inj _ (by omega) _ (by omega) same.1
      have second := digit_inj _ low _ low same.2.1
      have third := digit_inj _ low _ low same.2.2.1
      have fourth := digit_inj _ low _ low same.2.2.2.1
      rw [UInt8.toNat_inj.1 (by omega : a.toNat = x.toNat), UInt8.toNat_inj.1 (by omega : b.toNat = y.toNat),
        UInt8.toNat_inj.1 (by omega : c.toNat = z.toNat), ih same.2.2.2.2]

end Base64

namespace Value

mutual

/-- A value that a key can be made of: its numbers are numbers of the format, its days and times are
those of the calendar, and its times have offsets of whole minutes. -/
def isLegible : Value → Bool
  | .null | .bool _ | .int _ | .str _ | .bytes _ => true
  | .float (.finite _ units) => decide (Binary64.Kept units)
  | .date d => d.isValid
  | .dateTime t => t.isLegible
  | .list items | .tuple items => areLegible items
  | _ => false

def areLegible : List Value → Bool
  | [] => true
  | item :: rest => item.isLegible && areLegible rest

end

/-- What JSON writes as a string. -/
def isText : Value → Bool
  | .str _ | .bytes _ | .date _ | .dateTime _ => true
  | _ => false

mutual

/-- Two values that are of one type where JSON writes several types alike. -/
def alike : Value → Value → Bool
  | .list xs, .list ys | .tuple xs, .tuple ys => areAlike xs ys
  | .list _, .tuple _ | .tuple _, .list _ => false
  | .str _, .str _ | .bytes _, .bytes _ | .date _, .date _ | .dateTime _, .dateTime _ => true
  | v, w => !(v.isText && w.isText)

/-- Lists are as far as both go. -/
def areAlike : List Value → List Value → Bool
  | x :: xs, y :: ys => x.alike y && areAlike xs ys
  | _, _ => true

end

mutual

theorem exists_canonical {v : Value} (legible : v.isLegible = true) :
    ∃ tree, v.canonical = .ok tree ∧ tree.isFinite = true := by
  match v with
  | .null | .bool _ | .int _ | .str _ | .bytes _ | .date _ | .dateTime _ => exact ⟨_, rfl, rfl⟩
  | .float (.finite _ units) => exact ⟨_, rfl, legible⟩
  | .list items | .tuple items =>
    obtain ⟨trees, written, finite⟩ := exists_canonicals legible
    exact ⟨.array trees, by rw [canonical, written]; rfl, finite⟩

theorem exists_canonicals {items : List Value} (legible : areLegible items = true) :
    ∃ trees, canonicals items = .ok trees ∧ JsonTree.areFinite trees = true := by
  match items with
  | [] => exact ⟨[], rfl, rfl⟩
  | item :: rest =>
    rw [areLegible, Bool.and_eq_true] at legible
    obtain ⟨tree, written, finite⟩ := exists_canonical legible.1
    obtain ⟨trees, others, finites⟩ := exists_canonicals legible.2
    exact ⟨tree :: trees, by rw [canonicals, written, others]; rfl, by rw [JsonTree.areFinite, finite, finites]; rfl⟩

end

theorem canonicals_eq_mapM (items : List Value) : canonicals items = items.mapM canonical := by
  induction items with
  | nil => rfl
  | cons item rest ih => rw [canonicals, List.mapM_cons, ih]

def isSequence : Value → Bool
  | .list _ | .tuple _ => true
  | _ => false

variable {v w : Value}

/-- Only sequences are written as arrays. -/
theorem canonical_ne_array (legible : v.isLegible = true) (single : v.isSequence = false) (trees : List JsonTree) :
    v.canonical ≠ .ok (.array trees) := by
  intro same
  cases v with
  | null | bool | int | float | str | bytes | date | dateTime => cases same
  | list | tuple => cases single
  | _ => cases legible

/-- Apart from sequences. -/
theorem eq_of_canonical (legible : v.isLegible = true) (legible' : w.isLegible = true) (single : v.isSequence = false)
    (single' : w.isSequence = false) (both : v.alike w = true) (same : v.canonical = w.canonical) : v = w := by
  -- Kinds that are written alike are told apart by `both`; of one kind the text tells the value.
  cases v with
  | null | bool b | int n | float x =>
    cases w with
    | null | bool | int | float | str | bytes | date | dateTime => cases same <;> rfl
    | list | tuple => cases single'
    | _ => cases legible'
  | str s =>
    cases w with
    | null | bool | int | float => cases same
    | str s' => cases same; rfl
    | bytes | date | dateTime => cases both
    | list | tuple => cases single'
    | _ => cases legible'
  | bytes b =>
    cases w with
    | null | bool | int | float => cases same
    | bytes b' =>
      simp only [canonical, Except.ok.injEq, JsonTree.str.injEq, String.ofList_inj] at same
      rw [Base64.encode_injective same]
    | str | date | dateTime => cases both
    | list | tuple => cases single'
    | _ => cases legible'
  | date d =>
    cases w with
    | null | bool | int | float => cases same
    | date d' =>
      simp only [canonical, Except.ok.injEq, JsonTree.str.injEq] at same
      rw [Date.text_inj legible legible' same]
    | str | bytes | dateTime => cases both
    | list | tuple => cases single'
    | _ => cases legible'
  | dateTime t =>
    cases w with
    | null | bool | int | float => cases same
    | dateTime t' =>
      simp only [canonical, Except.ok.injEq, JsonTree.str.injEq] at same
      rw [DateTime.canonicalText_inj legible legible' same]
    | str | bytes | date => cases both
    | list | tuple => cases single'
    | _ => cases legible'
  | list | tuple => cases single
  | _ => cases legible

mutual

/-- Values with one JSON are equal, unless one stands for the other in it. -/
theorem canonical_inj {v w : Value} (legible : v.isLegible = true) (legible' : w.isLegible = true)
    (both : v.alike w = true) (same : v.canonical = w.canonical) : v = w := by
  -- A sequence and something else: the one is written as an array.
  have apart {items : List Value} {u : Value} (items_ : areLegible items = true) (legible : u.isLegible = true)
      (single : u.isSequence = false) : (canonicals items).map JsonTree.array ≠ u.canonical := by
    obtain ⟨trees, written, -⟩ := exists_canonicals items_
    rw [written]
    exact fun same => canonical_ne_array legible single trees same.symm
  have arrays {xs ys : List Value} (items : areLegible xs = true) (items' : areLegible ys = true)
      (same : (canonicals xs).map JsonTree.array = (canonicals ys).map JsonTree.array) :
      ∃ trees, canonicals xs = .ok trees ∧ canonicals ys = .ok trees := by
    obtain ⟨trees, written, -⟩ := exists_canonicals items
    obtain ⟨trees', written', -⟩ := exists_canonicals items'
    rw [written, written'] at same
    cases same
    exact ⟨trees, written, written'⟩
  match v with
  | .list xs =>
    cases w with
    | list ys =>
      obtain ⟨trees, written, written'⟩ := arrays legible legible' same
      rw [canonicals_inj legible legible' both written written']
    | tuple ys => cases both
    | _ => exact (apart legible legible' rfl same).elim
  | .tuple xs =>
    cases w with
    | list ys => cases both
    | tuple ys =>
      obtain ⟨trees, written, written'⟩ := arrays legible legible' same
      rw [canonicals_inj legible legible' both written written']
    | _ => exact (apart legible legible' rfl same).elim
  | .null | .bool _ | .int _ | .float _ | .str _ | .bytes _ | .date _ | .dateTime _ =>
    cases w with
    | list ys | tuple ys => exact (apart legible' legible rfl same.symm).elim
    | _ => exact eq_of_canonical legible legible' rfl rfl both same

theorem canonicals_inj {xs ys : List Value} {trees : List JsonTree} (legible : areLegible xs = true)
    (legible' : areLegible ys = true) (both : areAlike xs ys = true) (first : canonicals xs = .ok trees)
    (second : canonicals ys = .ok trees) : xs = ys := by
  match xs, ys with
  | [], [] => rfl
  | [], y :: ys =>
    obtain ⟨tree, -, others⟩ := bind_eq_ok.1 second
    obtain ⟨trees, -, same⟩ := bind_eq_ok.1 others
    cases first
    cases same
  | x :: xs, [] =>
    obtain ⟨tree, -, others⟩ := bind_eq_ok.1 first
    obtain ⟨trees, -, same⟩ := bind_eq_ok.1 others
    cases second
    cases same
  | x :: xs, y :: ys =>
    rw [areLegible, Bool.and_eq_true] at legible legible'
    rw [areAlike, Bool.and_eq_true] at both
    obtain ⟨tree, written, others⟩ := bind_eq_ok.1 first
    obtain ⟨trees, written', same⟩ := bind_eq_ok.1 others
    obtain ⟨tree', read, others'⟩ := bind_eq_ok.1 second
    obtain ⟨trees', read', same'⟩ := bind_eq_ok.1 others'
    cases same
    cases same'
    rw [canonical_inj legible.1 legible'.1 both.1 (written.trans read.symm),
      canonicals_inj legible.2 legible'.2 both.2 written' read']

end

end Value

end QueryCache
