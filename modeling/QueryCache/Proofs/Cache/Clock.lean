import QueryCache.Cache.Time
import QueryCache.Proofs.Decimal.Rounding

/-! Readings of a clock, and spans between them.

A span is rounded when it is computed. All the same, from a reading on it takes as long as to the
expiry that it was computed for: no reading stands between. -/

set_option autoImplicit false

namespace QueryCache

namespace Extent

theorem le_trans {a b c : Extent} (first : a.le b = true) (second : b.le c = true) : a.le c = true := by
  unfold le at *
  simp only [Bool.not_eq_true'] at *
  by_contra before
  rw [Bool.not_eq_false] at before
  -- What is before the first is before the second, or the second is before the first.
  rcases lt_trichotomy b a with less | rfl | more
  · rw [first] at less
    cases less
  · rw [second] at before
    cases before
  · rw [lt_trans before more] at second
    cases second

theorem lt_asymm {a b : Extent} (less : a.lt b = true) : b.lt a = false := by
  by_contra more
  rw [Bool.not_eq_false] at more
  cases (lt_irrefl a).symm.trans (lt_trans less more)

theorem ne_of_lt {a b : Extent} (less : a.lt b = true) : a ≠ b := by
  rintro rfl
  cases (lt_irrefl a).symm.trans less

theorem le_at {a b : Int} : (Extent.at a).le (.at b) = true ↔ a ≤ b := by
  simp [le, lt]

end Extent

namespace Time

open Binary64

theorem le_iff {a b : Time} : a.le b = true ↔
    ∃ x y, extent? a = some x ∧ extent? b = some y ∧ x.le y = true := by
  unfold le
  split
  · next x y first second => simp [first, second]
  · next other =>
    refine ⟨nofun, ?_⟩
    rintro ⟨x, y, first, second, -⟩
    exact absurd second (other x y first)

theorem lt_iff {a b : Time} : a.lt b = true ↔
    ∃ x y, extent? a = some x ∧ extent? b = some y ∧ x.lt y = true := by
  unfold lt
  split
  · next x y first second => simp [first, second]
  · next other =>
    refine ⟨nofun, ?_⟩
    rintro ⟨x, y, first, second, -⟩
    exact absurd second (other x y first)

theorem exists_extent {t : Time} (number : t ≠ .nan) : ∃ place, extent? t = some place := by
  cases t with
  | nan => exact absurd rfl number
  | infinite negative => cases negative <;> exact ⟨_, rfl⟩
  | finite negative units => exact ⟨_, rfl⟩

theorem ne_nan_of_le {a b : Time} (ordered : a.le b = true) : a ≠ .nan := by
  rintro rfl
  cases ordered

theorem le_trans {a b c : Time} (first : a.le b = true) (second : b.le c = true) : a.le c = true := by
  obtain ⟨x, y, left, middle, le⟩ := le_iff.1 first
  obtain ⟨y', z, middle', right, le'⟩ := le_iff.1 second
  cases middle.symm.trans middle'
  exact le_iff.2 ⟨x, z, left, right, Extent.le_trans le le'⟩

theorem le_self {a b : Time} (ordered : a.le b = true) : a.le a = true := by
  obtain ⟨x, -, place, -, -⟩ := le_iff.1 ordered
  exact le_iff.2 ⟨x, x, place, place, by simp [Extent.le, Extent.lt_irrefl]⟩

theorem not_le_of_lt {a b : Time} (before : a.lt b = true) : b.le a = false := by
  obtain ⟨x, y, left, right, less⟩ := lt_iff.1 before
  simp [le, left, right, Extent.le, less]

/-- Of two times that are numbers one is before the other, or it is not later. -/
theorem lt_of_not_le {a b : Time} (first : a ≠ .nan) (second : b ≠ .nan) (later : b.le a = false) :
    a.lt b = true := by
  obtain ⟨x, left⟩ := exists_extent first
  obtain ⟨y, right⟩ := exists_extent second
  refine lt_iff.2 ⟨x, y, left, right, ?_⟩
  simpa [le, left, right, Extent.le] using later

/-! ## What is left of a time -/

theorem add_finite (a b : Bool) (m n : Nat) : ∃ negative units, Binary64.add (.finite a m) (.finite b n) =
    .finite negative units ∨ Binary64.add (.finite a m) (.finite b n) = .infinite negative := by
  unfold Binary64.add
  dsimp only
  split
  · exact ⟨_, _, .inl rfl⟩
  · rw [roundUnits_one]
    split
    · exact ⟨_, _, .inl rfl⟩
    · exact ⟨_, 0, .inr rfl⟩

/-- To an expiry that is still to come something is left, however it is rounded. -/
theorem le_of_left_le_zero {now expiry : Time} (spent : Time.le (Time.left now expiry) Binary64.zero = true) :
    expiry.le now = true := by
  -- A difference above zero is not rounded to zero.
  have positive (m : Nat) (pos : 0 < m) : Time.le (roundUnits false m 1) Binary64.zero = false ∧
      Time.lt (roundUnits false m 1) Binary64.zero = false := by
    have some_ := nearest_pos pos
    rw [roundUnits_one]
    split
    · constructor
      · simp [le, extent?, Binary64.zero, signed, Extent.le, Extent.lt, some_]
      · simp [lt, extent?, Binary64.zero, signed, Extent.lt]
    · exact ⟨rfl, rfl⟩
  cases expiry with
  | nan => cases now <;> cases spent
  | infinite negative =>
    cases now with
    | nan => cases negative <;> cases spent
    | infinite negative' => cases negative <;> cases negative' <;> first | rfl | cases spent
    | finite negative' units => cases negative <;> first | rfl | cases spent
  | finite negative units =>
    cases now with
    | nan => cases spent
    | infinite negative' => cases negative' <;> first | rfl | cases spent
    | finite negative' units' =>
      refine le_iff.2 ⟨_, _, rfl, rfl, Extent.le_at.2 ?_⟩
      by_contra later
      have sum : signed negative units + signed (!negative') units' =
          signed negative units - signed negative' units' := by
        cases negative' <;> simp [signed, Int.sub_eq_add_neg]
      have span : Binary64.sub (.finite negative units) (.finite negative' units') =
          roundUnits false (signed negative units - signed negative' units').natAbs 1 := by
        unfold Binary64.sub Binary64.neg Binary64.add
        dsimp only
        rw [sum, if_neg (by omega), decide_eq_false (by omega)]
      obtain ⟨notLe, notLt⟩ := positive (signed negative units - signed negative' units').natAbs (by omega)
      unfold left at spent
      dsimp only at spent
      rw [span, notLt, if_neg Bool.false_ne_true, notLe] at spent
      cases spent

/-! ## Readings -/

/-- A time that a clock can show: a number of the format that is not below zero. -/
def IsReading : Time → Prop
  | .finite false units => Kept units
  | _ => False

/-- A time that the format can write. -/
def IsKept : Time → Prop
  | .finite _ units => Kept units
  | _ => True

instance (t : Time) : Decidable t.IsReading :=
  match t with
  | .finite false units => inferInstanceAs (Decidable (Kept units))
  | .finite true _ | .infinite _ | .nan => inferInstanceAs (Decidable False)

instance (t : Time) : Decidable t.IsKept :=
  match t with
  | .finite _ units => inferInstanceAs (Decidable (Kept units))
  | .infinite _ | .nan => inferInstanceAs (Decidable True)

theorem IsReading.units {t : Time} (reading : t.IsReading) : ∃ units, t = .finite false units ∧ Kept units := by
  cases t with
  | finite negative units =>
    cases negative with
    | false => exact ⟨units, rfl, reading⟩
    | true => cases reading
  | infinite negative => cases reading
  | nan => cases reading

theorem isReading_of_narrow {units : Nat} (narrow : units < 2 ^ precision) : IsReading (.finite false units) :=
  Kept.of_narrow narrow

theorem IsReading.ne_nan {t : Time} (reading : t.IsReading) : t ≠ .nan := by
  obtain ⟨units, rfl, -⟩ := reading.units
  nofun

/-- No reading is before the beginning. -/
theorem IsReading.zero_le {t : Time} (reading : t.IsReading) : Time.le Binary64.zero t = true := by
  obtain ⟨units, rfl, -⟩ := reading.units
  exact le_iff.2 ⟨_, _, rfl, rfl, Extent.le_at.2 (by simp [signed])⟩

-- The sum is the exact one, so that only a span of full length is over.
/-- Whether so many seconds have passed since. -/
def elapsed (since span now : Time) : Bool :=
  match since, span, now with
  | .finite a m, .finite b n, .finite c p => signed a m + signed b n ≤ signed c p
  | .finite _ _, .infinite true, .finite _ _ => true
  | _, _, _ => false

/-- When what was left of an entry's time has passed, the entry is expired. -/
theorem le_of_elapsed_left {since expiry now : Time} (start : since.IsReading) (kept : expiry.IsKept)
    (reading : now.IsReading) (ahead : since.lt expiry = true)
    (ended : elapsed since (Time.left since expiry) now = true) : expiry.le now = true := by
  obtain ⟨first, rfl, -⟩ := start.units
  obtain ⟨place, rfl, kept'⟩ := reading.units
  obtain ⟨x, y, from_, to_, less⟩ := lt_iff.1 ahead
  cases expiry with
  | nan => cases to_
  | infinite negative =>
    cases negative with
    | true =>
      cases from_
      cases to_
      cases less
    | false => cases ended
  | finite negative goal =>
    cases from_
    cases to_
    have later : signed false first < signed negative goal := by simpa [Extent.lt] using less
    -- A time after a reading is not below zero.
    have upwards : negative = false := by
      cases negative with
      | false => rfl
      | true =>
        simp only [signed, if_true, Bool.false_eq_true, if_false] at later
        omega
    subst upwards
    simp only [signed, Bool.false_eq_true, if_false] at later
    have way : Binary64.sub (.finite false goal) (.finite false first) = roundUnits false (goal - first) 1 := by
      have sum : signed false goal + signed (!false) first = ((goal - first : Nat) : Int) := by
        simp only [signed, Bool.not_false, Bool.false_eq_true, if_true, if_false]
        omega
      unfold Binary64.sub Binary64.neg Binary64.add
      dsimp only
      rw [sum, if_neg (by omega), decide_eq_false (by omega), Int.natAbs_natCast]
    have notBelow : Time.lt (roundUnits false (goal - first) 1) Binary64.zero = false := by
      rw [roundUnits_one]
      split
      · simp [lt, extent?, Binary64.zero, signed, Extent.lt]
      · rfl
    unfold left at ended
    dsimp only at ended
    rw [way, notBelow, if_neg Bool.false_ne_true, roundUnits_one] at ended
    refine le_iff.2 ⟨_, _, rfl, rfl, Extent.le_at.2 ?_⟩
    split at ended
    · have reached : first + nearest (goal - first) ≤ place := by
        simp only [elapsed, signed, Bool.false_eq_true, if_false, decide_eq_true_eq] at ended
        omega
      -- The clock shows numbers of the format only, so it has reached the expiry itself.
      have := le_of_nearest_sub (by omega) kept kept' reached
      simpa [signed] using this
    · cases ended

/-- When the seconds that an entry was to live from a time on have passed, it is expired. -/
theorem le_of_elapsed {since span now : Time} (start : since.IsReading) (reading : now.IsReading)
    (ended : elapsed since span now = true) : Time.le (since.add span) now = true := by
  obtain ⟨first, rfl, -⟩ := start.units
  obtain ⟨place, rfl, kept⟩ := reading.units
  cases span with
  | nan => cases ended
  | infinite negative =>
    cases negative with
    | true => rfl
    | false => cases ended
  | finite negative units =>
    have sum : signed false first + signed negative units ≤ place := by
      simpa [elapsed, signed] using ended
    unfold Binary64.add
    dsimp only
    split
    · refine le_iff.2 ⟨_, _, rfl, rfl, Extent.le_at.2 ?_⟩
      simp [signed]
    · rw [roundUnits_one]
      -- The exact sum is at most the reading, and rounding does not take it beyond a number of the format.
      rcases Int.lt_or_le (signed false first + signed negative units) 0 with below | above
      · rw [decide_eq_true below]
        split
        · refine le_iff.2 ⟨_, _, rfl, rfl, Extent.le_at.2 ?_⟩
          simp only [signed, if_true, Bool.false_eq_true, if_false]
          omega
        · rfl
      · rw [decide_eq_false (by omega)]
        have short : nearest (signed false first + signed negative units).natAbs ≤ place :=
          nearest_le (by omega) kept
        rw [if_pos (Nat.lt_of_le_of_lt short kept.range)]
        refine le_iff.2 ⟨_, _, rfl, rfl, Extent.le_at.2 ?_⟩
        simpa [signed] using short

theorem add_ne_nan {since span : Time} (start : since.IsReading) (number : span ≠ .nan) :
    since.add span ≠ .nan := by
  obtain ⟨first, rfl, -⟩ := start.units
  cases span with
  | nan => exact absurd rfl number
  | infinite negative => nofun
  | finite negative units =>
    obtain ⟨sign, count, sum | sum⟩ := add_finite false negative first units
    · rw [sum]
      nofun
    · rw [sum]
      nofun

end Time

end QueryCache
