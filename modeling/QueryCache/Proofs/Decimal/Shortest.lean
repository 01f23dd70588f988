import Mathlib.Algebra.Order.Field.Power
import Mathlib.Algebra.Order.Field.Rat
import Mathlib.Tactic.FieldSimp
import Mathlib.Tactic.Linarith
import Mathlib.Tactic.NormNum
import Mathlib.Tactic.Ring
import QueryCache.Decimal.Shortest
import QueryCache.Proofs.Decimal.Rounding

/-! What the shortest decimal of a number tells.

What rounds to one number does not round to another, and one of seventeen sizes has a decimal that
rounds to the number. So the value of its shortest decimal is that of no other. -/

set_option autoImplicit false

namespace QueryCache.Binary64

def Decimal.value (d : Decimal) : ℚ := d.digits * 10 ^ d.exponent

/-- How far to the next number below, in halves of a unit. -/
def roomBelow (units : Nat) : Nat :=
  if units / 2 ^ spacing units = 2 ^ 52 ∧ 1 < 2 ^ spacing units then 2 ^ spacing units
  else 2 * 2 ^ spacing units

/-- Whether a place, in quarters of a unit, lies in the interval. -/
def RoundingInterval.Holds (interval : RoundingInterval) (place : ℚ) : Prop :=
  if interval.closed then interval.low ≤ place ∧ place ≤ interval.high
  else interval.low < place ∧ place < interval.high

/-- Whether a number of ones rounds to so many units. -/
def RoundsTo (x : ℚ) (units : Nat) : Prop := (roundingInterval units).Holds (x * (4 * unitsPerOne))

variable {units other : Nat} {x place : ℚ}

theorem low_roundingInterval (units : Nat) : (roundingInterval units).low = 4 * units - roomBelow units := rfl

theorem high_roundingInterval (units : Nat) : (roundingInterval units).high = 4 * units + 2 * 2 ^ spacing units := rfl

theorem closed_roundingInterval (units : Nat) :
    (roundingInterval units).closed = (units / 2 ^ spacing units % 2 == 0) := rfl

theorem RoundingInterval.Holds.bounds {interval : RoundingInterval} (holds : interval.Holds place) :
    interval.low ≤ place ∧ place ≤ interval.high := by
  unfold RoundingInterval.Holds at holds
  split at holds
  · exact holds
  · exact ⟨holds.1.le, holds.2.le⟩

/-- Only a closed interval holds its ends. -/
theorem RoundingInterval.Holds.closed {interval : RoundingInterval} (holds : interval.Holds place)
    (atEnd : place = interval.low ∨ place = interval.high) : interval.closed = true := by
  unfold RoundingInterval.Holds at holds
  split at holds
  · assumption
  · rcases atEnd with rfl | rfl
    · exact absurd holds.1 (lt_irrefl _)
    · exact absurd holds.2 (lt_irrefl _)

/-! ## No two numbers for one decimal -/

theorem add_step_le (kept : Kept units) (kept' : Kept other) (less : units < other) :
    units + 2 ^ spacing units ≤ other := by
  have dvd : 2 ^ spacing units ∣ other := Nat.dvd_trans (Nat.pow_dvd_pow 2 (spacing_mono less.le)) kept'.step
  have := Nat.le_of_dvd (by omega) (Nat.dvd_sub dvd kept.step)
  omega

/-- From one number to the next there is at least the room below the latter. -/
theorem roomBelow_le (kept : Kept units) (kept' : Kept other) (less : units < other) :
    roomBelow other ≤ 2 * (other - units) := by
  -- Numbers that are close have the same step, so they are a step apart.
  have apart {step : Nat} (fine : step ≤ spacing other) (large : 2 ^ (step + 52) ≤ units) :
      2 ^ step ≤ other - units := by
    refine Nat.le_of_dvd (by omega) (Nat.dvd_sub ?_ ?_)
    · exact Nat.dvd_trans (Nat.pow_dvd_pow 2 fine) kept'.step
    · exact Nat.dvd_trans (Nat.pow_dvd_pow 2 (le_spacing large)) kept.step
  rcases Nat.eq_zero_or_pos (spacing other) with narrow | wide
  · simp only [roomBelow, narrow]
    split <;> omega
  obtain ⟨step, wider⟩ : ∃ step, spacing other = step + 1 := ⟨_, (Nat.succ_pred_eq_of_pos wide).symm⟩
  obtain ⟨count, whole⟩ := kept'.step
  have most := two_pow_le_of_spacing wide
  have mantissa : other / 2 ^ spacing other = count := Nat.div_eq_of_eq_mul_right (Nat.two_pow_pos _) whole
  have double : 2 ^ (step + 1) = 2 * 2 ^ step := Nat.pow_succ'
  unfold roomBelow
  rw [mantissa]
  split
  · next least =>
    by_contra close
    have near : 2 ^ (step + 52) ≤ units := by
      have : 2 ^ (step + 52) = 2 ^ 52 * 2 ^ step := by rw [Nat.pow_add, Nat.mul_comm]
      rw [least.1] at whole
      rw [wider] at whole close
      omega
    have := apart (by omega) near
    rw [wider] at close
    omega
  · next more =>
    by_contra close
    have above : 2 ^ 52 < count := by
      have : 2 ^ 52 ≤ count := by
        rw [Nat.pow_add] at most
        exact Nat.le_of_mul_le_mul_left (most.trans_eq whole) (Nat.two_pow_pos _)
      have : 1 < 2 ^ spacing other := Nat.one_lt_two_pow (by omega)
      omega
    have near : 2 ^ (spacing other + 52) ≤ units := by
      have : 2 ^ (spacing other + 52) = 2 ^ spacing other * 2 ^ 52 := Nat.pow_add ..
      have : 2 ^ spacing other * (2 ^ 52 + 1) ≤ 2 ^ spacing other * count := Nat.mul_le_mul_left _ above
      rw [Nat.mul_add] at this
      omega
    have := apart (Nat.le_refl _) near
    omega

theorem not_both {low high : Nat} (kept : Kept low) (kept' : Kept high) (less : low < high)
    (rounds : RoundsTo x low) (rounds' : RoundsTo x high) : False := by
  have room := roomBelow_le kept kept' less
  have step := add_step_le kept kept' less
  have above := rounds.bounds.2
  have below := rounds'.bounds.1
  have ends : (roundingInterval high).low = (roundingInterval low).high := by
    apply Nat.le_antisymm
    · exact_mod_cast below.trans above
    · rw [low_roundingInterval, high_roundingInterval]
      omega
  -- Both intervals are closed, as only their common end is in both.
  have place : x * (4 * unitsPerOne) = (roundingInterval low).high :=
    le_antisymm above (ends ▸ below)
  have even := rounds.closed (.inr place)
  have even' := rounds'.closed (.inl (ends ▸ place))
  rw [closed_roundingInterval, beq_iff_eq] at even even'
  rw [low_roundingInterval, high_roundingInterval] at ends
  have positive : 0 < 2 ^ spacing low := Nat.two_pow_pos _
  have quotient {units : Nat} (kept : Kept units) : 2 ^ spacing units * (units / 2 ^ spacing units) = units :=
    Nat.mul_div_cancel' kept.step
  have whole := quotient kept
  have whole' := quotient kept'
  unfold roomBelow at ends room
  split at ends
  · next least =>
    -- The lower one is the last before a power of two, where the step doubles.
    rw [if_pos least] at room
    have double : 2 ^ spacing high = 2 * 2 ^ spacing low := by omega
    rw [least.1] at whole'
    have last : 2 ^ spacing low * (low / 2 ^ spacing low) = 2 ^ spacing low * (2 ^ 53 - 1) := by omega
    have := Nat.eq_of_mul_eq_mul_left positive last
    omega
  · next more =>
    rw [if_neg more] at room
    have same : 2 ^ spacing high = 2 ^ spacing low := by omega
    rw [same] at whole' even'
    have next : 2 ^ spacing low * (high / 2 ^ spacing low) = 2 ^ spacing low * (low / 2 ^ spacing low + 1) := by
      rw [Nat.mul_add, Nat.mul_one]
      omega
    have := Nat.eq_of_mul_eq_mul_left positive next
    omega

theorem eq_of_roundsTo (kept : Kept units) (kept' : Kept other) (rounds : RoundsTo x units)
    (rounds' : RoundsTo x other) : units = other := by
  rcases Nat.lt_trichotomy units other with less | same | more
  · exact (not_both kept kept' less rounds rounds').elim
  · exact same
  · exact (not_both kept' kept more rounds' rounds).elim

/-! ## A decimal for every number -/

theorem powerOfTen_eq (exponent : Int) :
    0 < (powerOfTen exponent).1 ∧ 0 < (powerOfTen exponent).2 ∧
      ((powerOfTen exponent).1 : ℚ) = 10 ^ exponent * (powerOfTen exponent).2 := by
  have ten : (10 : ℚ) ≠ 0 := by norm_num
  unfold powerOfTen
  split
  · next up =>
    refine ⟨Nat.pow_pos (by decide), Nat.one_pos, ?_⟩
    obtain ⟨n, rfl⟩ := Int.eq_ofNat_of_zero_le up
    simp
  · next down =>
    refine ⟨Nat.one_pos, Nat.pow_pos (by decide), ?_⟩
    obtain ⟨n, same⟩ := Int.eq_ofNat_of_zero_le (show 0 ≤ -exponent by omega)
    obtain rfl : exponent = -(n : Int) := by omega
    simp [ten]

theorem RoundingInterval.contains_iff {interval : RoundingInterval} {num den : Nat} (positive : 0 < den)
    (same : place * den = num) : interval.contains num den = true ↔ interval.Holds place := by
  have positive : (0 : ℚ) < den := Nat.cast_pos.2 positive
  have low : interval.low * den ≤ num ↔ (interval.low : ℚ) ≤ place := by
    rw [← Nat.cast_le (α := ℚ), Nat.cast_mul, ← same, mul_le_mul_iff_left₀ positive]
  have high : num ≤ interval.high * den ↔ place ≤ interval.high := by
    rw [← Nat.cast_le (α := ℚ), Nat.cast_mul, ← same, mul_le_mul_iff_left₀ positive]
  have below : interval.low * den < num ↔ (interval.low : ℚ) < place := by
    rw [← Nat.cast_lt (α := ℚ), Nat.cast_mul, ← same, mul_lt_mul_iff_left₀ positive]
  have above : num < interval.high * den ↔ place < interval.high := by
    rw [← Nat.cast_lt (α := ℚ), Nat.cast_mul, ← same, mul_lt_mul_iff_left₀ positive]
  unfold RoundingInterval.contains RoundingInterval.Holds
  split
  · simp only [Bool.and_eq_true, decide_eq_true_eq, low, high]
  · simp only [Bool.and_eq_true, decide_eq_true_eq, below, above]

theorem contains_iff_roundsTo (units digits : Nat) (exponent : Int) :
    (roundingInterval units).contains (digits * 4 * (unitsPerOne * (powerOfTen exponent).1))
      (powerOfTen exponent).2 = true ↔ RoundsTo (Decimal.value ⟨digits, exponent⟩) units := by
  obtain ⟨-, positive, same⟩ := powerOfTen_eq exponent
  refine RoundingInterval.contains_iff positive ?_
  push_cast
  rw [same, Decimal.value]
  ring

/-- Of two decimals next to a number the first that is tried is half a step off at most. -/
theorem decimalAt?_eq (units : Nat) (exponent : Int) : ∃ first second,
    let holds (digits : Nat) := (roundingInterval units).contains
      (digits * 4 * (unitsPerOne * (powerOfTen exponent).1)) (powerOfTen exponent).2
    let den := unitsPerOne * (powerOfTen exponent).1
    decimalAt? units exponent = (if holds first then some ⟨first, exponent⟩
      else if holds second then some ⟨second, exponent⟩ else none) ∧
    2 * (first * den) ≤ 2 * (units * (powerOfTen exponent).2) + den ∧
    2 * (units * (powerOfTen exponent).2) ≤ 2 * (first * den) + den := by
  have positive : 0 < unitsPerOne * (powerOfTen exponent).1 := Nat.mul_pos unitsPerOne_pos (powerOfTen_eq exponent).1
  unfold decimalAt?
  generalize powerOfTen exponent = scale at positive
  refine ⟨_, _, rfl, ?_⟩
  generalize units * scale.2 = num
  generalize unitsPerOne * scale.1 = den at positive
  have parts : num / den * den + num % den = num := Nat.div_add_mod' num den
  have less : num % den < den := Nat.mod_lt _ positive
  split
  · omega
  · rw [Nat.add_mul, Nat.one_mul]
    omega

theorem roundsTo_of_decimalAt? {exponent : Int} {d : Decimal} (found : decimalAt? units exponent = some d) :
    RoundsTo d.value units := by
  obtain ⟨first, second, same, -⟩ := decimalAt?_eq units exponent
  rw [same] at found
  split at found
  · next inside =>
    cases found
    exact (contains_iff_roundsTo ..).1 inside
  · split at found
    · next inside =>
      cases found
      exact (contains_iff_roundsTo ..).1 inside
    · cases found

/-- Where decimals are less than the room apart, the first that is tried rounds to the number. -/
theorem exists_decimalAt? {exponent : Int} (positive : 0 < units)
    (fine : 2 * (unitsPerOne * (powerOfTen exponent).1) < roomBelow units * (powerOfTen exponent).2) :
    ∃ d, decimalAt? units exponent = some d := by
  obtain ⟨first, second, same, below, above⟩ := decimalAt?_eq units exponent
  have inside : (roundingInterval units).contains
      (first * 4 * (unitsPerOne * (powerOfTen exponent).1)) (powerOfTen exponent).2 = true := by
    have room : roomBelow units ≤ 2 * 2 ^ spacing units := by
      unfold roomBelow
      split <;> omega
    have least := two_pow_spacing_le positive
    have wide := Nat.mul_le_mul_right (powerOfTen exponent).2 room
    have deep := Nat.mul_le_mul_right (powerOfTen exponent).2 (room.trans (Nat.mul_le_mul_left 2 least))
    rw [Nat.mul_assoc 2 units] at deep
    have places : first * 4 * (unitsPerOne * (powerOfTen exponent).1) =
        4 * (first * (unitsPerOne * (powerOfTen exponent).1)) := by ring
    have low : (roundingInterval units).low * (powerOfTen exponent).2 <
        first * 4 * (unitsPerOne * (powerOfTen exponent).1) := by
      rw [places, low_roundingInterval, Nat.sub_mul, Nat.mul_assoc]
      omega
    have high : first * 4 * (unitsPerOne * (powerOfTen exponent).1) <
        (roundingInterval units).high * (powerOfTen exponent).2 := by
      rw [places, high_roundingInterval, Nat.add_mul, Nat.mul_assoc]
      omega
    unfold RoundingInterval.contains
    split
    · simp [low.le, high.le]
    · simp [low, high]
  exact ⟨_, same.trans (if_pos inside)⟩

theorem lt_two_pow_spacing (units : Nat) : units < 2 ^ (spacing units + 53) := by
  have fits : units < 2 ^ bitLength units := by
    unfold bitLength
    split
    · next zero => simp [zero]
    · exact Nat.lt_log2_self
  exact Nat.lt_of_lt_of_le fits (Nat.pow_le_pow_right Nat.two_pos (by unfold spacing precision; omega))

/-- Seventeen digits are finer than the numbers. -/
theorem two_mul_lt_roomBelow (units : Nat) : 2 * units < 10 ^ 16 * roomBelow units := by
  have positive : 0 < 2 ^ spacing units := Nat.two_pow_pos _
  have most := lt_two_pow_spacing units
  rw [Nat.pow_add] at most
  unfold roomBelow
  split
  · next least =>
    have parts := Nat.div_add_mod units (2 ^ spacing units)
    have rest := Nat.mod_lt units positive
    rw [least.1] at parts
    omega
  · omega

theorem pow_length_toDigits_le {n : Nat} (positive : 0 < n) : 10 ^ ((Nat.toDigits 10 n).length - 1) ≤ n := by
  rcases Nat.eq_zero_or_pos ((Nat.toDigits 10 n).length - 1) with one | more
  · rw [one]
    exact positive
  · by_contra short
    have := (Nat.length_toDigits_le_iff (by decide) more).2 (Nat.lt_of_not_le short)
    omega

theorem lt_pow_length_toDigits (n : Nat) : n < 10 ^ (Nat.toDigits 10 n).length :=
  (Nat.length_toDigits_le_iff (by decide) Nat.length_toDigits_pos).1 (Nat.le_refl _)

theorem leadingExponent_le (positive : 0 < units) : (10 : ℚ) ^ leadingExponent units * unitsPerOne ≤ units := by
  have one := unitsPerOne_pos
  unfold leadingExponent
  split
  · next large =>
    have whole : 0 < units / unitsPerOne := Nat.div_pos large one
    have least := Nat.mul_le_mul_right unitsPerOne (pow_length_toDigits_le whole)
    have parts : units / unitsPerOne * unitsPerOne ≤ units := Nat.div_mul_le_self ..
    obtain ⟨k, length⟩ : ∃ k, (Nat.toDigits 10 (units / unitsPerOne)).length = k + 1 :=
      ⟨_, (Nat.succ_pred_eq_of_pos Nat.length_toDigits_pos).symm⟩
    rw [length, Nat.add_sub_cancel] at least
    rw [length]
    have exponent : ((k + 1 : Nat) : Int) - 1 = k := by omega
    rw [exponent, zpow_natCast]
    exact_mod_cast least.trans parts
  · have lift := lt_pow_length_toDigits ((unitsPerOne - 1) / units)
    generalize (Nat.toDigits 10 ((unitsPerOne - 1) / units)).length = k at lift
    have most := (Nat.div_lt_iff_lt_mul positive).1 lift
    have lifted : unitsPerOne ≤ 10 ^ k * units := by omega
    have cast : (unitsPerOne : ℚ) ≤ 10 ^ k * units := by exact_mod_cast lifted
    rw [Int.zero_sub, zpow_neg, zpow_natCast, inv_mul_le_iff₀ (by positivity)]
    exact cast

theorem value_trimmed (d : Decimal) (fuel : Nat) : (d.trimmed fuel).value = d.value := by
  induction fuel generalizing d with
  | zero => rfl
  | succ fuel ih =>
    unfold Decimal.trimmed
    split
    · next ends =>
      rw [ih, Decimal.value, Decimal.value, zpow_add_one₀ (by norm_num)]
      have whole : (d.digits : ℚ) = d.digits / 10 * 10 := by simp
      have exact_ : d.digits / 10 * 10 = d.digits := Nat.div_mul_cancel (Nat.dvd_of_mod_eq_zero ends.1)
      have cast : ((d.digits / 10 : Nat) : ℚ) * 10 = d.digits := by exact_mod_cast exact_
      rw [← cast]
      ring
    · rfl

theorem exists_decimalAt?_last (positive : 0 < units) :
    ∃ d, decimalAt? units (leadingExponent units - 16) = some d := by
  apply exists_decimalAt? positive
  obtain ⟨-, down, same⟩ := powerOfTen_eq (leadingExponent units - 16)
  have leads := leadingExponent_le positive
  have room : (2 : ℚ) * units < 10 ^ 16 * roomBelow units := by exact_mod_cast two_mul_lt_roomBelow units
  have ends : (10 : ℚ) ^ leadingExponent units = 10 ^ (leadingExponent units - 16) * 10 ^ 16 := by
    rw [← zpow_natCast, ← zpow_add₀ (by norm_num), Nat.cast_ofNat, Int.sub_add_cancel]
  rw [ends] at leads
  rw [← Nat.cast_lt (α := ℚ)]
  push_cast
  rw [same]
  generalize (unitsPerOne : ℚ) = one at leads
  generalize (10 : ℚ) ^ (leadingExponent units - 16) = last at leads
  have close : 2 * (one * last) < roomBelow units := by linarith
  calc 2 * (one * (last * (powerOfTen (leadingExponent units - 16)).2))
      = 2 * (one * last) * (powerOfTen (leadingExponent units - 16)).2 := by ring
    _ < roomBelow units * (powerOfTen (leadingExponent units - 16)).2 :=
      mul_lt_mul_of_pos_right close (Nat.cast_pos.2 down)

theorem roundsTo_shortest (positive : 0 < units) : RoundsTo (shortest units).value units := by
  obtain ⟨last, found⟩ := exists_decimalAt?_last positive
  unfold shortest
  dsimp only
  split
  · next d held =>
    obtain ⟨exponent, -, found⟩ := List.exists_of_findSome?_eq_some held
    rw [value_trimmed]
    exact roundsTo_of_decimalAt? found
  · next none_ =>
    have member : leadingExponent units - 16 ∈
        (List.range 17).map fun (size : Nat) => leadingExponent units - (size : Int) :=
      List.mem_map.2 ⟨16, by simp, by simp⟩
    rw [List.findSome?_eq_none_iff] at none_
    cases found.symm.trans (none_ _ member)

/-- The shortest decimal, that of zero included. -/
def decimalOf (units : Nat) : Decimal := if units = 0 then ⟨0, 0⟩ else shortest units

/-- A number can be told by the value of its shortest decimal. -/
theorem decimalOf_inj (kept : Kept units) (kept' : Kept other)
    (same : (decimalOf units).value = (decimalOf other).value) : units = other := by
  have rounds (units : Nat) : RoundsTo (decimalOf units).value units := by
    unfold decimalOf
    split
    · next zero =>
      subst zero
      have none : Decimal.value ⟨0, 0⟩ * (4 * unitsPerOne) = 0 := by
        rw [Decimal.value, Nat.cast_zero, zero_mul, zero_mul]
      have closed : (roundingInterval 0).closed = true := rfl
      have low : (roundingInterval 0).low = 0 := rfl
      rw [RoundsTo, none, RoundingInterval.Holds, if_pos closed, low, Nat.cast_zero]
      exact ⟨le_rfl, Nat.cast_nonneg _⟩
    · next other => exact roundsTo_shortest (Nat.pos_of_ne_zero other)
  exact eq_of_roundsTo kept kept' (rounds units) (same ▸ rounds other)

end QueryCache.Binary64
