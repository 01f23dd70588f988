import QueryCache.Decimal.Number
import Mathlib.Algebra.Order.Group.Nat
import Mathlib.Data.Nat.Basic

/-! Rounding to the numbers of the format.

Numbers of the format are the counts of units that rounding leaves as they are. No two of them of
one size are closer than a step, and rounding moves a count by half a step at most and never past
one of them. -/

set_option autoImplicit false

namespace QueryCache.Binary64

/-! ## Quotients -/

theorem roundDiv_le {num den bound : Nat} (below : num ≤ bound * den) : roundDiv num den ≤ bound := by
  rcases Nat.eq_zero_or_pos den with rfl | positive
  · have empty : num = 0 := by simpa using below
    simp [empty, roundDiv]
  have parts : den * (num / den) + num % den = num := Nat.div_add_mod num den
  have most : num / den ≤ bound := (Nat.div_le_iff_le_mul positive).2 (by omega)
  -- At the bound itself nothing is left over that could be rounded up.
  rcases Nat.lt_or_ge (num / den) bound with small | large
  · unfold roundDiv
    dsimp only
    split
    · exact most
    · split <;> omega
  · have same : num / den = bound := Nat.le_antisymm most large
    have rest : num % den = 0 := by
      rw [same, Nat.mul_comm] at parts
      omega
    simp [roundDiv, rest, positive, same]

theorem le_roundDiv {num den bound : Nat} (positive : 0 < den) (above : bound * den ≤ num) :
    bound ≤ roundDiv num den := by
  have least : bound ≤ num / den := (Nat.le_div_iff_mul_le positive).2 above
  unfold roundDiv
  dsimp only
  split
  · exact least
  · split <;> omega

theorem two_mul_le_roundDiv (num : Nat) {den : Nat} (positive : 0 < den) :
    2 * num ≤ 2 * (roundDiv num den * den) + den := by
  have parts : num / den * den + num % den = num := Nat.div_add_mod' num den
  have less : num % den < den := Nat.mod_lt _ positive
  have next : (num / den + 1) * den = num / den * den + den := Nat.succ_mul _ _
  unfold roundDiv
  dsimp only
  split
  · omega
  · split
    · omega
    · rcases Nat.mod_two_eq_zero_or_one (num / den) with even | odd
      · rw [even, Nat.add_zero]
        omega
      · rw [odd]
        omega

theorem roundDiv_mul (num : Nat) {den : Nat} (positive : 0 < den) : roundDiv (num * den) den = num :=
  Nat.le_antisymm (roundDiv_le (Nat.le_refl _)) (le_roundDiv positive (Nat.le_refl _))

/-! ## Steps -/

/-- A count of units that has a number of its own. -/
structure Kept (units : Nat) : Prop where
  step : 2 ^ spacing units ∣ units
  range : units < unitsLimit

instance (units : Nat) : Decidable (Kept units) :=
  decidable_of_iff (2 ^ spacing units ∣ units ∧ units < unitsLimit)
    ⟨fun both => ⟨both.1, both.2⟩, fun kept => ⟨kept.step, kept.range⟩⟩

/-- The count that a count is rounded to. -/
def nearest (units : Nat) : Nat := roundDiv units (2 ^ spacing units) * 2 ^ spacing units

theorem roundUnits_one (negative : Bool) (units : Nat) : roundUnits negative units 1 =
    if nearest units < unitsLimit then .finite negative (nearest units) else .infinite negative := by
  simp only [roundUnits, nearest, Nat.div_one, Nat.one_mul]
  rfl

theorem bitLength_mono {a b : Nat} (le : a ≤ b) : bitLength a ≤ bitLength b := by
  unfold bitLength
  split
  · omega
  · next positive =>
    rw [if_neg (by omega)]
    have low : 2 ^ a.log2 ≤ b := Nat.le_trans ((Nat.le_log2 positive).1 (Nat.le_refl _)) le
    have := (Nat.le_log2 (by omega)).2 low
    omega

theorem spacing_mono {a b : Nat} (le : a ≤ b) : spacing a ≤ spacing b :=
  Nat.sub_le_sub_right (bitLength_mono le) _

theorem le_spacing {step units : Nat} (large : 2 ^ (step + 52) ≤ units) : step ≤ spacing units := by
  have positive : units ≠ 0 := fun zero => by simp [zero] at large
  have := (Nat.le_log2 positive).2 large
  unfold spacing bitLength precision
  rw [if_neg positive]
  omega

theorem two_pow_le_of_spacing {units : Nat} (wide : 0 < spacing units) : 2 ^ (spacing units + 52) ≤ units := by
  unfold spacing bitLength precision at *
  split at wide
  · omega
  · next positive =>
    rw [if_neg positive]
    exact (Nat.le_log2 positive).1 (by omega)

theorem Kept.of_narrow {units : Nat} (narrow : units < 2 ^ precision) : Kept units where
  step := by
    have close : spacing units = 0 := by
      by_contra wide
      have far := two_pow_le_of_spacing (Nat.pos_of_ne_zero wide)
      have more : 2 ^ precision ≤ 2 ^ (spacing units + 52) :=
        Nat.pow_le_pow_right (by decide) (by unfold precision; omega)
      omega
    rw [close]
    exact Nat.one_dvd units
  range := Nat.lt_of_lt_of_le narrow (Nat.pow_le_pow_right Nat.two_pos (by unfold precision; omega))

theorem nearest_of_narrow {units : Nat} (narrow : spacing units = 0) : nearest units = units := by
  have := roundDiv_mul units Nat.one_pos
  simpa [nearest, narrow] using this

theorem nearest_of_dvd {units : Nat} (step : 2 ^ spacing units ∣ units) : nearest units = units := by
  obtain ⟨count, same⟩ := step
  rw [Nat.mul_comm] at same
  have rounded : roundDiv units (2 ^ spacing units) = count :=
    (congrArg (roundDiv · _) same).trans (roundDiv_mul count (Nat.two_pow_pos _))
  rw [nearest, rounded, ← same]

theorem two_pow_spacing_le {units : Nat} (positive : 0 < units) : 2 ^ spacing units ≤ units := by
  rcases Nat.eq_zero_or_pos (spacing units) with narrow | wide
  · rw [narrow]
    exact positive
  · exact Nat.le_trans (Nat.pow_le_pow_right (by omega) (by omega)) (two_pow_le_of_spacing wide)

theorem nearest_pos {units : Nat} (positive : 0 < units) : 0 < nearest units := by
  have least : 1 * 2 ^ spacing units ≤ units := by
    rw [Nat.one_mul]
    exact two_pow_spacing_le positive
  exact Nat.mul_pos (le_roundDiv (Nat.two_pow_pos _) least) (Nat.two_pow_pos _)

/-- Rounding goes past no number of the format. -/
theorem nearest_le {units bound : Nat} (le : units ≤ bound) (kept : Kept bound) : nearest units ≤ bound := by
  have dvd : 2 ^ spacing units ∣ bound := Nat.dvd_trans (Nat.pow_dvd_pow 2 (spacing_mono le)) kept.step
  obtain ⟨count, same⟩ := dvd
  rw [Nat.mul_comm] at same
  calc nearest units ≤ count * 2 ^ spacing units := Nat.mul_le_mul_right _ (roundDiv_le (same ▸ le))
    _ = bound := same.symm

/-- From one number on so far as rounding the way to another leads, there is no number before that
other one. -/
theorem le_of_nearest_sub {start goal place : Nat} (le : start ≤ goal) (kept : Kept goal) (kept' : Kept place)
    (reached : start + nearest (goal - start) ≤ place) : goal ≤ place := by
  rcases Nat.eq_zero_or_pos (spacing (goal - start)) with narrow | wide
  · rw [nearest_of_narrow narrow] at reached
    omega
  by_contra short
  have low : 2 ^ (spacing (goal - start) + 52) ≤ goal - start := two_pow_le_of_spacing wide
  have half := two_mul_le_roundDiv (goal - start) (Nat.two_pow_pos (spacing (goal - start)))
  change 2 * (goal - start) ≤ 2 * nearest (goal - start) + _ at half
  -- The place is half a step short of the goal at most.
  obtain ⟨step, same⟩ : ∃ step, spacing (goal - start) = step + 1 := ⟨_, (Nat.succ_pred_eq_of_pos wide).symm⟩
  have close : goal - place ≤ 2 ^ step := by
    rw [same, Nat.pow_succ] at half
    omega
  have goalStep : 2 ^ (step + 1) ∣ goal := by
    refine Nat.dvd_trans (Nat.pow_dvd_pow 2 (le_spacing ?_)) kept.step
    rw [← same]
    omega
  rw [same] at low
  rcases Nat.lt_or_ge place (2 ^ (step + 1 + 52)) with small | large
  · -- Below a power of two numbers are half a step apart, and the way to the power was not rounded.
    have double : 2 ^ (step + 1 + 52) = 2 * 2 ^ (step + 52) := by rw [← Nat.pow_succ']
    have placeStep : 2 ^ step ∣ place := by
      refine Nat.dvd_trans (Nat.pow_dvd_pow 2 (le_spacing ?_)) kept'.step
      have : 2 ^ step ≤ 2 ^ (step + 52) := Nat.pow_le_pow_right (by omega) (by omega)
      omega
    have powerStep : 2 ^ (step + 1) ∣ 2 ^ (step + 1 + 52) := Nat.pow_dvd_pow 2 (by omega)
    have goalPower : goal = 2 ^ (step + 1 + 52) := by
      have apart : 2 ^ (step + 1) ∣ goal - 2 ^ (step + 1 + 52) := Nat.dvd_sub goalStep powerStep
      have less : goal - 2 ^ (step + 1 + 52) < 2 ^ (step + 1) := by
        have : 2 ^ (step + 1) = 2 * 2 ^ step := Nat.pow_succ'
        have : 0 < 2 ^ step := Nat.two_pow_pos _
        omega
      have := Nat.eq_zero_of_dvd_of_lt apart less
      omega
    have fromZero : start = 0 := by omega
    rw [fromZero, Nat.sub_zero, nearest_of_dvd kept.step] at reached
    omega
  · have placeStep : 2 ^ (step + 1) ∣ place := Nat.dvd_trans (Nat.pow_dvd_pow 2 (le_spacing large)) kept'.step
    have apart : 2 ^ (step + 1) ∣ goal - place := Nat.dvd_sub goalStep placeStep
    have less : goal - place < 2 ^ (step + 1) := by
      have : 2 ^ (step + 1) = 2 * 2 ^ step := Nat.pow_succ'
      have : 0 < 2 ^ step := Nat.two_pow_pos _
      omega
    have := Nat.eq_zero_of_dvd_of_lt apart less
    omega

/-! ## Numbers that fit -/

theorem unitsPerOne_pos : 0 < unitsPerOne := Nat.pow_pos Nat.two_pos

theorem two_pow_lt_unitsLimit {size : Nat} (small : size < 2098) : 2 ^ size < unitsLimit :=
  Nat.pow_lt_pow_right Nat.one_lt_two small

theorem two_pow_mul_unitsPerOne (size : Nat) : 2 ^ size * unitsPerOne = 2 ^ (size + 1074) := by
  rw [Nat.pow_add]
  rfl

theorem roundUnits_eq (negative : Bool) (num den : Nat) : roundUnits negative num den =
    if roundDiv num (den * 2 ^ spacing (num / den)) * 2 ^ spacing (num / den) < unitsLimit then
      .finite negative (roundDiv num (den * 2 ^ spacing (num / den)) * 2 ^ spacing (num / den))
    else .infinite negative := rfl

section

variable {units : Nat}

theorem roundDiv_scale (num den : Nat) {factor : Nat} (positive : 0 < factor) :
    roundDiv (num * factor) (den * factor) = roundDiv num den := by
  have quotient : num * factor / (den * factor) = num / den := Nat.mul_div_mul_right _ _ positive
  have rest : 2 * (num * factor % (den * factor)) = 2 * (num % den) * factor := by
    rw [Nat.mul_mod_mul_right, Nat.mul_assoc]
  unfold roundDiv
  dsimp only
  rw [quotient, rest]
  simp only [Nat.mul_lt_mul_right positive]

theorem log2_mul_two_pow (positive : 0 < units) (size : Nat) : (units * 2 ^ size).log2 = units.log2 + size := by
  have scaled : 0 < units * 2 ^ size := Nat.mul_pos positive (Nat.two_pow_pos size)
  refine (Nat.log2_eq_iff scaled.ne').2 ⟨?_, ?_⟩
  · rw [Nat.pow_add]
    exact Nat.mul_le_mul_right _ (Nat.log2_self_le positive.ne')
  · rw [Nat.add_right_comm, Nat.pow_add]
    exact Nat.mul_lt_mul_of_pos_right Nat.lt_log2_self (Nat.two_pow_pos size)

theorem bitLength_mul_two_pow (positive : 0 < units) (size : Nat) :
    bitLength (units * 2 ^ size) = bitLength units + size := by
  have scaled : 0 < units * 2 ^ size := Nat.mul_pos positive (Nat.two_pow_pos size)
  rw [bitLength, bitLength, if_neg scaled.ne', if_neg positive.ne', log2_mul_two_pow positive]
  omega

theorem spacing_mul_two_pow_le (units size : Nat) : spacing (units * 2 ^ size) ≤ spacing units + size := by
  rcases Nat.eq_zero_or_pos units with rfl | positive
  · simp [spacing, bitLength]
  · rw [spacing, spacing, bitLength_mul_two_pow positive]
    omega

theorem spacing_mul_two_pow (wide : 2 ^ 52 ≤ units) (size : Nat) :
    spacing (units * 2 ^ size) = spacing units + size := by
  have positive : 0 < units := Nat.lt_of_lt_of_le (Nat.two_pow_pos 52) wide
  have long := (Nat.le_log2 positive.ne').2 wide
  rw [spacing, spacing, bitLength_mul_two_pow positive]
  unfold bitLength precision
  rw [if_neg positive.ne']
  omega

/-- Numbers of the format are doubled as they are. -/
theorem nearest_mul_two_pow_of_dvd (step : 2 ^ spacing units ∣ units) (size : Nat) :
    nearest (units * 2 ^ size) = units * 2 ^ size := by
  apply nearest_of_dvd
  refine Nat.dvd_trans (Nat.pow_dvd_pow 2 (spacing_mul_two_pow_le units size)) ?_
  rw [Nat.pow_add]
  exact Nat.mul_dvd_mul_right step _

/-- Rounding and doubling commute where the steps grow with the numbers. -/
theorem nearest_mul_two_pow (wide : 2 ^ 52 ≤ units) (size : Nat) :
    nearest (units * 2 ^ size) = nearest units * 2 ^ size := by
  rw [nearest, nearest, spacing_mul_two_pow wide, Nat.pow_add, roundDiv_scale _ _ (Nat.two_pow_pos size),
    Nat.mul_assoc]

theorem two_pow_le_unitsPerOne : 2 ^ 52 ≤ unitsPerOne := Nat.pow_le_pow_right Nat.two_pos (by omega)

theorem unitsLimit_le_two_pow {size : Nat} (large : 2098 ≤ size) : unitsLimit ≤ 2 ^ size :=
  Nat.pow_le_pow_right Nat.two_pos large

/-- A whole number is a product before it is rounded. -/
theorem roundUnits_mul_unitsPerOne (negative : Bool) (units : Nat) :
    roundUnits negative (units * unitsPerOne) unitsPerOne = roundUnits negative units 1 := by
  rw [roundUnits_eq, roundUnits_eq, Nat.mul_div_cancel _ unitsPerOne_pos, Nat.div_one, Nat.one_mul,
    Nat.mul_comm unitsPerOne, roundDiv_scale _ _ unitsPerOne_pos]

/-- Multiplying by a power of two, which is itself in range, is exact up to the greatest number. -/
theorem mul_two_pow (kept : Kept units) (negative : Bool) (size : Nat) :
    mul (.finite negative units) (.finite false (2 ^ size * unitsPerOne)) =
      if units * 2 ^ size < unitsLimit then .finite negative (units * 2 ^ size) else .infinite negative := by
  rw [mul, ← Nat.mul_assoc, roundUnits_mul_unitsPerOne, roundUnits_one, nearest_mul_two_pow_of_dvd kept.step]
  simp

end

end QueryCache.Binary64

namespace QueryCache.Number

open Binary64

theorem toBinary?_whole (n : Int) : (whole n).toBinary? =
    if nearest (n.natAbs * unitsPerOne) < unitsLimit then
      some (.finite (decide (n < 0)) (nearest (n.natAbs * unitsPerOne))) else none := by
  rw [toBinary?, ofInt, ofRatio, roundUnits_one]
  by_cases inRange : nearest (n.natAbs * unitsPerOne) < unitsLimit
  · rw [if_pos inRange, if_pos inRange, inRange?]
    simp
  · rw [if_neg inRange, if_neg inRange, inRange?]

/-- A power of two is a number as far as the range goes. -/
theorem toBinary?_two_pow (size : Nat) : (whole (2 ^ size : Nat)).toBinary? =
    if size < 1024 then some (.finite false (2 ^ size * unitsPerOne)) else none := by
  have positive : ¬((2 ^ size : Nat) : Int) < 0 := Int.not_lt.2 (Int.natCast_nonneg _)
  have exact : nearest (2 ^ size * unitsPerOne) = 2 ^ size * unitsPerOne := by
    rw [two_pow_mul_unitsPerOne, ← Nat.one_mul (2 ^ (size + 1074))]
    exact nearest_mul_two_pow_of_dvd (Kept.of_narrow (by decide)).step (size + 1074)
  have inRange : 2 ^ size * unitsPerOne < unitsLimit ↔ size < 1024 := by
    rw [two_pow_mul_unitsPerOne]
    refine ⟨fun less => ?_, fun small => two_pow_lt_unitsLimit (by omega)⟩
    by_contra large
    exact Nat.not_le.2 less (unitsLimit_le_two_pow (by omega))
  rw [toBinary?_whole, Int.natAbs_natCast, exact, decide_eq_false positive]
  simp only [inRange]

/-- Whole numbers are multiplied by a power of two before or after they are rounded. -/
theorem toBinary?_mul_two_pow (n : Int) (size : Nat) : (whole (n * (2 ^ size : Nat))).toBinary? =
    if nearest (n.natAbs * unitsPerOne) * 2 ^ size < unitsLimit then
      some (.finite (decide (n < 0)) (nearest (n.natAbs * unitsPerOne) * 2 ^ size)) else none := by
  have scaled : nearest ((n * (2 ^ size : Nat)).natAbs * unitsPerOne) =
      nearest (n.natAbs * unitsPerOne) * 2 ^ size := by
    rw [Int.natAbs_mul, Int.natAbs_natCast, Nat.mul_right_comm]
    rcases Nat.eq_zero_or_pos n.natAbs with zero | positive
    · rw [zero, Nat.zero_mul, Nat.zero_mul, nearest_of_narrow (by decide), Nat.zero_mul]
    · exact nearest_mul_two_pow (Nat.le_trans two_pow_le_unitsPerOne (Nat.le_mul_of_pos_left _ positive)) size
  have sign : decide (n * (2 ^ size : Nat) < 0) = decide (n < 0) := by
    have positive : (0 : Int) < (2 ^ size : Nat) := Int.natCast_pos.2 (Nat.two_pow_pos size)
    rw [decide_eq_decide]
    exact ⟨fun less => Int.not_le.1 fun above => Int.not_le.2 less (Int.mul_nonneg above positive.le),
      fun less => Int.mul_neg_of_neg_of_pos less positive⟩
  rw [toBinary?_whole, scaled, sign]

end QueryCache.Number
