import QueryCache.Predicate.Eval
import QueryCache.Proofs.Decimal.Shortest

/-! Integers among values: they are compared as they are. -/

set_option autoImplicit false

namespace QueryCache

/-- Whether two integers stand in a comparison. -/
def Comparator.holdsOfInts (test : Comparator) (a b : Int) : Bool :=
  match test with
  | .eq => a = b
  | .neq => a ≠ b
  | .gt => a > b
  | .gte => a ≥ b
  | .lt => a < b
  | .lte => a ≤ b

namespace Extent

variable {unit : Int} (positive : 0 < unit) (a b : Int)

include positive

theorem beq_scaled : (Extent.at (a * unit) == .at (b * unit)) = decide (a = b) := by
  have cancel : a * unit = b * unit ↔ a = b := Int.mul_eq_mul_right_iff (by omega)
  rw [Bool.eq_iff_iff, beq_iff_eq, decide_eq_true_iff, Extent.at.injEq, cancel]

theorem lt_scaled : Extent.lt (.at (a * unit)) (.at (b * unit)) = decide (a < b) := by
  simp [Extent.lt, Int.mul_lt_mul_right positive]

theorem le_scaled : Extent.le (.at (a * unit)) (.at (b * unit)) = decide (a ≤ b) := by
  rw [Extent.le, lt_scaled positive, ← decide_not]
  simp

end Extent

namespace Value

theorem unit_pos : (0 : Int) < Binary64.unitsPerOne := Int.natCast_pos.2 Binary64.unitsPerOne_pos

theorem same_int (a b : Int) : (Value.int a).same (.int b) = decide (a = b) := by
  simp only [same, number?, Number.equal, Number.extent?]
  exact Extent.beq_scaled unit_pos a b

theorem ordered_int (a b : Int) : (Value.int a).ordered? .lte (.int b) = some (decide (a ≤ b)) :=
  congrArg some (Extent.le_scaled unit_pos a b)

theorem comparesAs_int (test : Comparator) (a b : Int) :
    Predicate.comparesAs test (.int a) (.int b) = test.holdsOfInts a b := by
  cases test with
  | eq => exact same_int a b
  | neq =>
    have equal : (Value.int a).equal (.int b) = decide (a = b) := same_int a b
    rw [Predicate.comparesAs, equal, ← decide_not]
    rfl
  | gt => exact Extent.lt_scaled unit_pos b a
  | gte => exact Extent.le_scaled unit_pos b a
  | lt => exact Extent.lt_scaled unit_pos a b
  | lte => exact Extent.le_scaled unit_pos a b

end Value

end QueryCache
