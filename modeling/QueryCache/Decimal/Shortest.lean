import QueryCache.Decimal.Binary64

/-! The shortest decimal that reads back as a given binary64 number.

The reals that round to a number form an interval around it, ends included when its mantissa
is even. For one, two, and up to seventeen digits the two decimals next to the number are
tried; the first size with a decimal inside the interval wins, and of two the nearer, a tie
going to the even digit. -/

set_option autoImplicit false

namespace QueryCache.Binary64

/-- A decimal `digits · 10 ^ exponent`. -/
structure Decimal where
  digits : Nat
  exponent : Int
  deriving DecidableEq, Repr

/-- The reals that round to `units`, counted in quarters of a unit. -/
structure RoundingInterval where
  low : Nat
  high : Nat
  closed : Bool

def roundingInterval (units : Nat) : RoundingInterval :=
  let step := power 2 (spacing units)
  let mantissa := units / step
  -- below a power of two the numbers lie twice as dense
  let below := if mantissa = power 2 52 ∧ 1 < step then step else 2 * step
  { low := 4 * units - below, high := 4 * units + 2 * step, closed := mantissa % 2 == 0 }

/-- Whether `num / den` quarter units lie in the interval. -/
def RoundingInterval.contains (interval : RoundingInterval) (num den : Nat) : Bool :=
  if interval.closed then interval.low * den ≤ num && num ≤ interval.high * den
  else interval.low * den < num && num < interval.high * den

/-- A power of ten as a fraction. -/
def powerOfTen (exponent : Int) : Nat × Nat :=
  if 0 ≤ exponent then (power 10 exponent.toNat, 1) else (1, power 10 (-exponent).toNat)

/-- The exponent of the leading decimal digit of `units`, which is not zero. -/
def leadingExponent (units : Nat) : Int :=
  if unitsPerOne ≤ units then (Nat.toDigits 10 (units / unitsPerOne)).length - 1
  else
    -- the least power of ten that lifts the number to one or more
    let lift := (Nat.toDigits 10 ((unitsPerOne - 1) / units)).length
    0 - (lift : Int)

/-- The nearest decimal with its last digit at `exponent` that rounds to `units`. -/
def decimalAt? (units : Nat) (exponent : Int) : Option Decimal :=
  let (up, down) := powerOfTen exponent
  let num := units * down
  let den := unitsPerOne * up
  let interval := roundingInterval units
  let inside (digits : Nat) : Bool :=
    interval.contains (digits * 4 * den) down
  let low := num / den
  let twice := 2 * (num % den)
  let nearLow := twice < den ∨ (twice = den ∧ low % 2 = 0)
  let first := if nearLow then low else low + 1
  let second := if nearLow then low + 1 else low
  if inside first then some ⟨first, exponent⟩
  else if inside second then some ⟨second, exponent⟩
  else none

/-- Drops trailing zeros of the digits. -/
def Decimal.trimmed (d : Decimal) : Nat → Decimal
  | 0 => d
  | fuel + 1 =>
    if d.digits % 10 = 0 ∧ d.digits ≠ 0 then
      Decimal.trimmed ⟨d.digits / 10, d.exponent + 1⟩ fuel
    else d

/-- The shortest decimal that rounds to `units`, which is not zero. -/
def shortest (units : Nat) : Decimal :=
  let lead := leadingExponent units
  let ends := (List.range 17).map fun (size : Nat) => lead - (size : Int)
  match ends.findSome? (decimalAt? units) with
  | some d => d.trimmed 17
  | none => ⟨0, 0⟩

end QueryCache.Binary64
