import QueryCache.Decimal.Power

/-! Binary64 numbers with exact values.

A finite number is a sign and a count of units of 2⁻¹⁰⁷⁴, the least positive number of the
format. Every operation is the exact one followed by one rounding to nearest, ties to even.
Order and equality are those of the exact values; a number that is not a number has neither. -/

set_option autoImplicit false

namespace QueryCache

inductive Binary64 where
  | nan
  | infinite (negative : Bool)
  | finite (negative : Bool) (units : Nat)
  deriving DecidableEq, Repr

/-- The place of a number on the exact scale, infinities at its two ends. -/
inductive Extent where
  | below
  | at (units : Int)
  | above
  deriving DecidableEq, Repr

namespace Extent

def lt : Extent → Extent → Bool
  | .below, .below => false
  | .below, _ => true
  | .at a, .at b => a < b
  | .at _, .above => true
  | _, _ => false

def le (a b : Extent) : Bool := !lt b a

theorem lt_irrefl (a : Extent) : lt a a = false := by
  cases a <;> simp [lt]

theorem lt_trans {a b c : Extent} (first : lt a b = true) (second : lt b c = true) :
    lt a c = true := by
  cases a <;> cases b <;> cases c <;> simp_all [lt]
  omega

theorem lt_trichotomy (a b : Extent) : lt a b = true ∨ a = b ∨ lt b a = true := by
  cases a <;> cases b <;> simp [lt]
  omega

end Extent

namespace Binary64

/-- The number of units in one. -/
def unitsPerOne : Nat := power 2 1074

/-- The least count of units that is out of range. -/
def unitsLimit : Nat := power 2 2098

/-- The significant bits of a number. -/
def precision : Nat := 53

/-- Rounds a quotient to the nearest integer, a tie to the even one. -/
def roundDiv (num den : Nat) : Nat :=
  let quotient := num / den
  let twice := 2 * (num % den)
  if twice < den then quotient
  else if den < twice then quotient + 1
  else quotient + quotient % 2

/-- The number of binary digits. -/
def bitLength (n : Nat) : Nat :=
  if n = 0 then 0 else Nat.log2 n + 1

/-- The distance, as a power of two in units, between numbers of the size of `units`. -/
def spacing (units : Nat) : Nat :=
  bitLength units - precision

/-- The number nearest to `num / den` units. -/
def roundUnits (negative : Bool) (num den : Nat) : Binary64 :=
  let step := power 2 (spacing (num / den))
  let units := roundDiv num (den * step) * step
  if units < unitsLimit then .finite negative units else .infinite negative

/-- The number nearest to `num / den`. -/
def ofRatio (negative : Bool) (num den : Nat) : Binary64 :=
  roundUnits negative (num * unitsPerOne) den

/-- The number nearest to an integer. -/
def ofInt (n : Int) : Binary64 :=
  ofRatio (n < 0) n.natAbs 1

/-- The number nearest to `digits · 10 ^ exponent`. -/
def ofDecimal (negative : Bool) (digits : Nat) (exponent : Int) : Binary64 :=
  if digits = 0 then .finite negative 0
  else
    let size : Int := exponent + (Nat.toDigits 10 digits).length
    if 400 < size then .infinite negative
    else if size < -400 then .finite negative 0
    else if 0 ≤ exponent then ofRatio negative (digits * power 10 exponent.toNat) 1
    else ofRatio negative digits (power 10 (-exponent).toNat)

def zero : Binary64 := .finite false 0

def isNegative : Binary64 → Bool
  | .nan => false
  | .infinite negative => negative
  | .finite negative _ => negative

def signed (negative : Bool) (units : Nat) : Int :=
  if negative then -(units : Int) else units

/-- The place of a number on the exact scale. -/
def extent? : Binary64 → Option Extent
  | .nan => none
  | .infinite true => some .below
  | .infinite false => some .above
  | .finite negative units => some (.at (signed negative units))

def neg : Binary64 → Binary64
  | .nan => .nan
  | .infinite negative => .infinite !negative
  | .finite negative units => .finite (!negative) units

def add : Binary64 → Binary64 → Binary64
  | .nan, _ => .nan
  | _, .nan => .nan
  | .infinite a, .infinite b => if a = b then .infinite a else .nan
  | .infinite a, _ => .infinite a
  | _, .infinite b => .infinite b
  | .finite a m, .finite b n =>
    let sum := signed a m + signed b n
    if sum = 0 then .finite (a && b) 0 else roundUnits (sum < 0) sum.natAbs 1

def sub (x y : Binary64) : Binary64 := add x (neg y)

def mul : Binary64 → Binary64 → Binary64
  | .nan, _ => .nan
  | _, .nan => .nan
  | .infinite a, .infinite b => .infinite (a ^^ b)
  | .infinite a, .finite b n => if n = 0 then .nan else .infinite (a ^^ b)
  | .finite a m, .infinite b => if m = 0 then .nan else .infinite (a ^^ b)
  | .finite a m, .finite b n => roundUnits (a ^^ b) (m * n) unitsPerOne

/-- The integer part, the fraction dropped. -/
def truncate? : Binary64 → Option Int
  | .finite negative units => some (signed negative (units / unitsPerOne))
  | _ => none

def isZero : Binary64 → Bool
  | .finite _ units => units == 0
  | _ => false

/-- The 64 bits of the interchange format. -/
def toBits : Binary64 → Nat
  | .nan => 0x7FF8000000000000
  | .infinite negative => signBit negative + 0x7FF0000000000000
  | .finite negative units =>
    let step := spacing units
    let mantissa := units >>> step
    let biased := if mantissa < power 2 52 then 0 else step + 1
    signBit negative + biased * power 2 52 + mantissa % power 2 52
where
  signBit (negative : Bool) : Nat := if negative then power 2 63 else 0

/-- The number that 64 bits of the interchange format stand for. -/
def ofBits (bits : Nat) : Binary64 :=
  let negative := bits / power 2 63 % 2 == 1
  let biased := bits / power 2 52 % power 2 11
  let fraction := bits % power 2 52
  if biased = 2047 then
    if fraction = 0 then .infinite negative else .nan
  else if biased = 0 then .finite negative fraction
  else .finite negative ((power 2 52 + fraction) * power 2 (biased - 1))

end Binary64

end QueryCache
