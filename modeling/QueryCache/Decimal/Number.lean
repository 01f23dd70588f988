import QueryCache.Decimal.Notation

/-! Numbers that are whole or binary64, compared by their exact values. -/

set_option autoImplicit false

namespace QueryCache

inductive Number where
  | whole (n : Int)
  | binary (x : Binary64)
  deriving DecidableEq, Repr

/-- A number, if it is within the range. -/
def Binary64.inRange? : Binary64 → Option Binary64
  | .infinite _ => none
  | x => some x

namespace Number

/-- The place of a number on the exact scale. -/
def extent? : Number → Option Extent
  | .whole n => some (.at (n * Binary64.unitsPerOne))
  | .binary x => x.extent?

/-- The nearest binary64 number; an integer beyond the greatest has none. -/
def toBinary? : Number → Option Binary64
  | .whole n => (Binary64.ofInt n).inRange?
  | .binary x => some x

/-- Whether two numbers have the same value. -/
def equal (a b : Number) : Bool :=
  match a.extent?, b.extent? with
  | some x, some y => x == y
  | _, _ => false

def isZero : Number → Bool
  | .whole n => n == 0
  | .binary x => x.isZero

def text : Number → String
  | .whole n => toString n
  | .binary x => x.text

end Number

end QueryCache
