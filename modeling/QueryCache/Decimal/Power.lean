/-! Powers of whole numbers. -/

set_option autoImplicit false

namespace QueryCache

/-- The product of so many factors, each the base. -/
abbrev power (base exponent : Nat) : Nat := Nat.pow base exponent

end QueryCache
