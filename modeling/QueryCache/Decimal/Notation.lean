import QueryCache.Decimal.Shortest

/-! Decimal texts of binary64 numbers. The digits are the shortest that read back; a style
says where positional notation ends and how an exponent is written. -/

set_option autoImplicit false

namespace QueryCache.Binary64

/-- How a number is laid out. -/
structure Style where
  /-- The least exponent of the leading digit that is written positionally. -/
  least : Int
  /-- The least exponent of the leading digit that is not. -/
  limit : Int
  /-- Whether a positive exponent carries a plus sign. -/
  plus : Bool
  /-- The least number of exponent digits. -/
  width : Nat
  deriving DecidableEq, Repr

/-- Positional from 10⁻⁴ to below 10¹⁶, exponents with a sign and two digits. -/
def Style.plain : Style := ⟨-4, 16, true, 2⟩

/-- Positional from 10⁻⁵ to below 10¹⁶, exponents without padding. -/
def Style.compact : Style := ⟨-5, 16, false, 1⟩

/-- The digits with the point after the digit of exponent zero. -/
def positional (digits : List Char) (lead : Int) : List Char :=
  if lead < 0 then
    '0' :: '.' :: List.replicate (-lead - 1).toNat '0' ++ digits
  else
    let whole := lead.toNat + 1
    let padded := digits ++ List.replicate (whole - digits.length) '0'
    let fraction := padded.drop whole
    padded.take whole ++ '.' :: (if fraction.isEmpty then ['0'] else fraction)

/-- One digit, the point, the other digits and the exponent. -/
def scientific (style : Style) (digits : List Char) (lead : Int) : List Char :=
  let mantissa :=
    match digits with
    | first :: second :: rest => first :: '.' :: second :: rest
    | _ => digits
  let exponent := Nat.toDigits 10 lead.natAbs
  let sign := if lead < 0 then ['-'] else if style.plus then ['+'] else []
  mantissa ++ 'e' :: sign ++ List.replicate (style.width - exponent.length) '0' ++ exponent

/-- The text of a number in a style. -/
def textIn (style : Style) : Binary64 → List Char
  | .nan => ['n', 'a', 'n']
  | .infinite negative => (if negative then ['-'] else []) ++ ['i', 'n', 'f']
  | .finite negative units =>
    let sign := if negative then ['-'] else []
    if units = 0 then sign ++ ['0', '.', '0']
    else
      let d := shortest units
      let digits := Nat.toDigits 10 d.digits
      let lead : Int := d.exponent + (digits.length : Int) - 1
      if style.least ≤ lead ∧ lead < style.limit then sign ++ positional digits lead
      else sign ++ scientific style digits lead

/-- The text of a number: positional between 10⁻⁴ and 10¹⁶. -/
def text (x : Binary64) : String :=
  String.ofList (textIn .plain x)

/-- A number with a fixed count of decimal places, a tie going to the even neighbour. -/
def fixed (places : Nat) : Binary64 → String
  | .nan => "nan"
  | .infinite negative => if negative then "-inf" else "inf"
  | .finite negative units =>
    let scaled := roundDiv (units * power 10 places) unitsPerOne
    let fraction := Nat.toDigits 10 (scaled % power 10 places)
    let padding := List.replicate (places - fraction.length) '0'
    String.ofList ((if negative then ['-'] else []) ++ Nat.toDigits 10 (scaled / power 10 places) ++
      (if places = 0 then [] else '.' :: padding ++ fraction))

end QueryCache.Binary64
