import QueryCache.Text.Ranges

/-! Decimal digits of every script, and the integers written with them. -/

set_option autoImplicit false

namespace QueryCache.Text

/-- The zeros of the scripts that have decimal digits; the nine other digits follow each. -/
def digitZeros : List Nat := [
  0x30, 0x660, 0x6F0, 0x7C0, 0x966, 0x9E6, 0xA66, 0xAE6, 0xB66, 0xBE6, 0xC66, 0xCE6, 0xD66,
  0xDE6, 0xE50, 0xED0, 0xF20, 0x1040, 0x1090, 0x17E0, 0x1810, 0x1946, 0x19D0, 0x1A80, 0x1A90,
  0x1B50, 0x1BB0, 0x1C40, 0x1C50, 0xA620, 0xA8D0, 0xA900, 0xA9D0, 0xA9F0, 0xAA50, 0xABF0,
  0xFF10, 0x104A0, 0x10D30, 0x11066, 0x110F0, 0x11136, 0x111D0, 0x112F0, 0x11450, 0x114D0,
  0x11650, 0x116C0, 0x11730, 0x118E0, 0x11950, 0x11C50, 0x11D50, 0x11DA0, 0x16A60, 0x16AC0,
  0x16B50, 0x1D7CE, 0x1D7D8, 0x1D7E2, 0x1D7EC, 0x1D7F6, 0x1E140, 0x1E2F0, 0x1E950, 0x1FBF0]

/-- The value of a decimal digit of any script. -/
def digit? (c : Char) : Option Nat :=
  if c.toNat < 128 then
    if c.isDigit then some (c.toNat - 48) else none
  else
    (digitZeros.find? fun first => first ≤ c.toNat && c.toNat < first + 10).map (c.toNat - ·)

/-- Whether a character is a decimal digit of any script. -/
def isDecimal (c : Char) : Bool :=
  (digit? c).isSome

/-- Whether a text consists of decimal digits, at least one. -/
def isDecimalText (text : List Char) : Bool :=
  !text.isEmpty && text.all isDecimal

/-- The number that a sequence of digits writes, the most significant first. -/
def digitsValue (digits : List Nat) : Nat :=
  digits.foldl (fun total digit => 10 * total + digit) 0

/-- The most digits an integer may be written with. -/
def maxDigits : Nat := 4300

/-- Reads digits with single low lines allowed between two of them. -/
def readDigits? : List Char → Option (List Nat)
  | [] => none
  | [c] => (digit? c).map ([·])
  | c :: '_' :: rest => do return (← digit? c) :: (← readDigits? rest)
  | c :: rest => do return (← digit? c) :: (← readDigits? rest)

/-- Why a text is no integer. -/
inductive IntegerFault where
  | malformed
  | tooManyDigits (count : Nat)
  deriving DecidableEq, Repr

/-- Splits a leading sign off; `true` stands for the minus sign. -/
def splitSign : List Char → Bool × List Char
  | '-' :: rest => (true, rest)
  | '+' :: rest => (false, rest)
  | text => (false, text)

/-- White space around a number, which the separators U+001C to U+001F are not. -/
def isNumberBlank (c : Char) : Bool :=
  isBlank c && !(28 ≤ c.toNat && c.toNat ≤ 31)

/-- Drops the white space around a number. -/
def trimNumber (text : List Char) : List Char :=
  ((text.dropWhile isNumberBlank).reverse.dropWhile isNumberBlank).reverse

/-- Reads an integer: blanks around it, a sign, digits of any script. -/
def readInteger (text : List Char) : Except IntegerFault Int :=
  let (negative, body) := splitSign (trimNumber text)
  match readDigits? body with
  | none => .error .malformed
  | some digits =>
    if digits.length > maxDigits then .error (.tooManyDigits digits.length)
    else
      let value : Int := digitsValue digits
      .ok (if negative then -value else value)

/-- The decimal digits of a natural number. -/
def ofNat (n : Nat) : List Char :=
  Nat.toDigits 10 n

end QueryCache.Text
