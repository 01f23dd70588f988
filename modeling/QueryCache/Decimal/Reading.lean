import QueryCache.Decimal.Binary64
import QueryCache.Text.Digit

/-! Reading binary64 numbers from text: blanks around the number, a sign, digits of any
script with single low lines between them, a fraction, an exponent, or a word for an infinity
or for no number. -/

set_option autoImplicit false

namespace QueryCache.Binary64

/-- Whether every low line stands between two digits. -/
def lowLinesBetweenDigits : List Char → Bool
  | [] => true
  | '_' :: _ => false
  | c :: '_' :: d :: rest =>
    Text.isDecimal c && Text.isDecimal d && lowLinesBetweenDigits (d :: rest)
  | [_, '_'] => false
  | _ :: rest => lowLinesBetweenDigits rest

/-- The values of the leading digits, and what follows them. -/
def takeDigits : List Char → List Nat × List Char
  | [] => ([], [])
  | c :: rest =>
    match Text.digit? c with
    | some digit =>
      let (digits, after) := takeDigits rest
      (digit :: digits, after)
    | none => ([], c :: rest)

/-- Reads an exponent part; none at all stands for exponent zero. -/
def readExponent? : List Char → Option Int
  | [] => some 0
  | mark :: rest =>
    if mark = 'e' ∨ mark = 'E' then
      let (negative, body) := Text.splitSign rest
      match takeDigits body with
      | ([], _) => none
      | (digits, []) =>
        let value : Int := Text.digitsValue digits
        some (if negative then -value else value)
      | _ => none
    else none

/-- Reads digits, a fraction and an exponent. -/
def readDecimal? (negative : Bool) (text : List Char) : Option Binary64 :=
  let (whole, rest) := takeDigits text
  let (fraction, rest) :=
    match rest with
    | '.' :: more => takeDigits more
    | _ => ([], rest)
  if whole.isEmpty && fraction.isEmpty then none
  else do
    let exponent ← readExponent? rest
    return ofDecimal negative (Text.digitsValue (whole ++ fraction)) (exponent - fraction.length)

/-- Reads a number. -/
def ofText? (text : List Char) : Option Binary64 :=
  let body := Text.trimNumber text
  if !lowLinesBetweenDigits body then none
  else
    let (negative, body) := Text.splitSign (body.filter (· ≠ '_'))
    let word := String.ofList (body.map Char.toLower)
    if word = "inf" ∨ word = "infinity" then some (.infinite negative)
    else if word = "nan" then some .nan
    else readDecimal? negative body

end QueryCache.Binary64
