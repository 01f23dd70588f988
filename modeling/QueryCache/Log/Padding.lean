import QueryCache.Text.Digit

/-! How a text or a number stands in a field of a format.

A field may tell where what stands in it is padded and with which character, the sign of a
number, a width, a mark between groups of digits, the most characters of a text, and the kind of
what it is for. -/

set_option autoImplicit false

namespace QueryCache

/-- Where a short text stands in a wide field; `inner` pads after the sign of a number. -/
inductive Alignment where
  | left
  | right
  | center
  | inner
  deriving DecidableEq, Repr

def Alignment.ofMark? : Char → Option Alignment
  | '<' => some .left
  | '>' => some .right
  | '^' => some .center
  | '=' => some .inner
  | _ => none

structure Padding where
  fill : Option Char := none
  alignment : Option Alignment := none
  sign : Option Char := none
  /-- Whether a number shows its base. -/
  marked : Bool := false
  /-- Whether the width is given with a zero in front. -/
  zeros : Bool := false
  width : Nat := 0
  grouping : Option Char := none
  most : Option Nat := none
  kind : Option Char := none
  deriving DecidableEq, Repr

namespace Padding

/-- The characters up to the first that is no digit, as a number if there are any. -/
def readWidth (spec : List Char) : Option Nat × List Char :=
  let digits := spec.takeWhile Char.isDigit
  let number := (digits.filterMap Text.digit?).foldl (10 * · + ·) 0
  (if digits.isEmpty then none else some number, spec.drop digits.length)

/-- Takes the first character if the condition holds of it. -/
def readMark (holds : Char → Bool) : List Char → Option Char × List Char
  | c :: rest => if holds c then (some c, rest) else (none, c :: rest)
  | [] => (none, [])

/-- An alignment, perhaps after a fill character. -/
def readAlignment : List Char → Option Char × Option Alignment × List Char
  | first :: second :: rest =>
    match Alignment.ofMark? second, Alignment.ofMark? first with
    | some alignment, _ => (some first, some alignment, rest)
    | none, some alignment => (none, some alignment, second :: rest)
    | none, none => (none, none, first :: second :: rest)
  | [only] =>
    match Alignment.ofMark? only with
    | some alignment => (none, some alignment, [])
    | none => (none, none, [only])
  | [] => (none, none, [])

/-- Reads the parts of a specification in their order; none is left over. -/
def ofSpec? (spec : List Char) : Option Padding := do
  let (fill, alignment, rest) := readAlignment spec
  let (sign, rest) := readMark (fun c => c = '+' || c = '-' || c = ' ') rest
  let (marked, rest) := readMark (· = '#') rest
  let (zero, rest) := if fill.isNone then readMark (· = '0') rest else (none, rest)
  let (width, rest) := readWidth rest
  let (grouping, rest) := readMark (fun c => c = ',' || c = '_') rest
  let (point, rest) := readMark (· = '.') rest
  let (most, rest) := if point.isSome then readWidth rest else (none, rest)
  if point.isSome && most.isNone then failure
  let kind ← match rest with
    | [] => pure none
    | [c] => pure (some c)
    | _ => failure
  return {
    fill := fill, alignment := alignment, sign := sign, marked := marked.isSome
    zeros := zero.isSome, width := width.getD 0, grouping := grouping, most := most, kind := kind }

/-- The character that a field is filled up with. -/
def filler (p : Padding) : Char := p.fill.getD (if p.zeros then '0' else ' ')

/-- Fills up a text, which for numbers comes after its sign. -/
def apply (p : Padding) (default : Alignment) (sign text : List Char) : List Char :=
  let missing := List.replicate (p.width - (sign.length + text.length)) p.filler
  match p.alignment.getD default with
  | .left => sign ++ text ++ missing
  | .right => missing ++ sign ++ text
  | .inner => sign ++ missing ++ text
  | .center =>
    missing.take (missing.length / 2) ++ sign ++ text ++ missing.drop (missing.length / 2)

/-- A text in the field; there is none where the field is for numbers. -/
def text? (p : Padding) (text : List Char) : Option (List Char) :=
  if p.sign.isSome || p.marked || p.grouping.isSome || p.alignment == some .inner ||
      p.kind.any (· ≠ 's') then none
  else some (p.apply .left [] (text.take (p.most.getD text.length)))

/-- The mark after every so many digits from the right. -/
def grouped (mark : Char) (size : Nat) (digits : List Char) : List Char :=
  let marked := digits.reverse.zipIdx.flatMap fun (digit, index) =>
    if index % size = 0 ∧ index ≠ 0 then [mark, digit] else [digit]
  marked.reverse

/-- The base of a kind of number with its mark. -/
def base? : Char → Option (Nat × List Char)
  | 'd' | 'n' => some (10, [])
  | 'b' => some (2, ['0', 'b'])
  | 'o' => some (8, ['0', 'o'])
  | 'x' => some (16, ['0', 'x'])
  | 'X' => some (16, ['0', 'X'])
  | _ => none

/-- A number that is not negative in the field; there is none where the field is for texts. -/
def whole? (p : Padding) (n : Nat) : Option (List Char) := do
  let kind := p.kind.getD 'd'
  let (base, mark) ← base? kind
  if p.most.isSome || (p.grouping.isSome && kind = 'n') ||
      (p.grouping = some ',' && base ≠ 10) then failure
  let digits := Nat.toDigits base n
  let digits := if kind = 'X' then digits.map Char.toUpper else digits
  let digits :=
    match p.grouping with
    | some mark => grouped mark (if base = 10 then 3 else 4) digits
    | none => digits
  let sign := (p.sign.filter (· ≠ '-')).toList
  return p.apply (if p.zeros then .inner else .right)
    (sign ++ if p.marked then mark else []) digits

end Padding

end QueryCache
