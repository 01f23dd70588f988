import QueryCache.Text.Printable

/-! Quoted forms of texts and byte strings.

A text stands between single quotes, or between double quotes when it holds a single quote
and no double one. Line breaks and tabs have short escapes, other characters that are not
printable are written with their code point in hexadecimal. -/

set_option autoImplicit false

namespace QueryCache.Text

/-- The lower-case hexadecimal digits of `n`, at least `width` of them. -/
def hex (width n : Nat) : List Char :=
  let digits := Nat.toDigits 16 n
  List.replicate (width - digits.length) '0' ++ digits

/-- The quote that encloses a text. -/
def quoteFor (text : List Char) : Char :=
  if text.contains '\'' && !text.contains '"' then '"' else '\''

/-- The escapes that quoted texts and quoted bytes share. -/
def shortEscape? (quote c : Char) : Option (List Char) :=
  if c = quote || c = '\\' then some ['\\', c]
  else if c = '\n' then some ['\\', 'n']
  else if c = '\r' then some ['\\', 'r']
  else if c = '\t' then some ['\\', 't']
  else none

/-- One character inside a quoted text. -/
def quotedChar (quote c : Char) : List Char :=
  match shortEscape? quote c with
  | some escape => escape
  | none =>
    if isPrintable c then [c]
    else if c.toNat < 0x100 then '\\' :: 'x' :: hex 2 c.toNat
    else if c.toNat < 0x10000 then '\\' :: 'u' :: hex 4 c.toNat
    else '\\' :: 'U' :: hex 8 c.toNat

/-- A text in quotes. -/
def quoted (text : List Char) : List Char :=
  let quote := quoteFor text
  quote :: text.flatMap (quotedChar quote) ++ [quote]

/-- One byte inside a quoted byte string. -/
def quotedByte (quote : Char) (byte : UInt8) : List Char :=
  let c := Char.ofNat byte.toNat
  match shortEscape? quote c with
  | some escape => escape
  | none => if 32 ≤ c.toNat && c.toNat < 127 then [c] else '\\' :: 'x' :: hex 2 c.toNat

/-- A byte string in quotes, marked by a leading `b`. -/
def quotedBytes (bytes : List UInt8) : List Char :=
  let quote := quoteFor (bytes.map fun byte => Char.ofNat byte.toNat)
  'b' :: quote :: bytes.flatMap (quotedByte quote) ++ [quote]

/-- A string in quotes. -/
def quote (text : String) : String :=
  String.ofList (quoted text.toList)

end QueryCache.Text
