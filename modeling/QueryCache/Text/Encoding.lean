import QueryCache.Text.Quoted

/-! Texts as bytes, in units of one, two or four bytes, and why bytes are no text.

Units of one byte are those of UTF-8: the first byte of a character tells which bytes may follow
it. A fault names the bytes from the start of a character up to the one that cannot be there.
Units of two or four bytes may stand for halves of characters; a half that stands alone is read
as the replacement character. -/

set_option autoImplicit false

namespace QueryCache.Text

/-- Why bytes are no text, and which of them. -/
structure EncodingFault where
  encoding : String
  /-- The position of the first of the bytes. -/
  first : Nat
  /-- The bytes themselves. -/
  bytes : List UInt8
  reason : String
  deriving DecidableEq, Repr

def EncodingFault.message (f : EncodingFault) : String :=
  "'" ++ f.encoding ++ "' codec can't decode " ++
    (match f.bytes with
      | [byte] => "byte 0x" ++ String.ofList (hex 2 byte.toNat) ++ " in position " ++
        toString f.first
      | bytes => "bytes in position " ++ toString f.first ++ "-" ++
        toString (f.first + bytes.length - 1)) ++
    ": " ++ f.reason

abbrev Decoded := Except EncodingFault

/-- The character that stands for a half of one. -/
def replacement : Char := Char.ofNat 0xFFFD

/-- The character with a number, where there is one. -/
def charOf (code : Nat) : Char := if code.isValidChar then Char.ofNat code else replacement

namespace Utf8

/-- A range of bytes. -/
abbrev Range := Nat × Nat

/-- The bytes that may stand inside a character. -/
def inner : Range := (0x80, 0xBF)

/-- The ranges of the bytes that follow the first one of a character; `halves` lets halves of
characters through. -/
def following? (halves : Bool) (first : Nat) : Option (List Range) :=
  if first < 0x80 then some []
  else if first < 0xC2 then none
  else if first < 0xE0 then some [inner]
  else if first = 0xE0 then some [(0xA0, 0xBF), inner]
  else if first = 0xED ∧ !halves then some [(0x80, 0x9F), inner]
  else if first < 0xF0 then some [inner, inner]
  else if first = 0xF0 then some [(0x90, 0xBF), inner, inner]
  else if first < 0xF4 then some [inner, inner, inner]
  else if first = 0xF4 then some [(0x80, 0x8F), inner, inner]
  else none

/-- The bits of a first byte that belong to the number of its character. -/
def payload (first : Nat) : Nat :=
  if first < 0x80 then first
  else if first < 0xE0 then first % 32
  else if first < 0xF0 then first % 16
  else first % 8

/-- A character that is begun: its number so far, its bytes, last first, and the ranges of those
that are missing. -/
structure Begun where
  code : Nat := 0
  bytes : List UInt8 := []
  missing : List Range := []

/-- The fault of a character that does not go on at a position. Of what would have become a half
of a character the second byte is the one that cannot be there. -/
def Begun.fault (begun : Begun) (position : Nat) (reason : String) : EncodingFault :=
  match begun.bytes with
  | [second, first] =>
    if first = 0xED ∧ 0xA0 ≤ second then
      ⟨"utf-8", position - 2, [first], "invalid continuation byte"⟩
    else ⟨"utf-8", position - 2, [first, second], reason⟩
  | bytes => ⟨"utf-8", position - bytes.length, bytes.reverse, reason⟩

/-- The characters from a position on, after those read, the last of them first. -/
def charsFrom (halves : Bool) (position : Nat) (begun : Begun) (read : List Char) :
    List UInt8 → Decoded (List Char)
  | [] =>
    if begun.missing.isEmpty then .ok read.reverse
    else .error (begun.fault position "unexpected end of data")
  | byte :: rest =>
    let n := byte.toNat
    match begun.missing with
    | [] =>
      match following? halves n with
      | none => .error ⟨"utf-8", position, [byte], "invalid start byte"⟩
      | some [] => charsFrom halves (position + 1) {} (charOf n :: read) rest
      | some ranges => charsFrom halves (position + 1) ⟨payload n, [byte], ranges⟩ read rest
    | (least, most) :: ranges =>
      if least ≤ n ∧ n ≤ most then
        let code := begun.code * 64 + n % 64
        if ranges.isEmpty then charsFrom halves (position + 1) {} (charOf code :: read) rest
        else charsFrom halves (position + 1) ⟨code, byte :: begun.bytes, ranges⟩ read rest
      else .error (begun.fault position "invalid continuation byte")

/-- The text that bytes are. -/
def decode (bytes : List UInt8) : Decoded (List Char) := charsFrom false 0 {} [] bytes

end Utf8

/-- How texts are written in units of one, two or four bytes. -/
inductive Encoding where
  | utf8
  | utf16 (highFirst : Bool)
  | utf32 (highFirst : Bool)
  deriving DecidableEq, Repr

namespace Encoding

def name : Encoding → String
  | .utf8 => "utf-8"
  | .utf16 highFirst => if highFirst then "utf-16-be" else "utf-16-le"
  | .utf32 highFirst => if highFirst then "utf-32-be" else "utf-32-le"

/-- The number that the bytes of a unit make. -/
def unit (highFirst : Bool) (bytes : List UInt8) : Nat :=
  (if highFirst then bytes else bytes.reverse).foldl (fun n byte => n * 256 + byte.toNat) 0

/-- The units of so many bytes each from a position on. Bytes left over are a fault, and so is a
unit beyond the last character. -/
def units (e : Encoding) (width : Nat) (highFirst : Bool) : Nat → Nat → List UInt8 →
    Decoded (List Nat)
  | 0, _, _ => .ok []
  | _ + 1, _, [] => .ok []
  | fuel + 1, position, bytes =>
    let front := bytes.take width
    let code := unit highFirst front
    if front.length < width then .error ⟨e.name, position, front, "truncated data"⟩
    else if 0x110000 ≤ code then
      .error ⟨e.name, position, front, "code point not in range(0x110000)"⟩
    else do return code :: (← units e width highFirst fuel (position + width) (bytes.drop width))

/-- The characters of units of two bytes. -/
def pairs : List Nat → List Char
  | high :: low :: rest =>
    if 0xD800 ≤ high ∧ high < 0xDC00 ∧ 0xDC00 ≤ low ∧ low < 0xE000 then
      charOf (0x10000 + (high - 0xD800) * 0x400 + (low - 0xDC00)) :: pairs rest
    else charOf high :: pairs (low :: rest)
  | [unit] => [charOf unit]
  | [] => []

/-- The text of bytes from a position on, where a half of a character may stand alone. -/
def decodeFrom (e : Encoding) (position : Nat) (bytes : List UInt8) : Decoded (List Char) :=
  match e with
  | .utf8 => Utf8.charsFrom true 0 {} [] bytes
  | .utf16 highFirst => (units e 2 highFirst bytes.length position bytes).map pairs
  | .utf32 highFirst => (units e 4 highFirst bytes.length position bytes).map (·.map charOf)

/-- The marks of the encodings at the start of a text. -/
def marks : List (List UInt8 × Encoding) := [
  ([0x00, 0x00, 0xFE, 0xFF], .utf32 true), ([0xFF, 0xFE, 0x00, 0x00], .utf32 false),
  ([0xFE, 0xFF], .utf16 true), ([0xFF, 0xFE], .utf16 false), ([0xEF, 0xBB, 0xBF], .utf8)]

/-- The encoding of a text without a mark that starts with a character of ASCII, told by the
zeros among the first bytes. -/
def guess : List UInt8 → Encoding
  | 0 :: 0 :: _ :: _ :: _ => .utf32 true
  | 0 :: _ :: _ :: _ :: _ => .utf16 true
  | _ :: 0 :: 0 :: 0 :: _ => .utf32 false
  | _ :: 0 :: _ :: _ :: _ => .utf16 false
  | [0, _] => .utf16 true
  | [_, 0] => .utf16 false
  | _ => .utf8

/-- The text that bytes are, whatever the encoding. -/
def decode (bytes : List UInt8) : Decoded (List Char) :=
  match marks.find? fun mark => mark.1.isPrefixOf bytes with
  | some (mark, e) => e.decodeFrom mark.length (bytes.drop mark.length)
  | none => (guess bytes).decodeFrom 0 bytes

end Encoding

end QueryCache.Text
