import QueryCache.Decimal.Power
import QueryCache.Text.Encoding

/-! Numbers, texts and counted sequences as bytes.

A variable-length number is written in groups of seven bits, the lowest first, every byte but
the last with its high bit set. A reader takes bytes from the front and says why it cannot. -/

set_option autoImplicit false

namespace QueryCache

abbrev Bytes := List UInt8

namespace Bytes

/-- A number in groups of seven bits. -/
def ofNat (n : Nat) : Bytes :=
  if n < 128 then [n.toUInt8] else (n % 128 + 128).toUInt8 :: ofNat (n / 128)
termination_by n
decreasing_by omega

/-- The lowest `width` bytes of a number, the highest of them first. -/
def bigEndian : Nat → Nat → Bytes
  | 0, _ => []
  | width + 1, n => bigEndian width (n / 256) ++ [(n % 256).toUInt8]

/-- The number whose bytes these are, the highest first. -/
def toNat (bytes : Bytes) : Nat :=
  bytes.foldl (fun total byte => total * 256 + byte.toNat) 0

/-- The bytes as lower-case hexadecimal digits, two each. -/
def hex (bytes : Bytes) : String :=
  String.ofList (bytes.flatMap fun byte => Text.hex 2 byte.toNat)

/-- The bytes that pairs of hexadecimal digits write. -/
def ofHex : List Char → Bytes
  | high :: low :: rest => (digit high * 16 + digit low).toUInt8 :: ofHex rest
  | _ => []
where
  digit (c : Char) : Nat := if c.isDigit then c.toNat - 48 else c.toLower.toNat - 87

/-- The bytes of a text. -/
def ofString (s : String) : Bytes := s.toUTF8.toList

end Bytes

/-- A step from a value to one of its parts. -/
inductive PartStep where
  | item (index : Nat)
  /-- To the value of an entry. -/
  | entry
  | key
  deriving DecidableEq, Repr

/-- Why bytes are no encoded value. -/
inductive Malformed where
  | truncated
  /-- A byte that begins no value, and how many bytes follow it. -/
  | unknownMark (mark : UInt8) (after : Nat)
  /-- An entry whose key cannot be one, and how many bytes follow it. -/
  | unusableKey (after : Nat)
  /-- Bytes are left over after the value. -/
  | trailing (count : Nat)
  | invalidText (fault : Text.EncodingFault)
  /-- A part that is no time, and the way to it. -/
  | invalidTime (reason : String) (path : List PartStep)
  | invalidYear (year : Nat)
  | tooDeep
  deriving DecidableEq, Repr

/-- Takes bytes from the front. -/
abbrev Reader := StateT Bytes (Except Malformed)

namespace Reader

def byte : Reader UInt8 := fun
  | [] => .error .truncated
  | first :: rest => .ok (first, rest)

/-- Exactly `count` bytes. -/
def take (count : Nat) : Reader Bytes := fun bytes =>
  let front := bytes.take count
  if front.length = count then .ok (front, bytes.drop count) else .error .truncated

/-- A number of `width` bytes, the highest first. -/
def unsigned (width : Nat) : Reader Nat := do
  return (← take width).toNat

/-- A number of `width` bytes in two's complement. -/
def signed (width : Nat) : Reader Int := do
  let n ← unsigned width
  return if n < power 2 (8 * width - 1) then n else (n : Int) - (power 2 (8 * width) : Nat)

/-- A text of `count` bytes. -/
def text (count : Nat) : Reader String := do
  match Text.Utf8.decode (← take count) with
  | .ok chars => return String.ofList chars
  | .error fault => throw (.invalidText fault)

/-- A number in groups of seven bits. -/
def natFrom : Bytes → Except Malformed (Nat × Bytes)
  | [] => .error .truncated
  | first :: rest =>
    if first.toNat < 128 then .ok (first.toNat, rest)
    else do
      let (high, after) ← natFrom rest
      return (first.toNat - 128 + 128 * high, after)

def nat : Reader Nat := natFrom

/-- The same reader `count` times. -/
def repeated {α : Type} (reader : Reader α) : Nat → Reader (List α)
  | 0 => return []
  | count + 1 => do
    let item ← reader
    return item :: (← repeated reader count)

/-- A reader of a part. -/
def within {α : Type} (step : PartStep) (reader : Reader α) : Reader α := fun bytes =>
  (reader.run bytes).mapError fun
    | .invalidTime reason path => .invalidTime reason (step :: path)
    | cause => cause

/-- The same reader for the items from `index` on, `count` times. -/
def itemsFrom {α : Type} (reader : Reader α) (index : Nat) : Nat → Reader (List α)
  | 0 => return []
  | count + 1 => do
    let item ← within (.item index) reader
    return item :: (← itemsFrom reader (index + 1) count)

/-- Reads all the bytes. -/
def whole {α : Type} (reader : Reader α) (bytes : Bytes) : Except Malformed α := do
  match ← reader.run bytes with
  | (value, []) => return value
  | (_, rest) => throw (.trailing rest.length)

end Reader

end QueryCache
