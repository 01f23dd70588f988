import QueryCache.Codec.Bytes
import QueryCache.Failure
import QueryCache.Value.Compare

/-! MessagePack.

Every number, text and sequence is written in the smallest form that holds it. A time with an
offset is written as a timestamp, days and other times as text, sets and tuples as sequences,
and an operator as its code. What is read back holds sequences and texts only. -/

set_option autoImplicit false

namespace QueryCache

namespace Date

/-- The days before the first of January 1970, which has the next number. -/
def daysBefore1970 : Nat := 719162

/-- The day with a number, in cycles of 400, 100, 4 and 1 years. -/
def ofOrdinal? (ordinal : Nat) : Option Date :=
  let day := ordinal - 1
  let (cycles, day) := (day / 146097, day % 146097)
  let centuries := min 3 (day / 36524)
  let day := day - centuries * 36524
  let (quads, day) := (day / 1461, day % 1461)
  let years := min 3 (day / 365)
  if ordinal = 0 then none
  else ofYearDay? (400 * cycles + 100 * centuries + 4 * quads + years + 1) (day - years * 365)

end Date

namespace DateTime

/-- Microseconds from the first of January 1970 to the instant. -/
def epochMicros (t : DateTime) : Int :=
  t.instant - (Date.daysBefore1970 + 1) * microsPerDay

/-- The time, at offset zero, so many microseconds from the first of January 1970. -/
def ofEpochMicros? (micros : Int) : Option DateTime := do
  let total := micros + (Date.daysBefore1970 + 1) * microsPerDay
  if total < 0 then failure
  let date ← Date.ofOrdinal? (total / microsPerDay).toNat
  let clock := (total % microsPerDay).toNat
  let seconds := clock / 1000000
  return ⟨date, seconds / 3600, seconds / 60 % 60, seconds % 60, clock % 1000000, some 0⟩

end DateTime

namespace MessagePack

/-- A number under the smallest of its marks: one that holds up to `short` in its own low
bits, else one for each width. Beyond the widest there is none. -/
def header? (mark : Nat) (short : Nat) (wide : List (Nat × Nat)) (n : Nat) : Option Bytes :=
  if n < short then some [(mark + n).toUInt8]
  else
    (wide.find? fun form => n < power 2 (8 * form.2)).map fun form =>
      form.1.toUInt8 :: Bytes.bigEndian form.2 n

/-- The length of something under its mark, where it has one. -/
def sized (kind : String) (header : Option Bytes) : Except Failure Bytes :=
  match header with
  | some bytes => .ok bytes
  | none => .error (.invalid ("Can't encode " ++ kind ++ " longer than 2**32 - 1"))

def textHeader (n : Nat) : Except Failure Bytes :=
  sized "strings" (header? 0xA0 32 [(0xD9, 1), (0xDA, 2), (0xDB, 4)] n)

def bytesHeader (n : Nat) : Except Failure Bytes :=
  sized "bytes-like objects" (header? 0 0 [(0xC4, 1), (0xC5, 2), (0xC6, 4)] n)

def sequenceHeader (n : Nat) : Except Failure Bytes :=
  sized "arrays" (header? 0x90 16 [(0xDC, 2), (0xDD, 4)] n)

def mappingHeader (n : Nat) : Except Failure Bytes :=
  sized "maps" (header? 0x80 16 [(0xDE, 2), (0xDF, 4)] n)

def text (s : String) : Except Failure Bytes := do
  let bytes := Bytes.ofString s
  return (← textHeader bytes.length) ++ bytes

/-- A sequence of items that are written already. -/
def sequence (items : List Bytes) : Except Failure Bytes := do
  return (← sequenceHeader items.length) ++ items.flatten

/-- Entries whose values are written already, one after the other. -/
def entries : List (String × Bytes) → Except Failure Bytes
  | [] => .ok []
  | (name, value) :: rest => do return (← text name) ++ value ++ (← entries rest)

/-- A mapping of such entries. -/
def mapping (fields : List (String × Bytes)) : Except Failure Bytes := do
  return (← mappingHeader fields.length) ++ (← entries fields)

/-- An integer in its smallest form; beyond 64 bits there is none. -/
def int? (n : Int) : Option Bytes :=
  if 0 ≤ n then header? 0 128 [(0xCC, 1), (0xCD, 2), (0xCE, 4), (0xCF, 8)] n.toNat
  else
    let form (mark width : Nat) : Option Bytes :=
      some (mark.toUInt8 :: Bytes.bigEndian width (n + (power 2 (8 * width) : Nat)).toNat)
    if -32 ≤ n then some [(n + 256).toNat.toUInt8]
    else if -(power 2 7) ≤ n then form 0xD0 1
    else if -(power 2 15) ≤ n then form 0xD1 2
    else if -(power 2 31) ≤ n then form 0xD2 4
    else if -(power 2 63) ≤ n then form 0xD3 8
    else none

/-- An instant in the smallest of the three timestamp forms. -/
def timestamp (t : DateTime) : Bytes :=
  let micros := t.epochMicros
  let seconds := micros / 1000000
  let nanos := (micros % 1000000).toNat * 1000
  if 0 ≤ seconds ∧ seconds < power 2 34 then
    if nanos = 0 ∧ seconds < power 2 32 then 0xD6 :: 0xFF :: Bytes.bigEndian 4 seconds.toNat
    else 0xD7 :: 0xFF :: Bytes.bigEndian 8 (nanos * power 2 34 + seconds.toNat)
  else
    0xC7 :: 12 :: 0xFF :: Bytes.bigEndian 4 nanos ++
      Bytes.bigEndian 8 (seconds % (power 2 64 : Nat)).toNat

/-- The items of a set in their order, where they have one. -/
def orderedItems (items : List Value) : List Value :=
  if items.all fun a => items.all fun b => (a.ordered? .lt b).isSome then
    items.mergeSort fun a b => (a.ordered? .lte b).getD false
  else items

def countOf (n : Option Int) : Except Failure Bytes :=
  match n with
  | none => .ok [0xC0]
  | some n =>
    match int? n with
    | some bytes => .ok bytes
    | none => .error (.overflow "can't serialize ints < -2**63 or > 2**64 - 1")

/-- A time under its mark; an instant of no year from 1 to 9999 has none. -/
def time (t : DateTime) : Except Failure Bytes :=
  if t.offset.isNone then text t.text
  else if (DateTime.ofEpochMicros? t.epochMicros).isSome then .ok (timestamp t)
  else .error (.overflow "date value out of range")

mutual

/-- A value, however deep. -/
def write : Value → Except Failure Bytes
  | .null => .ok [0xC0]
  | .bool b => .ok [if b then 0xC3 else 0xC2]
  | .int n => countOf (some n)
  | .float x => .ok (0xCB :: Bytes.bigEndian 8 x.toBits)
  | .nan _ => .ok (0xCB :: Bytes.bigEndian 8 Binary64.nan.toBits)
  | .str s => text s
  | .bytes b => (bytesHeader b.length).map (· ++ b)
  | .date d => text d.text
  | .dateTime t => time t
  | .list items | .tuple items => do sequence (← writeAll items)
  | .set items => do
    let kept := items.zip (← writeAll items)
    sequence <| (orderedItems items).filterMap fun item =>
      (kept.find? fun other => other.1.same item).map (·.2)
  | .dict fields => do mapping (← writeFields fields)
  | .page items p => do
    let items ← sequence (← writeAll items)
    let counts ← mapping [("page", ← countOf (some p.page)), ("page_size", ← countOf (some p.pageSize)),
      ("total_items", ← countOf p.totalItems), ("total_pages", ← countOf p.totalPages)]
    mapping [("items", items), ("pagination", counts)]
  | .operator op => text op.code
  | other => .error (.wrongType
      ("Encoding objects of type " ++ other.typeName ++ " is unsupported"))

def writeAll : List Value → Except Failure (List Bytes)
  | [] => .ok []
  | item :: rest => do return (← write item) :: (← writeAll rest)

def writeFields : List (String × Value) → Except Failure (List (String × Bytes))
  | [] => .ok []
  | (name, value) :: rest => do return (name, ← write value) :: (← writeFields rest)

end

mutual

/-- The levels of sequences and mappings that a value is written in. -/
def levels : Value → Nat
  | .list items | .tuple items | .set items => levelsAll items + 1
  | .dict fields => levelsFields fields + 1
  | .page items _ => levelsAll items + 2
  | _ => 0

def levelsAll : List Value → Nat
  | [] => 0
  | item :: rest => max (levels item) (levelsAll rest)

def levelsFields : List (String × Value) → Nat
  | [] => 0
  | (_, value) :: rest => max (levels value) (levelsFields rest)

end

/-- A value with no more levels than can be read. -/
def encode (value : Value) : Except Failure Bytes := do
  let bytes ← write value
  if Value.deepest < levels value then throw (.tooDeep "serializing an object")
  return bytes

/-- The first second of year 1, and the one after year 9999, counted from 1970. -/
def firstSecond : Int := -62135596800

def endSecond : Int := 253402300800

/-- Nanoseconds and seconds of a timestamp. -/
def timeParts? (payload : Bytes) : Option (Nat × Int) :=
  match payload.length with
  | 4 => some (0, payload.toNat)
  | 8 => some (payload.toNat / power 2 34, (payload.toNat % power 2 34 : Nat))
  | 12 =>
    let high := Bytes.toNat (payload.drop 4)
    some (Bytes.toNat (payload.take 4),
      if high < power 2 63 then high else (high : Int) - (power 2 64 : Nat))
  | _ => none

/-- The instant of a timestamp, to the nearest microsecond. -/
def timeOf (payload : Bytes) : Reader Value := do
  match timeParts? payload with
  | none => throw (.invalidTime "Invalid MessagePack timestamp" [])
  | some (nanos, seconds) =>
    if 1000000000 ≤ nanos then
      throw (.invalidTime "Invalid MessagePack timestamp: nanoseconds out of range" [])
    if seconds < firstSecond ∨ endSecond < seconds then
      throw (.invalidTime "Timestamp is out of range" [])
    match DateTime.ofEpochMicros? (seconds * 1000000 + (nanos + 500) / 1000) with
    | some t => return .dateTime t
    | none => throw (.invalidYear 10000)

/-- An extension of `count` bytes; only timestamps are known. -/
def extension (count : Nat) : Reader Value := do
  let code ← Reader.byte
  let payload ← Reader.take count
  if code = 0xFF then timeOf payload else return .foreign "Ext" 0

/-- Sets the value of a key; of keys that are the same the first stays. -/
def setEntry : List (Value × Value) → Value → Value → List (Value × Value)
  | [], key, value => [(key, value)]
  | (other, old) :: rest, key, value =>
    if other.same key then (other, value) :: rest else (other, old) :: setEntry rest key value

/-- Entries set one after the other. -/
def merged (entries : List (Value × Value)) : List (Value × Value) :=
  entries.foldl (fun merged entry => setEntry merged entry.1 entry.2) []

/-- The mapping of some entries; a key is known by its text. -/
def mappingOf (entries : List (Value × Value)) : Value :=
  .dict (Record.setAll [] ((merged entries).map fun entry => (entry.1.text, entry.2)))

/-- A single-precision number as a double-precision one. -/
def single (bits : Nat) : Binary64 :=
  let negative := bits / power 2 31 % 2 == 1
  let biased := bits / power 2 23 % power 2 8
  let fraction := bits % power 2 23
  if biased = 255 then
    if fraction = 0 then .infinite negative else .nan
  else if biased = 0 then .finite negative (fraction * power 2 925)
  else .finite negative ((power 2 23 + fraction) * power 2 (924 + biased))

mutual

/-- Whether a value that was read can be the key of an entry. -/
def isKey : Value → Bool
  | .foreign _ _ => false
  | .tuple items => areKeys items
  | value => value.hashable

def areKeys : List Value → Bool
  | [] => true
  | item :: rest => isKey item && areKeys rest

end

/-- An entry, given the readers of its key and its value. -/
def entry (readKey readValue : Reader Value) : Reader (Value × Value) := do
  let key ← Reader.within .key readKey
  let value ← Reader.within .entry readValue
  if isKey key then return (key, value) else throw (.unusableKey (← get).length)

/-- One value with at most `depth` levels of sequences and mappings. The sequences of a key are
tuples. -/
def value (depth : Nat) (asKey : Bool) : Reader Value := do
  let mark ← Reader.byte
  let sequence (count : Nat) : Reader Value := do
    match depth with
    | 0 => throw .tooDeep
    | depth + 1 =>
      let items ← Reader.itemsFrom (value depth asKey) 0 count
      return if asKey then .tuple items else .list items
  let mapping (count : Nat) : Reader Value := do
    match depth with
    | 0 => throw .tooDeep
    | depth + 1 =>
      return mappingOf (← Reader.repeated (entry (value depth true) (value depth false)) count)
  let text (count : Nat) : Reader Value := do return .str (← Reader.text count)
  let n := mark.toNat
  if n < 0x80 then return .int n
  else if n < 0x90 then mapping (n - 0x80)
  else if n < 0xA0 then sequence (n - 0x90)
  else if n < 0xC0 then text (n - 0xA0)
  else if 0xE0 ≤ n then return .int ((n : Int) - 256)
  else
    match n with
    | 0xC0 => return .null
    | 0xC2 => return .bool false
    | 0xC3 => return .bool true
    | 0xC4 => return .bytes (← Reader.take (← Reader.unsigned 1))
    | 0xC5 => return .bytes (← Reader.take (← Reader.unsigned 2))
    | 0xC6 => return .bytes (← Reader.take (← Reader.unsigned 4))
    | 0xC7 => extension (← Reader.unsigned 1)
    | 0xC8 => extension (← Reader.unsigned 2)
    | 0xC9 => extension (← Reader.unsigned 4)
    | 0xCA => return .float (single (← Reader.unsigned 4))
    | 0xCB => return .float (Binary64.ofBits (← Reader.unsigned 8))
    | 0xCC => return .int (← Reader.unsigned 1)
    | 0xCD => return .int (← Reader.unsigned 2)
    | 0xCE => return .int (← Reader.unsigned 4)
    | 0xCF => return .int (← Reader.unsigned 8)
    | 0xD0 => return .int (← Reader.signed 1)
    | 0xD1 => return .int (← Reader.signed 2)
    | 0xD2 => return .int (← Reader.signed 4)
    | 0xD3 => return .int (← Reader.signed 8)
    | 0xD4 => extension 1
    | 0xD5 => extension 2
    | 0xD6 => extension 4
    | 0xD7 => extension 8
    | 0xD8 => extension 16
    | 0xD9 => text (← Reader.unsigned 1)
    | 0xDA => text (← Reader.unsigned 2)
    | 0xDB => text (← Reader.unsigned 4)
    | 0xDC => sequence (← Reader.unsigned 2)
    | 0xDD => sequence (← Reader.unsigned 4)
    | 0xDE => mapping (← Reader.unsigned 2)
    | 0xDF => mapping (← Reader.unsigned 4)
    | _ => throw (.unknownMark mark (← get).length)

/-- How many entries follow the mark of a mapping. -/
def entryCount? (mark : UInt8) : Option (Reader Nat) :=
  let n := mark.toNat
  if 0x80 ≤ n ∧ n < 0x90 then some (return n - 0x80)
  else
    match n with
    | 0xDE => some (Reader.unsigned 2)
    | 0xDF => some (Reader.unsigned 4)
    | _ => none

/-- One value as it is taken apart: of a mapping the list of its keys, which need not be texts. -/
def opened (depth : Nat) : Reader Value := fun bytes =>
  match depth, bytes.head?.bind entryCount? with
  | depth + 1, some count => (do
      let _ ← Reader.byte
      let entries ← Reader.repeated (entry (value depth true) (value depth false)) (← count)
      return .list ((merged entries).map (·.1)) : Reader Value) bytes
  | depth, _ => value depth false bytes

/-- Where a part stands: the way to it from the whole, or from the key it is in. -/
def place (path : List PartStep) : String :=
  let (part, wholes) := path.foldl (fun (part, wholes) step =>
    match step with
    | .item index => (part ++ "[" ++ toString index ++ "]", wholes)
    | .entry => (part ++ "[...]", wholes)
    | .key => ("key", part :: wholes)) ("$", [])
  " in ".intercalate ((part :: wholes).map fun place => "`" ++ place ++ "`")

/-- Why so many bytes are no value. -/
def failure (size : Nat) : Malformed → Failure
  | .truncated => .malformedPayload "Input data was truncated"
  | .unknownMark mark after =>
    malformed ("invalid opcode '\\x" ++ String.ofList (Text.hex 2 mark.toNat) ++ "'") (after + 1)
  | .unusableKey after => malformed "map keys must be hashable" after
  | .trailing count => malformed "trailing characters" count
  | .invalidText fault => .undecodableText fault
  | .invalidTime reason [] => .invalidPayload reason
  | .invalidTime reason path => .invalidPayload (reason ++ " - at " ++ place path)
  | .invalidYear year => .invalid ("year " ++ toString year ++ " is out of range")
  | .tooDeep => .tooDeep "deserializing an object"
where
  malformed (reason : String) (left : Nat) : Failure :=
    .malformedPayload ("MessagePack data is malformed: " ++ reason ++ " (byte " ++
      toString (size - left) ++ ")")

/-- The value that all of the bytes encode. -/
def decode (bytes : Bytes) : Except Failure Value :=
  (Reader.whole (value Value.deepest false) bytes).mapError (failure bytes.length)

/-- The value that all of the bytes encode, to be taken apart. -/
def decodeOpened (bytes : Bytes) : Except Failure Value :=
  (Reader.whole (opened Value.deepest) bytes).mapError (failure bytes.length)

end MessagePack

end QueryCache
