import QueryCache.Codec.Bytes
import QueryCache.Failure

/-! A binary form that keeps every value as it is, types included.

A value is a mark and its parts; counts and numbers are of variable length, and a count stands
before what it counts. Numbers with a fraction are an odd number and a power of two. -/

set_option autoImplicit false

namespace QueryCache.Exact

/-- The first bytes of every encoded value. -/
def signature : Bytes := [0x51, 0x43, 0x56, 0x01]

def text (s : String) : Bytes :=
  Bytes.ofNat s.toList.length ++ s.toList.flatMap fun c => Bytes.ofNat c.toNat

def int (n : Int) : Bytes :=
  Bytes.ofNat (if n < 0 then 1 else 0) ++ Bytes.ofNat n.natAbs

/-- The power of two in a number, and the odd rest. -/
def splitTwos (n : Nat) : Nat × Nat :=
  if n = 0 ∨ n % 2 = 1 then (0, n)
  else
    let (power, rest) := splitTwos (n / 2)
    (power + 1, rest)
termination_by n
decreasing_by omega

def float : Binary64 → Bytes
  | .nan => [0]
  | .infinite negative => [if negative then 2 else 1]
  | .finite negative units =>
    let (power, rest) := splitTwos units
    (if negative then 4 else 3) :: Bytes.ofNat power ++ Bytes.ofNat rest

def date (d : Date) : Bytes :=
  Bytes.ofNat d.year ++ Bytes.ofNat d.month ++ Bytes.ofNat d.day

def optional (n : Option Int) : Bytes :=
  match n with
  | none => [0]
  | some n => 1 :: int n

def dateTime (t : DateTime) : Bytes :=
  date t.date ++ Bytes.ofNat t.hour ++ Bytes.ofNat t.minute ++ Bytes.ofNat t.second ++
    Bytes.ofNat t.micro ++ optional t.offset

def pagination (p : Pagination) : Bytes :=
  int p.page ++ int p.pageSize ++ optional p.totalItems ++ optional p.totalPages

mutual

/-- The mark and the parts of a value. -/
def ofValue : Value → Except Failure Bytes
  | .null => .ok [0]
  | .bool b => .ok [if b then 2 else 1]
  | .int n => .ok (3 :: int n)
  | .float x => .ok (4 :: float x)
  | .nan _ => .ok (4 :: float .nan)
  | .str s => .ok (5 :: text s)
  | .bytes b => .ok (6 :: Bytes.ofNat b.length ++ b)
  | .date d => .ok (7 :: date d)
  | .dateTime t => .ok (8 :: dateTime t)
  | .list items => (ofValues items).map (9 :: Bytes.ofNat items.length ++ ·)
  | .tuple items => (ofValues items).map (10 :: Bytes.ofNat items.length ++ ·)
  | .set items => (ofValues items).map (11 :: Bytes.ofNat items.length ++ ·)
  | .dict entries => (ofFields entries).map (12 :: Bytes.ofNat entries.length ++ ·)
  | .object fields => (ofFields fields).map (13 :: Bytes.ofNat fields.length ++ ·)
  | .page items p =>
    (ofValues items).map (14 :: pagination p ++ Bytes.ofNat items.length ++ ·)
  | .operator op => .ok (15 :: text op.code)
  | .names given => .ok (16 :: given.fields.flatMap fun field => text field.2)
  | .function path => .ok (17 :: text path)
  | .foreign type _ => .error (.wrongType ("cannot encode " ++ type))

def ofValues : List Value → Except Failure Bytes
  | [] => .ok []
  | item :: rest => do
    let bytes ← ofValue item
    return bytes ++ (← ofValues rest)

def ofFields : List (String × Value) → Except Failure Bytes
  | [] => .ok []
  | (name, value) :: rest => do
    let bytes ← ofValue value
    return text name ++ bytes ++ (← ofFields rest)

end

def readText : Reader String := do
  let codes ← Reader.repeated Reader.nat (← Reader.nat)
  return String.ofList (codes.map Char.ofNat)

def readInt : Reader Int := do
  let negative ← Reader.nat
  let size ← Reader.nat
  return if negative = 1 then -(size : Int) else size

def readFloat : Reader Binary64 := do
  let mark ← Reader.byte
  let units : Reader Nat := do
    let exponent ← Reader.nat
    return (← Reader.nat) * power 2 exponent
  match mark.toNat with
  | 0 => return .nan
  | 1 => return .infinite false
  | 2 => return .infinite true
  | 3 => return .finite false (← units)
  | 4 => return .finite true (← units)
  | _ => throw (.unknownMark mark (← get).length)

def readDate : Reader Date := do
  let year ← Reader.nat
  let month ← Reader.nat
  return ⟨year, month, ← Reader.nat⟩

def readOptional : Reader (Option Int) := do
  if (← Reader.byte) = 0 then return none
  return some (← readInt)

def readDateTime : Reader DateTime := do
  let date ← readDate
  let hour ← Reader.nat
  let minute ← Reader.nat
  let second ← Reader.nat
  let micro ← Reader.nat
  return ⟨date, hour, minute, second, micro, ← readOptional⟩

def readPagination : Reader Pagination := do
  let page ← readInt
  let size ← readInt
  let items ← readOptional
  return ⟨page, size, items, ← readOptional⟩

def readNames : Reader ParamNames := do
  match ← Reader.repeated readText 13 with
  | [search, searchFields, searchJoin, filter, filterJoin, orderBy, sortedBy, includes,
      includesAlias, compare, having, havingJoin, groupBy] =>
    return ⟨search, searchFields, searchJoin, filter, filterJoin, orderBy, sortedBy, includes,
      includesAlias, compare, having, havingJoin, groupBy⟩
  | _ => throw .truncated

def readOperator : Reader Operator := do
  let code ← readText
  match Operator.all.find? (·.code == code) with
  | some op => return op
  | none => throw .truncated

/-- One value, nested no deeper than the fuel says. -/
def readValue : Nat → Reader Value
  | 0 => throw .truncated
  | fuel + 1 => do
    let mark ← Reader.byte
    let items : Reader (List Value) := do
      Reader.repeated (readValue fuel) (← Reader.nat)
    let fields : Reader (List (String × Value)) := do
      Reader.repeated (do
        let name ← readText
        return (name, ← readValue fuel)) (← Reader.nat)
    match mark.toNat with
    | 0 => return .null
    | 1 => return .bool false
    | 2 => return .bool true
    | 3 => return .int (← readInt)
    | 4 => return .float (← readFloat)
    | 5 => return .str (← readText)
    | 6 => return .bytes (← Reader.take (← Reader.nat))
    | 7 => return .date (← readDate)
    | 8 => return .dateTime (← readDateTime)
    | 9 => return .list (← items)
    | 10 => return .tuple (← items)
    | 11 => return .set (← items)
    | 12 => return .dict (← fields)
    | 13 => return .object (← fields)
    | 14 =>
      let p ← readPagination
      return .page (← items) p
    | 15 => return .operator (← readOperator)
    | 16 => return .names (← readNames)
    | 17 => return .function (← readText)
    | _ => throw (.unknownMark mark (← get).length)

def encode (value : Value) : Except Failure Bytes :=
  (ofValue value).map (signature ++ ·)

/-- The bytes below 128 that a payload of another program may begin with; those above are in a
row. -/
def instructions : List Char := "()012.BCFGIJKLMNPQRSTUVX]abcdeghijlopqrstu\x7d".toList

/-- Whether a byte begins an instruction. -/
def isInstruction (b : UInt8) : Bool :=
  (128 ≤ b.toNat && b.toNat ≤ 152) || instructions.any fun c => c.toNat = b.toNat

/-- A byte as a character where it is one that can be seen and is neither a quote nor a
backslash, otherwise by its number. -/
def shown (b : UInt8) : List Char :=
  let c := Char.ofNat b.toNat
  if 32 ≤ b.toNat ∧ b.toNat < 127 ∧ c ≠ '\'' ∧ c ≠ '\\' then [c]
  else '\\' :: 'x' :: Text.hex 2 b.toNat

/-- Why bytes that encode no value do not: there are none, or by the first of them. -/
def fault : Bytes → Failure
  | [] => .emptyPayload
  | b :: _ =>
    .foreignPayload <|
      if isInstruction b then "pickle data was truncated"
      else "invalid load key, '" ++ String.ofList (shown b) ++ "'."

/-- The value that all of the bytes encode. -/
def decode (bytes : Bytes) : Except Failure Value :=
  if bytes.take signature.length = signature then
    let body := bytes.drop signature.length
    (Reader.whole (readValue body.length) body).mapError fun _ => fault bytes
  else .error (fault bytes)

end QueryCache.Exact
