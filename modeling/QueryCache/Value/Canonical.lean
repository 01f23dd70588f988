import QueryCache.Failure
import QueryCache.Key.JsonTree
import QueryCache.Value.Compare

/-! The canonical JSON of a value: the same for mappings and sets whatever their order, with
sequences in theirs. -/

set_option autoImplicit false

namespace QueryCache

/-! ## Base 64 with padding -/

namespace Base64

/-- The character of a six-bit number. -/
def digit (n : Nat) : Char :=
  if n < 26 then Char.ofNat (65 + n)
  else if n < 52 then Char.ofNat (71 + n)
  else if n < 62 then Char.ofNat (n - 4)
  else if n = 62 then '+'
  else '/'

/-- Four characters for each three bytes, the last group padded. -/
def encode : List UInt8 → List Char
  | [] => []
  | [a] =>
    let n := a.toNat * 16
    [digit (n / 64), digit (n % 64), '=', '=']
  | [a, b] =>
    let n := (a.toNat * 256 + b.toNat) * 4
    [digit (n / 4096), digit (n / 64 % 64), digit (n % 64), '=']
  | a :: b :: c :: rest =>
    let n := (a.toNat * 256 + b.toNat) * 256 + c.toNat
    digit (n / 262144) :: digit (n / 4096 % 64) :: digit (n / 64 % 64) :: digit (n % 64) ::
      encode rest

end Base64

/-! ## Values -/

namespace DateTime

/-- The minutes of an offset either way: of whole seconds, rounded to the west, more than half a
minute counts as one. -/
def roundedMinutes (offset : Int) : Nat :=
  let seconds := (Int.fdiv offset microsPerSecond).natAbs
  seconds / 60 + (if 30 < seconds % 60 then 1 else 0)

/-- The hours and minutes of an offset; none, and a whole day, are universal time. -/
def canonicalOffset (offset : Int) : String :=
  let minutes := roundedMinutes offset % 1440
  if minutes = 0 then "Z"
  else
    (if offset < 0 then "-" else "+") ++ Date.padded 2 (minutes / 60) ++ ":" ++
      Date.padded 2 (minutes % 60)

/-- The time with universal time marked by a letter. -/
def canonicalText (t : DateTime) : String :=
  { t with offset := none }.text ++ (t.offset.map canonicalOffset).getD ""

end DateTime

namespace Pagination

def json (p : Pagination) : JsonTree :=
  let count : Option Int → JsonTree := fun n => (n.map JsonTree.int).getD .null
  .object [("page", .int p.page), ("page_size", .int p.pageSize),
    ("total_items", count p.totalItems), ("total_pages", count p.totalPages)]

end Pagination

namespace Value

/-- The fields of a mapping in the order of their names. -/
def sortedFields (fields : List (String × JsonTree)) : List (String × JsonTree) :=
  fields.mergeSort fun a b => a.1 ≤ b.1

/-- Whether any two items have an order. -/
def mutuallyOrdered (items : List Value) : Bool :=
  items.length ≤ 1 || items.all fun a => items.all fun b => (a.ordered? .lt b).isSome

/-- Sorts what stands beside values by the values. -/
def sortBeside {α : Type} (items : List Value) (beside : List α) : List α :=
  ((items.zip beside).mergeSort fun a b => (a.1.ordered? .lte b.1).getD false).map (·.2)

mutual

/-- The canonical JSON of a value. -/
def canonical : Value → Except Failure JsonTree
  | .null => .ok .null
  | .bool b => .ok (.bool b)
  | .int n => .ok (.int n)
  | .float x => .ok (.float x)
  | .nan _ => .ok .null
  | .str s => .ok (.str s)
  | .bytes b => .ok (.str (String.ofList (Base64.encode b)))
  | .date d => .ok (.str d.text)
  | .dateTime t => .ok (.str t.canonicalText)
  | .list items => (canonicals items).map .array
  | .tuple items => (canonicals items).map .array
  | .set items =>
    if mutuallyOrdered items then
      (canonicals items).map fun trees => .array (sortBeside items trees)
    else .error (.wrongType "items of a set without an order")
  | .dict entries => (canonicalFields entries).map fun fields => .object (sortedFields fields)
  | .object _ => .error (.unkeyable "SimpleNamespace")
  | .page items pagination =>
    (canonicals items).map fun items =>
      .object [("items", .array items), ("pagination", pagination.json)]
  | .operator op => .ok (.str op.code)
  | .names given =>
    .ok (.object (sortedFields (given.fields.map fun field => (field.1, .str field.2))))
  | .function path => .ok (.str path)
  | .foreign type _ => .error (.unkeyable type)

def canonicals : List Value → Except Failure (List JsonTree)
  | [] => .ok []
  | item :: rest => do return (← item.canonical) :: (← canonicals rest)

def canonicalFields : List (String × Value) → Except Failure (List (String × JsonTree))
  | [] => .ok []
  | (name, value) :: rest => do return (name, ← value.canonical) :: (← canonicalFields rest)

end

end Value

end QueryCache
