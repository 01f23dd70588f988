import QueryCache.Codec.Bytes
import QueryCache.Value.Basic

/-! The size of a value, whatever form it is stored in.

A value is measured as a program that builds it on a stack: each part takes an instruction with
what it needs, and collections one more where their parts are put in. What may stand in more
than one place, such as the names of fields and short texts, is built once, and costs little
after that. Programs are cut into frames with a header each, and large texts stand between
frames. -/

set_option autoImplicit false

namespace QueryCache.Footprint

/-- A unit that types and functions are in. -/
inductive Home where
  | objects
  | calendar
  | requests
  | results
  | path (text : String)
  deriving DecidableEq

/-- The length of a unit's path. -/
def Home.size : Home → Nat
  | .objects => 5
  | .calendar => 8
  | .requests => 27
  | .results => 22
  | .path text => text.utf8ByteSize

/-- A type or a function that values are made with. -/
inductive Maker where
  | object
  | date
  | dateTime
  | span
  | zone
  | operator
  | names
  | page
  | pagination
  | function (path name : String)
  deriving DecidableEq

def Maker.home : Maker → Home
  | .object => .objects
  | .date | .dateTime | .span | .zone => .calendar
  | .operator => .requests
  | .names | .page | .pagination => .results
  | .function path _ => .path path

/-- The length of a maker's name in its unit. -/
def Maker.size : Maker → Nat
  | .object => 15
  | .date | .page => 4
  | .dateTime | .zone | .operator => 8
  | .span => 9
  | .names | .pagination => 14
  | .function _ name => name.utf8ByteSize

/-- A part of what is kept of an object that has defaults. -/
inductive Slot where
  | fields
  | extra
  | given
  | hidden
  deriving DecidableEq

/-- The length of a slot's name. -/
def Slot.size : Slot → Nat
  | .fields => 8
  | .extra => 18
  | .given => 23
  | .hidden => 20

/-- What is built once. -/
inductive Shared where
  /-- A field of a mapping or an object that is given. -/
  | name (text : String)
  /-- A text of one character, or none. -/
  | short (text : String)
  /-- A field of a type that the library has. -/
  | own (text : String)
  | slot (part : Slot)
  | bytes (b : Bytes)
  | home (unit : Home)
  | maker (maker : Maker)
  | operator (op : Operator)
  | universalTime
  deriving DecidableEq

structure Tally where
  /-- The bytes of the frames that are complete, and between them. -/
  closed : Nat := 0
  /-- The bytes of the frame under way. -/
  current : Nat := 0
  /-- How many parts can be asked for again. -/
  built : Nat := 0
  /-- The numbers of the shared parts. -/
  shared : List (Shared × Nat) := []

abbrev Counter := StateM Tally Unit

/-- The bytes of a frame from which it is closed, and of a text that is large. -/
def largeSize : Nat := 65536

/-- The header of a frame, which very short ones do without. -/
def frameHeader (size : Nat) : Nat := if size < 4 then 0 else 9

def closeFrame : Counter := modify fun t =>
  { t with closed := t.closed + t.current + frameHeader t.current, current := 0 }

/-- An instruction of so many bytes. -/
def take (size : Nat) : Counter := modify fun t => { t with current := t.current + size }

/-- The part just built can be asked for again. -/
def note : Counter := modify fun t => { t with current := t.current + 1, built := t.built + 1 }

/-- A new part begins. -/
def begin : Counter := do
  if largeSize ≤ (← get).current then closeFrame

/-- The bytes that a number below a bound takes in an instruction. -/
def indexSize (n : Nat) : Nat := if n < 256 then 1 else 4

/-- A part that is built once. -/
def share (part : Shared) (build : Counter) : Counter := do
  begin
  match (← get).shared.lookup part with
  | some index => take (1 + indexSize index)
  | none =>
    build
    modify fun t => { t with shared := (part, t.built - 1) :: t.shared }

/-- Bytes behind their count. -/
def blob (size : Nat) : Counter := do
  let header := 1 + indexSize size
  if size < largeSize then take (header + size)
  else
    closeFrame
    modify fun t => { t with closed := t.closed + header + size }
  note

def text (s : String) : Counter := blob s.utf8ByteSize

/-- Whether a text is one that is built once wherever it stands. -/
def isShort (s : String) : Bool :=
  match s.toList with
  | [] => true
  | [c] => c.toNat < 256
  | _ => false

def name (s : String) : Counter :=
  share (if isShort s then .short s else .name s) (text s)

def own (s : String) : Counter := share (.own s) (text s)

def slot (part : Slot) : Counter := share (.slot part) (blob part.size)

/-- A type or a function by the unit it is in and its name. -/
def maker (m : Maker) : Counter :=
  share (.maker m) do
    share (.home m.home) (blob m.home.size)
    begin
    blob m.size
    take 1
    note

/-- The bytes of an integer in two's complement. -/
def wordSize (n : Int) : Nat :=
  let magnitude := if n < 0 then (-n - 1).toNat else n.toNat
  (if magnitude = 0 then 0 else Nat.log2 magnitude + 1) / 8 + 1

def int (n : Int) : Counter :=
  if 0 ≤ n ∧ n < 256 then take 2
  else if 0 ≤ n ∧ n < 65536 then take 3
  else if -2147483648 ≤ n ∧ n ≤ 2147483647 then take 5
  else
    let size := wordSize n
    take (1 + indexSize size + size)

/-- Integers, as the parts of a tuple. -/
def ints (numbers : List Int) : Counter := numbers.forM fun n => do begin; int n

/-- Parts that are put together; more than three need a mark before them. -/
def tuple (count : Nat) (parts : Counter) : Counter := do
  if 3 < count then take 1
  parts
  take 1
  note

/-- Parts that are put into a collection, by the thousand and with a mark before each batch.
Where one part `alone` is put in without a mark, the collection's size is known; otherwise a
last batch may be empty. -/
def collection (alone : Bool) (count : Nat) (parts : Counter) : Counter := do
  take 1
  note
  let single := alone && count = 1
  let batches :=
    if count = 0 || single then 0 else if alone then (count + 999) / 1000 else count / 1000 + 1
  take batches
  parts
  take (if single then 1 else batches)

/-- A value that a type makes of parts, given the tuple of them. -/
def made (m : Maker) (parts : Counter) : Counter := do
  maker m
  begin
  parts
  take 1
  note

/-- A span of time by its days, seconds and millionths. -/
def span (micros : Int) : Counter :=
  let seconds := Int.fdiv micros 1000000
  made .span <| tuple 3 <|
    ints [Int.fdiv seconds 86400, Int.fmod seconds 86400, Int.fmod micros 1000000]

def zone (offset : Int) : Counter :=
  let build := made .zone <| tuple 1 do
    begin
    span offset
  if offset = 0 then share .universalTime build else do begin; build

def dateTime (t : DateTime) : Counter :=
  made .dateTime <| tuple (if t.offset.isSome then 2 else 1) do
    begin
    blob 10
    t.offset.forM zone

/-- An object that a type makes of nothing, before its fields are set. -/
def emptyOf (m : Maker) : Counter := do
  maker m
  take 2
  note

/-- The parts of a mapping, which are put in like those of a set unless there is one only. -/
def mapping (count : Nat) (parts : Counter) : Counter := collection (count = 1) count parts

/-- Named texts, those that are as they are by default being built once. -/
def names (given : ParamNames) : Counter := do
  let fields := given.fields.zip (ParamNames.fields {})
  let changed := (fields.filter fun (field, default) => field.2 != default.2).map (·.1.1)
  emptyOf .names
  begin
  mapping 4 do
    slot .fields
    mapping fields.length <| fields.forM fun (field, default) => do
      own field.1
      if field.2 = default.2 then own field.2 else do begin; text field.2
    slot .extra
    take 1
    slot .given
    collection false changed.length (changed.forM own)
    slot .hidden
    take 1
  take 1

def pagination (p : Pagination) : Counter := do
  emptyOf .pagination
  mapping 4 do
    own "page"
    int p.page
    own "page_size"
    int p.pageSize
    own "total_items"
    p.totalItems.elim (take 1) int
    own "total_pages"
    p.totalPages.elim (take 1) int
  take 1

/-- A function by its path. -/
def function (path : String) : Counter :=
  match (path.splitOn ".").reverse with
  | last :: before => maker (.function (".".intercalate before.reverse) last)
  | [] => maker (.function "" "")

mutual

/-- A value in place. -/
def value : Value → Counter
  | .null | .bool _ => do begin; take 1
  | .int n => do begin; int n
  | .float _ | .nan _ => do begin; take 9
  | .str s => if isShort s then share (.short s) (text s) else do begin; text s
  | .bytes b => if b.length ≤ 1 then share (.bytes b) (blob b.length) else do begin; blob b.length
  | .date _ => do
    begin
    made .date <| tuple 1 do begin; blob 4
  | .dateTime t => do begin; dateTime t
  | .list items => do begin; collection true items.length (values items)
  | .tuple items => do
    begin
    if items.isEmpty then take 1 else tuple items.length (values items)
  | .set items => do begin; collection false items.length (values items)
  | .dict entries => do begin; mapping entries.length (fields entries)
  | .object attributes => do
    begin
    emptyOf .object
    begin
    mapping attributes.length (fields attributes)
    take 1
  | .page items p => do
    begin
    emptyOf .page
    begin
    mapping 2 do
      own "items"
      begin
      collection true items.length (values items)
      own "pagination"
      pagination p
    take 1
  | .operator op =>
    share (.operator op) (made .operator <| tuple 1 do
      begin
      text op.code)
  | .names given => do begin; names given
  | .function path => function path
  | .foreign _ _ => pure ()

def values : List Value → Counter
  | [] => pure ()
  | item :: rest => do
    value item
    values rest

def fields : List (String × Value) → Counter
  | [] => pure ()
  | (field, item) :: rest => do
    name field
    value item
    fields rest

end

/-- The bytes of a whole program: its mark, its frames and its last instruction. -/
def ofValue (v : Value) : Nat :=
  let program : Counter := do
    value v
    take 1
    closeFrame
  2 + ((program.run {}).2).closed

end QueryCache.Footprint
