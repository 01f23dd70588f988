import QueryCache.Value.Basic

/-! Equality and order of values.

Numbers and truth values are equal when their exact values are; a list is no tuple and a time
no day. A number that is none equals nothing, itself included; as a part of values it is the
same as itself, so two values are equal when their parts are the same. Order exists between two
numbers, two texts, two byte strings, two days, two times that both have an offset or both have
none, two sequences of one kind, and, as inclusion, between two sets. Everything else has none.
-/

set_option autoImplicit false

namespace QueryCache

namespace DateTime

def equal (s t : DateTime) : Bool :=
  match s.offset, t.offset with
  | none, none => s.localMicros == t.localMicros
  | some _, some _ => s.instant == t.instant
  | _, _ => false

/-- Times with and without an offset have no order. -/
def compare? (s t : DateTime) : Option Ordering :=
  match s.offset, t.offset with
  | none, none => some (compare s.localMicros t.localMicros)
  | some _, some _ => some (compare s.instant t.instant)
  | _, _ => none

end DateTime

/-- The four order comparisons. -/
inductive OrderTest where
  | lt
  | lte
  | gt
  | gte
  deriving DecidableEq, Repr

namespace OrderTest

def holds : OrderTest → Ordering → Bool
  | .lt, o => o == .lt
  | .lte, o => o != .gt
  | .gt, o => o == .gt
  | .gte, o => o != .lt

/-- The test of two exact places. -/
def holdsAt (test : OrderTest) (a b : Extent) : Bool :=
  match test with
  | .lt => a.lt b
  | .lte => a.le b
  | .gt => b.lt a
  | .gte => b.le a

/-- A number that is not a number is in no order. -/
def holdsOf (test : OrderTest) (a b : Number) : Bool :=
  match a.extent?, b.extent? with
  | some x, some y => test.holdsAt x y
  | _, _ => false

end OrderTest

/-- Lexicographic order of byte strings. -/
def compareBytes : List UInt8 → List UInt8 → Ordering
  | [], [] => .eq
  | [], _ :: _ => .lt
  | _ :: _, [] => .gt
  | a :: as, b :: bs => (compare a b).then (compareBytes as bs)

namespace Value

mutual

/-- Whether two parts of values are the same: equal, or the same number that is none. -/
def same : Value → Value → Bool
  | .null, .null => true
  | .nan a, .nan b => a == b
  | .str s, .str t => s == t
  | .bytes a, .bytes b => a == b
  | .date a, .date b => a == b
  | .dateTime s, .dateTime t => s.equal t
  | .list xs, .list ys => sameAll xs ys
  | .tuple xs, .tuple ys => sameAll xs ys
  | .set xs, .set ys => xs.length == ys.length && allMembers xs ys
  | .dict xs, .dict ys => xs.length == ys.length && allEntries xs ys
  | .object xs, .object ys => xs.length == ys.length && allEntries xs ys
  | .page xs p, .page ys q => sameAll xs ys && p == q
  | .operator a, .operator b => a == b
  | .names a, .names b => a == b
  | .function a, .function b => a == b
  | .foreign _ a, .foreign _ b => a == b
  | a, b =>
    match a.number?, b.number? with
    | some m, some n => m.equal n
    | _, _ => false

/-- Whether two sequences are the same item by item. -/
def sameAll : List Value → List Value → Bool
  | [], [] => true
  | x :: xs, y :: ys => x.same y && sameAll xs ys
  | _, _ => false

/-- Whether every item of the first list is one of the second. -/
def allMembers : List Value → List Value → Bool
  | [], _ => true
  | x :: xs, ys => ys.any (fun y => x.same y) && allMembers xs ys

/-- Whether every entry of the first mapping is the second's of that key. -/
def allEntries : List (String × Value) → List (String × Value) → Bool
  | [], _ => true
  | (name, x) :: rest, ys =>
    (match ys.lookup name with
      | some y => x.same y
      | none => false) && allEntries rest ys

end

/-- Whether two values are equal. -/
def equal : Value → Value → Bool
  | .nan _, .nan _ => false
  | a, b => a.same b

/-- Whether a value is an item of a list. -/
def isIn (x : Value) (items : List Value) : Bool :=
  items.any fun y => x.same y

/-- The items without repetitions: of those that are the same the first. -/
def distinct (items : List Value) : List Value :=
  items.foldl (fun kept item => if item.isIn kept then kept else kept ++ [item]) []

/-- The set of some items. -/
def setOf (items : List Value) : Value := .set (distinct items)

mutual

/-- An order comparison of two values; `none` where they have no order. -/
def ordered? (test : OrderTest) : Value → Value → Option Bool
  | .str s, .str t => some (test.holds (compare s t))
  | .bytes a, .bytes b => some (test.holds (compareBytes a b))
  | .date a, .date b => some (test.holds (compare a.ordinal b.ordinal))
  | .dateTime s, .dateTime t => (s.compare? t).map test.holds
  | .list xs, .list ys => orderedAll? test xs ys
  | .tuple xs, .tuple ys => orderedAll? test xs ys
  | .set xs, .set ys =>
    let within := allMembers xs ys
    let around := ys.all fun y => xs.any fun x => x.same y
    some <| match test with
      | .lt => within && !around
      | .lte => within
      | .gt => around && !within
      | .gte => around
  | a, b => do
    let m ← a.number?
    let n ← b.number?
    return test.holdsOf m n

/-- Lexicographic order: the first items that are not the same decide, else the lengths. -/
def orderedAll? (test : OrderTest) : List Value → List Value → Option Bool
  | [], [] => some (test.holds .eq)
  | [], _ :: _ => some (test.holds .lt)
  | _ :: _, [] => some (test.holds .gt)
  | x :: xs, y :: ys => if x.same y then orderedAll? test xs ys else ordered? test x y

end

end Value

end QueryCache
