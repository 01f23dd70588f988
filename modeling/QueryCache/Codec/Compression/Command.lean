import QueryCache.Codec.Bits

/-! Commands: some bytes as they are, then a stretch that already stands earlier.

A length is written as the code of a range and the place in it. How far back a stretch stands
is named by a distance used lately, or one close to it, where there is one. -/

set_option autoImplicit false

namespace QueryCache.Compression

/-- Bytes as they are, and a stretch of earlier ones; a stretch of none ends the commands. -/
structure Command where
  plain : Nat
  copied : Nat
  /-- The code of the distance: below 16 a recent one, else the distance and 15 more. -/
  distance : Nat
  deriving DecidableEq, Repr

namespace Command

/-- The bits that each range of plain lengths takes, the first range starting at none. -/
def plainRanges : List Nat :=
  [0, 0, 0, 0, 0, 0, 1, 1, 2, 2, 3, 3, 4, 4, 5, 5, 6, 7, 8, 9, 10, 12, 14, 24]

/-- The bits that each range of copied lengths takes, the first range starting at two. -/
def copyRanges : List Nat :=
  [0, 0, 0, 0, 0, 0, 0, 0, 1, 1, 2, 2, 3, 3, 4, 4, 5, 5, 6, 7, 8, 9, 10, 24]

/-- The least copied length. -/
def leastCopy : Nat := 2

/-- The range that a number is in, and its place there. -/
def rangeOf : List Nat → Nat → Nat × Bits
  | [], _ => (0, [])
  | width :: rest, n =>
    if n < power 2 width then (0, Bits.ofNat width n)
    else
      let (index, place) := rangeOf rest (n - power 2 width)
      (index + 1, place)

/-- Reads the place in a range, and gives the number. -/
def readRange (ranges : List Nat) (index : Nat) : BitReader Nat := do
  let start := ((ranges.take index).map (power 2)).foldl (· + ·) 0
  return start + (← BitReader.number ((ranges[index]?).getD 0))

/-- The groups of eight plain ranges and of eight copy ranges that a block of 64 symbols
stands for. In the first two blocks the last distance is used again without being named. -/
def blocks : List (Nat × Nat) :=
  [(0, 0), (0, 1), (0, 0), (0, 1), (1, 0), (1, 1), (0, 2), (2, 0), (1, 2), (2, 1), (2, 2)]

/-- The number of symbols without a distance. -/
def unnamed : Nat := 128

/-- The symbol of two ranges. -/
def symbolOf (plain copy : Nat) (again : Bool) : Nat :=
  let group := (plain / 8, copy / 8)
  let block :=
    if again && (blocks.take 2).contains group then blocks.idxOf group
    else (blocks.drop 2).idxOf group + 2
  64 * block + 8 * (plain % 8) + copy % 8

/-- The two ranges of a symbol. -/
def rangesOf (symbol : Nat) : Nat × Nat :=
  let group := (blocks[symbol / 64]?).getD (0, 0)
  (8 * group.1 + symbol / 8 % 8, 8 * group.2 + symbol % 8)

/-- The symbol of a command, and its two places. -/
def coded (c : Command) : Nat × Bits :=
  let (plain, place) := rangeOf plainRanges c.plain
  let (copy, place') := rangeOf copyRanges (c.copied - leastCopy)
  if c.copied = 0 then (symbolOf plain leastCopy false, place)
  else (symbolOf plain copy (c.distance == 0), place ++ place')

/-- Whether the distance of a command is named. -/
def isNamed (c : Command) : Bool := c.copied != 0 && unnamed ≤ c.coded.1

/-- The symbol of a distance code, and its place in the range of the symbol. -/
def distanceSymbol (code : Nat) : Nat × Bits :=
  if code < 16 then (code, [])
  else
    let n := code - 12
    let width := Nat.log2 n - 1
    let half := n / power 2 width % 2
    (14 + 2 * width + half, Bits.ofNat width n)

/-- Reads the place of a distance code in the range of its symbol. -/
def readDistance (symbol : Nat) : BitReader Nat := do
  if symbol < 16 then return symbol
  let width := (symbol - 14) / 2
  return (2 + symbol % 2) * power 2 width + (← BitReader.number width) + 12

end Command

/-- The last four distances, the latest first. -/
abbrev Recent := List Int

/-- The distances of the first command. -/
def Recent.initial : Recent := [4, 11, 15, 16]

/-- The distances that the codes below 16 stand for. -/
def Recent.all : Recent → List Int
  | a :: b :: rest =>
    a :: b :: rest ++ [a - 1, a + 1, a - 2, a + 2, a - 3, a + 3,
      b - 1, b + 1, b - 2, b + 2, b - 3, b + 3]
  | short => short

/-- The codes below 16 in the order in which they are preferred. -/
def Recent.preferred : List Nat := [0, 1, 4, 5, 6, 7, 8, 9, 10, 11, 12, 13, 14, 15, 2, 3]

/-- The code of a distance. -/
def Recent.codeOf (recent : Recent) (distance : Nat) : Nat :=
  let known := recent.all
  (preferred.find? fun code => known[code]? == some (distance : Int)).getD (distance + 15)

/-- The distance of a code, none if it does not lead back. -/
def Recent.distanceOf? (recent : Recent) (code : Nat) : Option Nat :=
  if code < 16 then
    match recent.all[code]? with
    | some distance => if 0 < distance then some distance.toNat else none
    | none => none
  else some (code - 15)

/-- The distances after one more, which only a new one changes. -/
def Recent.after (recent : Recent) (code distance : Nat) : Recent :=
  if code = 0 then recent else (distance : Int) :: recent.take 3

end QueryCache.Compression
