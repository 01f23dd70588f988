import QueryCache.Codec.Compression.PrefixCode

/-! The written form of a prefix code.

At most four symbols are listed by length. Of more symbols the lengths are written in the order
of the alphabet, runs of one length shortened, under a prefix code of their own, whose lengths
stand first. The quick form takes a fixed code for that. -/

set_option autoImplicit false

namespace QueryCache.CodeForm

open PrefixCode

/-- A length, or a run of the length before or of zeros, whose size the extra bits tell. -/
structure Mark where
  symbol : Nat
  extra : Bits := []

/-- The mark for a run of the length before it. -/
def repeatMark : Nat := 16

/-- The mark for a run of zeros. -/
def zerosMark : Nat := 17

/-- The order in which the lengths for the marks are written, likely ones first. -/
def markOrder : List Nat := [1, 2, 3, 4, 0, 5, 17, 6, 16, 7, 8, 9, 10, 11, 12, 13, 14, 15]

/-- How the lengths for the marks are themselves written, by length. -/
def markLengthWords : Words := [(0, [false, false]), (1, [true, true, true, false]),
  (2, [true, true, false]), (3, [false, true]), (4, [true, false]), (5, [true, true, true, true])]

/-- The digits of a number where each digit but the first counts from one, the highest first. -/
def runDigits (width : Nat) : Nat → Nat → List Bits
  | 0, _ => []
  | fuel + 1, n =>
    let high := n / power 2 width
    (if high = 0 then [] else runDigits width fuel (high - 1)) ++ [Bits.ofNat width n]

/-- Marks for a run of at least three. -/
def runMarks (mark width count : Nat) : List Mark :=
  (runDigits width count (count - 3)).map fun extra => ⟨mark, extra⟩

def zeroMarks (count : Nat) : List Mark :=
  if count = 11 then ⟨0, []⟩ :: runMarks zerosMark 3 10
  else if count < 3 then List.replicate count ⟨0, []⟩
  else runMarks zerosMark 3 count

/-- Marks for further lengths like the one before. -/
def quickAgainMarks (length count : Nat) : List Mark :=
  if count < 3 then List.replicate count ⟨length, []⟩ else runMarks repeatMark 2 count

/-- Marks for further lengths like the one before; seven of them are one and a run of six. -/
def againMarks (length count : Nat) : List Mark :=
  if count = 7 then ⟨length, []⟩ :: quickAgainMarks length 6 else quickAgainMarks length count

/-- Equal neighbours together: each value with the size of its run. -/
def runs : List Nat → List (Nat × Nat)
  | [] => []
  | value :: rest =>
    match runs rest with
    | (other, count) :: more =>
      if other = value then (other, count + 1) :: more else (value, 1) :: (other, count) :: more
    | [] => [(value, 1)]

/-- Whether runs of a least size are long enough on average to be shortened. -/
def worthShortening (least : Nat) (sizes : List Nat) : Bool :=
  let long := sizes.filter (least ≤ ·)
  2 * (long.length + 1) < long.foldl (· + ·) 0

/-- The marks for runs of lengths; `before` is the last length that was not zero. A run of
zeros, and one of another length after the first, are marked as given. -/
def marksFrom (zeros : Nat → List Mark) (others : Nat → Nat → List Mark) :
    Nat → List (Nat × Nat) → List Mark
  | _, [] => []
  | before, (length, count) :: rest =>
    if length = 0 then zeros count ++ marksFrom zeros others before rest
    else
      let first : List Mark := if length = before then [] else [⟨length, []⟩]
      first ++ others length (count - first.length) ++ marksFrom zeros others length rest

/-- The length that stands before the first one. -/
def initialLength : Nat := 8

/-- The marks of lengths, with runs shortened where that is worth it. -/
def marks (lengths : List Nat) : List Mark :=
  let groups := runs lengths
  let sizes (zero : Bool) := (groups.filter fun run => (run.1 == 0) == zero).map (·.2)
  let single (length count : Nat) : List Mark := List.replicate count ⟨length, []⟩
  marksFrom (if worthShortening 3 (sizes true) then zeroMarks else single 0)
    (if worthShortening 4 (sizes false) then againMarks else single) initialLength groups

/-- The marks of lengths with all runs shortened. -/
def quickMarks (lengths : List Nat) : List Mark :=
  marksFrom zeroMarks quickAgainMarks initialLength (runs lengths)

/-- How often each of some symbols stands in a list, in the order of the symbols. -/
def tally (size : Nat) (symbols : List Nat) : List (Nat × Nat) :=
  let counts := symbols.foldl (fun counts symbol => counts.modify symbol (· + 1))
    (Array.replicate size 0)
  (counts.toList.zipIdx.map fun (count, symbol) => (symbol, count)).filter (0 < ·.2)

/-- The lengths for the marks in their order, without those at the end that are zero. -/
def writeMarkLengths (lengths : Lengths) : Bits :=
  let all := markOrder.map fun mark => (lengths.lookup mark).getD 0
  let all := if lengths.length = 1 then all else (all.reverse.dropWhile (· == 0)).reverse
  let leading := (all.takeWhile (· == 0)).length
  let skipped := if leading < 2 then 0 else min leading 3
  Bits.ofNat 2 skipped ++
    (all.drop skipped).flatMap fun length => (markLengthWords.lookup length).getD []

/-- What stands beside each symbol, zero where nothing does, up to the last that has something. -/
def inOrder (size : Nat) (lengths : Lengths) : List Nat :=
  let all := lengths.foldl (fun all (symbol, length) => all.setIfInBounds symbol length)
    (Array.replicate size 0)
  (all.toList.reverse.dropWhile (· == 0)).reverse

/-- Marks under a prefix code, whose lengths stand first. -/
def writeMarks (lengths : Lengths) (marks : List Mark) : Bits :=
  let words := table 18 (words lengths)
  let lengths := if lengths.length = 1 then lengths.map fun (mark, _) => (mark, 1) else lengths
  writeMarkLengths lengths ++
    marks.flatMap fun mark => (words[mark.symbol]?).getD [] ++ mark.extra

/-- The code that suits marks best. -/
def markLengths (marks : List Mark) : Lengths := lengthsOf 5 (tally 18 (marks.map (·.symbol)))

/-- A code for the marks of any lengths up to 14. -/
def quickMarkLengths : Lengths :=
  (List.range 18).filterMap fun mark =>
    if mark = 13 ∨ mark = 14 then some (mark, 5) else if mark = 15 then none else some (mark, 4)

/-- The bits that name a symbol of an alphabet. -/
def nameWidth (size : Nat) : Nat := Nat.log2 (size - 1) + 1

/-- At most four symbols, listed by length. -/
def writeFew (size : Nat) (lengths : Lengths) : Bits :=
  let sorted := lengths.mergeSort fun a b => a.2 < b.2 || (a.2 == b.2 && a.1 ≤ b.1)
  Bits.ofNat 2 1 ++ Bits.ofNat 2 (sorted.length - 1) ++
    sorted.flatMap (fun (symbol, _) => Bits.ofNat (nameWidth size) symbol) ++
    (if sorted.length = 4 then [sorted.any (·.2 == 1)] else [])

def write (quick : Bool) (size : Nat) (lengths : Lengths) : Bits :=
  if lengths.isEmpty then writeFew size [(0, 0)]
  else if lengths.length ≤ 4 then writeFew size lengths
  else
    let all := inOrder size lengths
    if quick then writeMarks quickMarkLengths (quickMarks all)
    else writeMarks (markLengths (marks all)) (marks all)

/-- The lengths of words for so many listed symbols. -/
def fewLengths (count : Nat) (uneven : Bool) : List Nat :=
  match count, uneven with
  | 1, _ => [0]
  | 2, _ => [1, 1]
  | 3, _ => [1, 2, 2]
  | _, false => [2, 2, 2, 2]
  | _, true => [1, 2, 3, 3]

def readFew (size : Nat) : BitReader Lengths := do
  let count := (← BitReader.number 2) + 1
  let symbols ← BitReader.repeated (BitReader.number (nameWidth size)) count
  let uneven ← if count = 4 then BitReader.bit else pure false
  return symbols.zip (fewLengths count uneven)

/-- The lengths for the marks, read until the code is full; a full code has 32 units of room. -/
def readMarkLengths (tree : Tree) : List Nat → Nat → BitReader Lengths
  | [], _ => return []
  | mark :: rest, room => do
    let length ← tree.read
    if length = 0 then readMarkLengths tree rest room
    else
      let used := power 2 (5 - length)
      let more ← if used < room then readMarkLengths tree rest (room - used) else pure []
      return (mark, length) :: more

/-- What is known while lengths are read: the last one that was not zero, and the mark and the
size of the run just read. -/
structure Reading where
  before : Nat := initialLength
  mark : Nat := 0
  run : Nat := 0

/-- A run goes on if the mark before was the same one. -/
def Reading.extended (s : Reading) (mark width extra : Nat) : Nat :=
  (if s.mark = mark ∧ 0 < s.run then (s.run - 2) * power 2 width else 0) + extra + 3

/-- Lengths read until the code is full, at most `size` of them; a full code has 32768 units of
room. The fuel bounds the marks. -/
def readLengths (tree : Tree) (size : Nat) : Nat → Nat → Nat → Reading → BitReader Lengths
  | 0, _, _, _ => failure
  | fuel + 1, next, room, s => do
    if room = 0 ∨ next = size then return []
    let mark ← tree.read
    if mark < repeatMark then
      if mark = 0 then readLengths tree size fuel (next + 1) room { s with mark := 0, run := 0 }
      else
        let used := power 2 (15 - mark)
        if room < used then failure
        return (next, mark) :: (← readLengths tree size fuel (next + 1) (room - used) ⟨mark, 0, 0⟩)
    else
      let width := if mark = repeatMark then 2 else 3
      let run := s.extended mark width (← BitReader.number width)
      let added := run - (if s.mark = mark then s.run else 0)
      let length := if mark = repeatMark then s.before else 0
      let used := if length = 0 then 0 else added * power 2 (15 - length)
      if size < next + added ∨ room < used then failure
      let rest ← readLengths tree size fuel (next + added) (room - used)
        { s with mark := mark, run := run }
      return (if length = 0 then []
        else (List.range added).map fun offset => (next + offset, length)) ++ rest

/-- Reads the lengths of a code for an alphabet of `size` symbols. -/
def read (size : Nat) : BitReader Lengths := do
  let skipped ← BitReader.number 2
  if skipped = 1 then readFew size
  else
    let found ← readMarkLengths (Tree.ofWords markLengthWords) (markOrder.drop skipped) 32
    let tree := match found with
      | [(mark, _)] => Tree.leaf mark
      | _ => Tree.ofLengths found
    readLengths tree size (size + 1) 0 32768 {}

end QueryCache.CodeForm
