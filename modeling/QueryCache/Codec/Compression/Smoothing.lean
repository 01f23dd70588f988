import QueryCache.Codec.Compression.CodeForm

/-! Smoothing the counts of symbols.

The written form of a prefix code is shorter the longer the runs of equal lengths in it are. So
stretches of counts that are close to each other are replaced by their mean before the lengths
are chosen, where the alphabet in use is large enough for that to pay. A count that is not zero
stays so, hence every symbol keeps a word. -/

set_option autoImplicit false

namespace QueryCache.Smoothing

/-- The symbols in use below which no counts are touched. -/
def leastUsed : Nat := 16

/-- The symbols in use below which counts are not averaged. -/
def manyUsed : Nat := 28

/-- Fills zeros between two counts that are not zero; `before` is the count before the first. -/
def fillGaps (before : Nat) : List Nat → List Nat
  | count :: next :: rest =>
    (if before ≠ 0 ∧ count = 0 ∧ next ≠ 0 then 1 else count) :: fillGaps count (next :: rest)
  | short => short

/-- Whether the gaps are few, and small counts stand beside them. -/
def hasFewGaps (counts : List Nat) : Bool :=
  counts.any (fun count => 0 < count && count < 4) && (counts.filter (· == 0)).length < 6

/-- Each count with whether it stands in a run long enough to be kept. -/
def keepRuns (counts : List Nat) : List (Nat × Bool) :=
  (CodeForm.runs counts).flatMap fun (count, size) =>
    List.replicate size (count, (if count = 0 then 5 else 7) ≤ size)

/-- The scale of means. -/
def unit : Nat := 256

/-- How far a count may be off the mean of its stretch. -/
def tolerance : Nat := 1240

/-- The mean that a stretch starts with: that of the next three counts, raised. -/
def firstMean : List (Nat × Bool) → Nat
  | a :: b :: c :: _ => unit * (a.1 + b.1 + c.1) / 3 + 420
  | a :: _ => unit * a.1
  | [] => 0

/-- The mean of a stretch, once it is of four counts or more. -/
def meanOf (stretch : List Nat) (first : Nat) : Nat :=
  let size := stretch.length
  if size < 4 then first
  else
    (unit * stretch.foldl (· + ·) 0 + size / 2) / size + (if size = 4 then 120 else 0)

/-- Whether a count is close to a mean. -/
def isClose (mean count : Nat) : Bool :=
  mean ≤ unit * count + tolerance && unit * count < mean + tolerance

/-- A stretch, given last count first, that is over: all counts are its mean if it is long. -/
def settle (stretch : List Nat) : List Nat :=
  let size := stretch.length
  let sum := stretch.foldl (· + ·) 0
  if sum = 0 then stretch
  else if 4 ≤ size then List.replicate size (max 1 ((sum + size / 2) / size))
  else stretch.reverse

/-- Averages the counts stretch by stretch; a stretch ends at a run that is kept and at a count
far off its mean. -/
def average (stretch : List Nat) (mean : Nat) (kept : Bool) : List (Nat × Bool) → List Nat
  | [] => settle stretch
  | (count, keep) :: rest =>
    if keep || kept || !isClose mean count then
      settle stretch ++ average [count] (firstMean ((count, keep) :: rest)) keep rest
    else
      let stretch := count :: stretch
      average stretch (meanOf stretch mean) keep rest

def smooth (counts : List Nat) : List Nat :=
  let used := (counts.filter (0 < ·)).length
  if used < leastUsed then counts
  else
    let counts := if hasFewGaps counts then fillGaps 0 counts else counts
    if used < manyUsed then counts
    else
      let marked := keepRuns counts
      average [] (firstMean marked) false marked

/-- The smoothed counts of the symbols below `size`, given for those that are counted. -/
def smoothTally (size : Nat) (tally : List (Nat × Nat)) : List (Nat × Nat) :=
  let counts := CodeForm.inOrder size tally
  (((smooth counts).zipIdx).map fun (count, symbol) => (symbol, count)).filter (0 < ·.2)

end QueryCache.Smoothing
