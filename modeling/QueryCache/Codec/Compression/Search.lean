import Std.Data.HashMap
import QueryCache.Codec.Compression.Command

/-! Looking for stretches that already stand earlier.

Positions are remembered by the five bytes that start there, a few positions to the same five.
A stretch is worth more the longer it is and the closer it stands; one that starts a byte later
is preferred where it is worth enough more. -/

set_option autoImplicit false

namespace QueryCache.Compression

/-- The positions remembered so far. -/
abbrev Seen := Std.HashMap Nat Nat

/-- A stretch that stands earlier; one of no length is none. -/
structure Stretch where
  length : Nat := 0
  distance : Nat := 0
  worth : Int := 0

namespace Search

/-- The least length of a stretch. -/
def leastLength : Nat := 4

/-- The bytes before the end from which no stretch starts. -/
def margin : Nat := 8

/-- The worth that a stretch has to exceed. -/
def leastWorth : Int := 100

/-- How much more a stretch that starts one byte later has to be worth. -/
def gain : Int := 175

/-- The number that the five bytes at a position make. -/
def key (bytes : Array UInt8) (position : Nat) : Nat :=
  Bytes.toNat ((List.range 5).map fun offset => (bytes[position + offset]?).getD 0)

/-- The place for a position among the `ways` of its five bytes. -/
def slot (ways position : Nat) : Nat := position / 8 % ways

def remember (ways : Nat) (bytes : Array UInt8) (seen : Seen) (position : Nat) : Seen :=
  seen.insert (ways * key bytes position + slot ways position) position

/-- How many bytes agree from two positions on, `count` of them known to; at most as many more
as the fuel says. -/
def agreeing (bytes : Array UInt8) (early late : Nat) : Nat → Nat → Nat
  | 0, count => count
  | fuel + 1, count =>
    if bytes[early + count]? = bytes[late + count]? then agreeing bytes early late fuel (count + 1)
    else count

/-- The better of a stretch found and the one from a distance back, which has to be longer. -/
def better (bytes : Array UInt8) (position most : Nat) (again : Bool) (best : Stretch)
    (distance : Nat) : Stretch :=
  if distance = 0 ∨ position < distance then best
  else
    let length := agreeing bytes (position - distance) position most 0
    let worth : Int := 135 * length + (if again then 15 else -30 * (Nat.log2 distance : Int))
    if leastLength ≤ length ∧ best.length < length ∧ best.worth < worth then
      ⟨length, distance, worth⟩
    else best

/-- The best stretch at a position, longer than `above` and at most `most` bytes long. Where one
position is remembered only, the last distance is used again if it can be. -/
def best (ways : Nat) (bytes : Array UInt8) (seen : Seen) (recent : Recent)
    (position above most : Nat) : Stretch :=
  let last := ((recent.head?).getD 0).toNat
  let first := better bytes position most true ⟨above, 0, leastWorth⟩ last
  if ways = 1 ∧ leastWorth < first.worth then first
  else
    let key := key bytes position
    (List.range ways).foldl (fun best index =>
      better bytes position most false best (position - seen.getD (ways * key + index) 0)) first

/-- Puts a stretch off by a byte while the next position has one worth enough more, at most as
often as the fuel says; gives the bytes passed over too. -/
def putOff (ways : Nat) (bytes : Array UInt8) (recent : Recent) :
    Nat → Nat → Stretch → Seen → Nat × Stretch × Seen
  | 0, _, found, seen => (0, found, seen)
  | fuel + 1, position, found, seen =>
    let next := position + 1
    let most := bytes.size - next
    let other := best ways bytes seen recent next (min (found.length - 1) most) most
    let seen := remember ways bytes seen next
    if found.worth + gain ≤ other.worth then
      if next + margin < bytes.size then
        let (passed, found, seen) := putOff ways bytes recent fuel next other seen
        (passed + 1, found, seen)
      else (1, other, seen)
    else (0, found, seen)

/-- Remembers the positions of a stretch, of a repeated short one only the last few. -/
def rememberAll (ways : Nat) (bytes : Array UInt8) (position : Nat) (found : Stretch)
    (seen : Seen) : Seen :=
  let stop := min (position + found.length) (bytes.size + 1 - margin)
  let start := position + 2
  let start :=
    if found.distance < found.length / 4 then
      min stop (max start (position + found.length - 4 * found.distance))
    else start
  (List.range (stop - start)).foldl (fun seen offset =>
    remember ways bytes seen (start + offset)) seen

/-- The commands from a position on, `plain` bytes after the last one. -/
def commandsFrom (ways : Nat) (bytes : Array UInt8) :
    Nat → Nat → Nat → Recent → Seen → List Command
  | 0, _, plain, _, _ => [⟨plain, 0, 0⟩]
  | fuel + 1, position, plain, recent, seen =>
    if position + margin < bytes.size then
      let found := best ways bytes seen recent position 0 (bytes.size - position)
      let seen := remember ways bytes seen position
      if leastWorth < found.worth then
        let (passed, found, seen) := putOff ways bytes recent 4 position found seen
        let position := position + passed
        let code := recent.codeOf found.distance
        ⟨plain + passed, found.length, code⟩ ::
          commandsFrom ways bytes fuel (position + found.length) 0
            (recent.after code found.distance) (rememberAll ways bytes position found seen)
      else commandsFrom ways bytes fuel (position + 1) (plain + 1) recent seen
    else
      let plain := plain + (bytes.size - position)
      if plain = 0 then [] else [⟨plain, 0, 0⟩]

/-- The commands that make some bytes. -/
def commands (ways : Nat) (bytes : Array UInt8) : List Command :=
  commandsFrom ways bytes (bytes.size + 1) 0 0 Recent.initial ∅

end Search

end QueryCache.Compression
