/-! Sorting by insertion, with comparisons that may fail.

The items from the first on that are in order, or in strictly falling order and then reversed,
are kept as they are. Every further item is put into its place, which is looked for by halving.
Under a total order the answer is the stable one. Under a partial order it depends on which
items are compared, and these are the ones. -/

set_option autoImplicit false

namespace QueryCache.Insertion

variable {α ε : Type}

/-- Whether an item comes before another. -/
abbrev Before (α ε : Type) := α → α → Except ε Bool

/-- The longest beginning in which every item after the first stands as asked to the one before
it, last item first, and the rest. -/
def run (before : Before α ε) (falling : Bool) :
    α → List α → List α → Except ε (List α × List α)
  | _, seen, [] => .ok (seen, [])
  | last, seen, item :: rest => do
    if (← before item last) = falling then run before falling item (item :: seen) rest
    else return (seen, item :: rest)

/-- The place of an item among sorted ones: before the first half if it comes before the middle
item. The fuel bounds the halvings. -/
def place (before : Before α ε) (sorted : Array α) (item : α) : Nat → Nat → Nat → Except ε Nat
  | 0, low, _ => .ok low
  | fuel + 1, low, high =>
    if low < high then do
      let middle := low + (high - low) / 2
      match sorted[middle]? with
      | none => return low
      | some other =>
        if ← before item other then place before sorted item fuel low middle
        else place before sorted item fuel (middle + 1) high
    else .ok low

/-- Puts an item into its place among sorted ones. -/
def insert (before : Before α ε) (sorted : List α) (item : α) : Except ε (List α) := do
  let array := sorted.toArray
  let index ← place before array item (array.size + 1) 0 array.size
  return sorted.insertIdx index item

/-- The items in order. -/
def sort (before : Before α ε) : List α → Except ε (List α)
  | first :: second :: rest => do
    let falling ← before second first
    let (seen, rest) ← run before falling second [second, first] rest
    rest.foldlM (insert before) (if falling then seen else seen.reverse)
  | items => .ok items

end QueryCache.Insertion
