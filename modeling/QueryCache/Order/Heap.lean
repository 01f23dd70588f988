/-! Heaps: arrays in which an item at place `n` is no earlier than the one at `(n - 1) / 2`.

A new item moves from the end towards the front past all that it comes before. When the first
item is taken, the last one takes its place, moves to an end of the heap past the earlier of the
two items below it, and from there towards the front like a new one. Under a total order the
items are taken in order. Under a partial order that depends on which items are compared, and
these are the ones. -/

set_option autoImplicit false

namespace QueryCache

abbrev Heap (α : Type) := Array α

namespace Heap

variable {α : Type}

/-- Whether an item comes before another. -/
abbrev Before (α : Type) := α → α → Bool

/-- Moves the item at a place towards the front past all that it comes before. -/
def raise (before : Before α) (h : Heap α) (place : Nat) : Heap α :=
  if 0 < place then
    let parent := (place - 1) / 2
    match h[place]?, h[parent]? with
    | some item, some other =>
      if before item other then raise before (h.swapIfInBounds place parent) parent else h
    | _, _ => h
  else h
termination_by place

/-- The earlier of the two items below a place; where they have no order, the second. -/
def below (before : Before α) (h : Heap α) (place : Nat) : Nat :=
  match h[2 * place + 1]?, h[2 * place + 2]? with
  | some first, some second => if before first second then 2 * place + 1 else 2 * place + 2
  | _, _ => 2 * place + 1

theorem lt_below (before : Before α) (h : Heap α) (place : Nat) : place < below before h place := by
  unfold below
  split <;> try split
  all_goals omega

/-- Moves the item at a place to an end, past the earlier of the two below it each time, and
tells its place there. -/
def sink (before : Before α) (h : Heap α) (place : Nat) : Heap α × Nat :=
  if 2 * place + 1 < h.size then
    sink before (h.swapIfInBounds place (below before h place)) (below before h place)
  else (h, place)
termination_by h.size - place
decreasing_by
  have := lt_below before h place
  simp only [Array.size_swapIfInBounds]
  omega

def push (before : Before α) (h : Heap α) (item : α) : Heap α :=
  raise before (Array.push h item) h.size

/-- The first item, and the heap without it. -/
def pop? (before : Before α) (h : Heap α) : Option (α × Heap α) :=
  match h[0]?, h.back? with
  | some first, some last =>
    let (sunk, place) := sink before (h.pop.setIfInBounds 0 last) 0
    some (first, raise before sunk place)
  | _, _ => none

/-- Takes first items as long as the condition holds of them, no more than the fuel. -/
def popWhile (before : Before α) (holds : α → Bool) : Nat → Heap α → List α × Heap α
  | 0, h => ([], h)
  | fuel + 1, h =>
    match pop? before h with
    | some (first, rest) =>
      if holds first then
        let (taken, later) := popWhile before holds fuel rest
        (first :: taken, later)
      else ([], h)
    | none => ([], h)

end Heap

end QueryCache
