import QueryCache.Predicate.Basic

/-! The leaves of a predicate, from left to right, and induction over its parts. -/

set_option autoImplicit false

namespace QueryCache.Predicate

-- A predicate holds lists of predicates, so induction on it alone says nothing of those lists. Each list
-- of parts is given its own motive here, that all of its members have the property.
section

variable {motive : Predicate → Prop} (field : ∀ name op values, motive (.field name op values))
  (column : ∀ left test right, motive (.column left test right)) (never : motive .never)
  (all : ∀ parts, (∀ part ∈ parts, motive part) → motive (.all parts))
  (any : ∀ parts, (∀ part ∈ parts, motive part) → motive (.any parts))
  (not : ∀ part, motive part → motive (.not part))

include field column never all any not

@[elab_as_elim]
theorem byParts (p : Predicate) : motive p :=
  p.rec (fun name op values => field name op values) (fun left test right => column left test right) never
    (fun parts each => all parts each) (fun parts each => any parts each) (fun part holds => not part holds)
    (fun _ member => absurd member List.not_mem_nil)
    fun _ _ first others => List.forall_mem_cons.2 ⟨first, others⟩

end

mutual

/-- The conditions, comparisons of fields, and predicates that hold of nothing, that a predicate is
joined from. -/
def leaves : Predicate → List Predicate
  | .all parts | .any parts => leavesOf parts
  | .not part => part.leaves
  | leaf => [leaf]

def leavesOf : List Predicate → List Predicate
  | [] => []
  | part :: rest => part.leaves ++ leavesOf rest

end

theorem leavesOf_eq_flatMap (parts : List Predicate) : leavesOf parts = parts.flatMap leaves := by
  induction parts with
  | nil => rfl
  | cons part rest ih => rw [leavesOf, ih, List.flatMap_cons]

@[simp]
theorem leaves_all (parts : List Predicate) : (Predicate.all parts).leaves = parts.flatMap leaves := by
  rw [leaves, leavesOf_eq_flatMap]

@[simp]
theorem leaves_any (parts : List Predicate) : (Predicate.any parts).leaves = parts.flatMap leaves := by
  rw [leaves, leavesOf_eq_flatMap]

@[simp]
theorem leaves_not (part : Predicate) : (Predicate.not part).leaves = part.leaves := by
  rw [leaves]

/-- What all leaves of some parts have, all leaves of each part have. -/
theorem leaves_of_parts {has : Predicate → Prop} {parts : List Predicate}
    (given : ∀ leaf ∈ parts.flatMap leaves, has leaf) : ∀ part ∈ parts, ∀ leaf ∈ part.leaves, has leaf :=
  fun part member leaf found => given leaf (List.mem_flatMap.2 ⟨part, member, found⟩)

/-- The values that a leaf compares with. -/
def ownValues : Predicate → List Value
  | .field _ _ values => values
  | _ => []

/-- The fields that a leaf looks at. -/
def ownFields : Predicate → List String
  | .field name _ _ => [name]
  | .column left _ right => [left, right]
  | _ => []

/-- The values of the leaves, as they are met from left to right. -/
def values (p : Predicate) : List Value := p.leaves.flatMap ownValues

end QueryCache.Predicate
