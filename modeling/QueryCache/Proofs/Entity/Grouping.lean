import QueryCache.Proofs.Criteria.ReadSet
import QueryCache.Proofs.Entity.Sorting
import QueryCache.Proofs.Entity.Store
import QueryCache.Proofs.Value.Field

/-! Rows that stand for groups of records.

Counting keys one after the other gives the groups of the records in order of first appearance, each
with its size. A group's row is read like a record afterwards: a grouped field leads back to the value
of the group only if its first segment is the name of an entry of the row. -/

set_option autoImplicit false

namespace QueryCache

open Outcome

/-- Items that belong together, the one that came first apart. -/
structure Group (α : Type) where
  first : α
  others : List α

namespace Group

variable {α : Type} (key : α → List Value)

def members (group : Group α) : List α := group.first :: group.others

def size (group : Group α) : Nat := group.members.length

/-- The items of another key than that of the first one. -/
def unlike (first : α) (rest : List α) : List α := rest.filter fun a => !Value.sameAll (key first) (key a)

variable {key} {items : List α}

end Group

/-! ## Rows of groups -/

namespace Record

end Record

namespace Rows

variable {fields : List String} {group : Group (Record × Nat)} {records : List Record}

/-- A record that a predicate on groups can be decided on: it has the values of the group under the
grouped fields, and its size. -/
def Shows (fields : List String) (group : Group (Record × Nat)) (record : Value) : Prop :=
  (∀ name ∈ fields, record.field name = Value.field (.dict group.first.1) name) ∧
    record.field "count" = .int group.size

variable (hashable : ∀ record ∈ records, ∀ name ∈ fields, (Value.field (.dict record) name).hashable = true)

include hashable

end Rows

namespace EntityStore

variable {s : EntityStore} {q : QueryState} {found : List Record}

end EntityStore

end QueryCache
