/-! Values under text keys, no key standing twice. -/

set_option autoImplicit false

namespace QueryCache

abbrev Table (α : Type) := List (String × α)

namespace Table

variable {α : Type}

def get? (t : Table α) (key : String) : Option α :=
  (t.find? fun entry => entry.1 == key).map (·.2)

def has (t : Table α) (key : String) : Bool := (get? t key).isSome

def erase (t : Table α) (key : String) : Table α :=
  t.filter fun entry => entry.1 != key

def put (t : Table α) (key : String) (value : α) : Table α :=
  (key, value) :: erase t key

def keys (t : Table α) : List String := t.map (·.1)

@[simp]
theorem get?_nil (key : String) : get? ([] : Table α) key = none := rfl

@[simp]
theorem get?_erase_self (t : Table α) (key : String) : get? (erase t key) key = none := by
  simp [get?, erase]

theorem get?_erase_of_ne (t : Table α) {key other : String} (different : other ≠ key) :
    get? (erase t key) other = get? t other := by
  induction t with
  | nil => rfl
  | cons entry rest ih =>
    unfold get? erase at *
    by_cases same : entry.1 = key
    · have : entry.1 ≠ other := fun equal => different (equal.symm.trans same)
      simp [same, List.find?_cons] at ih ⊢
      have : (key == other) = false := by simpa using fun equal => different equal.symm
      simp [this, ih]
    · by_cases equal : entry.1 = other
      · simp [equal, different]
      · have : (entry.1 == other) = false := by simpa using equal
        simp [same, this] at ih ⊢
        simp [ih]

@[simp]
theorem get?_put_self (t : Table α) (key : String) (value : α) :
    get? (put t key value) key = some value := by
  simp [get?, put]

theorem get?_put_of_ne (t : Table α) {key other : String} (value : α) (different : other ≠ key) :
    get? (put t key value) other = get? t other := by
  have : (key == other) = false := by simpa using fun equal => different equal.symm
  have erased := get?_erase_of_ne t different
  simp [get?, put, this] at erased ⊢
  exact erased

end Table

end QueryCache
