/-! Splitting a text at a separator, and joining the pieces again. -/

set_option autoImplicit false

namespace QueryCache.Text

/-- The pieces between the occurrences of `sep`: one more than there are occurrences. -/
def split (sep : Char) : List Char → List (List Char)
  | [] => [[]]
  | c :: rest =>
    if c = sep then [] :: split sep rest
    else
      match split sep rest with
      | [] => [[c]]
      | piece :: pieces => (c :: piece) :: pieces

/-- The pieces with `sep` between two of them. -/
def join (sep : Char) : List (List Char) → List Char
  | [] => []
  | [piece] => piece
  | piece :: pieces => piece ++ sep :: join sep pieces

/-- What stands before and after the first `sep`, if there is one. -/
def cut? (sep : Char) : List Char → Option (List Char × List Char)
  | [] => none
  | c :: rest =>
    if c = sep then some ([], rest)
    else (cut? sep rest).map fun (before, after) => (c :: before, after)

theorem split_ne_nil (sep : Char) (text : List Char) : split sep text ≠ [] := by
  cases text with
  | nil => simp [split]
  | cons c rest =>
    simp only [split]
    split
    · simp
    · split <;> simp

theorem join_split (sep : Char) (text : List Char) : join sep (split sep text) = text := by
  induction text with
  | nil => rfl
  | cons c rest ih =>
    simp only [split]
    split
    · next same =>
      subst same
      cases pieces : split c rest with
      | nil => exact absurd pieces (split_ne_nil c rest)
      | cons piece others =>
        rw [pieces] at ih
        simp [join, ih]
    · cases pieces : split sep rest with
      | nil => exact absurd pieces (split_ne_nil sep rest)
      | cons piece others =>
        rw [pieces] at ih
        cases others with
        | nil => simp only [join] at ih ⊢; rw [ih]
        | cons next others =>
          simp only [join, List.cons_append] at ih ⊢
          rw [ih]

end QueryCache.Text
