import QueryCache.Text.Ranges
import QueryCache.Text.Split
import Mathlib.Data.List.TakeWhile

/-! Taking texts apart and putting them together again.

Pieces that hold no separator come back from their join, and a text whose ends are not blank
is left alone by trimming. -/

set_option autoImplicit false

namespace QueryCache.Text

variable {sep : Char}

/-! ## Pieces between separators -/

theorem mem_join {c : Char} {pieces : List (List Char)} (found : c ∈ join sep pieces) :
    c = sep ∨ ∃ piece ∈ pieces, c ∈ piece := by
  induction pieces with
  | nil => simp [join] at found
  | cons piece others ih =>
    cases others with
    | nil => exact .inr ⟨piece, by simp, found⟩
    | cons next others =>
      rw [join, List.mem_append, List.mem_cons] at found
      · rcases found with found | rfl | found
        · exact .inr ⟨piece, by simp, found⟩
        · exact .inl rfl
        · rcases ih found with same | ⟨piece, member, found⟩
          · exact .inl same
          · exact .inr ⟨piece, by simp [member], found⟩
      · simp

theorem join_eq_intercalate (pieces : List (List Char)) :
    join sep pieces = [sep].intercalate pieces := by
  induction pieces with
  | nil => rfl
  | cons piece others ih =>
    cases others with
    | nil => simp [join]
    | cons next others =>
      rw [join, ih]
      · simp [List.intercalate]
      · simp

/-- A mark of one character between texts joins their characters. -/
theorem toList_intercalate {mark : String} (one : mark.toList = [sep]) (texts : List String) :
    (mark.intercalate texts).toList = join sep (texts.map String.toList) := by
  rw [String.toList_intercalate, join_eq_intercalate, one]

theorem split_of_not_mem {text : List Char} (free : sep ∉ text) : split sep text = [text] := by
  induction text with
  | nil => rfl
  | cons c rest ih =>
    have other : c ≠ sep := fun same => free (by simp [same])
    have free' : sep ∉ rest := fun found => free (by simp [found])
    rw [split, if_neg other, ih free']

theorem split_append {piece rest : List Char} (free : sep ∉ piece) :
    split sep (piece ++ sep :: rest) = piece :: split sep rest := by
  induction piece with
  | nil => simp [split]
  | cons c piece ih =>
    have other : c ≠ sep := fun same => free (by simp [same])
    have free' : sep ∉ piece := fun found => free (by simp [found])
    rw [List.cons_append, split, if_neg other, ih free']

/-- Pieces without the separator come back from their join. -/
theorem split_join {pieces : List (List Char)} (some : pieces ≠ [])
    (free : ∀ piece ∈ pieces, sep ∉ piece) : split sep (join sep pieces) = pieces := by
  induction pieces with
  | nil => exact absurd rfl some
  | cons piece others ih =>
    have first : sep ∉ piece := free piece (by simp)
    cases others with
    | nil => exact split_of_not_mem first
    | cons next others =>
      have rest : ∀ piece ∈ next :: others, sep ∉ piece := fun p member => free p (by simp [member])
      rw [join, split_append first, ih (by simp) rest]
      simp

theorem mem_of_mem_split {text piece : List Char} {c : Char} (member : piece ∈ split sep text)
    (found : c ∈ piece) : c ∈ text := by
  rw [← join_split sep text]
  generalize split sep text = pieces at member
  induction pieces with
  | nil => cases member
  | cons first others ih =>
    cases others with
    | nil =>
      obtain rfl : piece = first := by simpa using member
      exact found
    | cons next others =>
      rw [join, List.mem_append, List.mem_cons]
      · rcases List.mem_cons.1 member with rfl | member
        · exact .inl found
        · exact .inr (.inr (ih member))
      · simp

theorem not_mem_of_mem_split {text piece : List Char} (member : piece ∈ split sep text) :
    sep ∉ piece := by
  induction text generalizing piece with
  | nil =>
    obtain rfl : piece = [] := by simpa [split] using member
    simp
  | cons c rest ih =>
    rw [split] at member
    split at member
    · rcases List.mem_cons.1 member with rfl | member
      · simp
      · exact ih member
    · next other =>
      cases pieces : split sep rest with
      | nil => exact absurd pieces (split_ne_nil sep rest)
      | cons first others =>
        rw [pieces] at ih member
        rcases List.mem_cons.1 member with rfl | member
        · intro found
          rcases List.mem_cons.1 found with same | found
          · exact other same.symm
          · exact ih (by simp) found
        · exact ih (List.mem_cons_of_mem first member)

theorem cut_eq_none_iff {text : List Char} : cut? sep text = none ↔ sep ∉ text := by
  induction text with
  | nil => simp [cut?]
  | cons c rest ih =>
    rw [cut?, List.mem_cons, not_or]
    by_cases same : c = sep
    · simp [same]
    · rw [if_neg same, Option.map_eq_none_iff, ih]
      exact ⟨fun free => ⟨fun eq => same eq.symm, free⟩, fun free => free.2⟩

theorem cut_append {before after : List Char} (free : sep ∉ before) :
    cut? sep (before ++ sep :: after) = some (before, after) := by
  induction before with
  | nil => simp [cut?]
  | cons c before ih =>
    have other : c ≠ sep := fun same => free (by simp [same])
    have free' : sep ∉ before := fun found => free (by simp [found])
    rw [List.cons_append, cut?, if_neg other, ih free']
    rfl

theorem of_cut_eq_some {text before after : List Char}
    (found : cut? sep text = some (before, after)) :
    text = before ++ sep :: after ∧ sep ∉ before := by
  induction text generalizing before with
  | nil => simp [cut?] at found
  | cons c rest ih =>
    rw [cut?] at found
    split at found
    · next same =>
      cases found
      simp [same]
    · next other =>
      obtain ⟨⟨start, beyond⟩, cut, same⟩ := Option.map_eq_some_iff.1 found
      cases same
      obtain ⟨rfl, free⟩ := ih cut
      refine ⟨rfl, fun found => ?_⟩
      rcases List.mem_cons.1 found with same | found
      · exact other same.symm
      · exact free found

/-! ## Trimming -/

theorem trimStart_suffix (text : List Char) : trimStart text <:+ text :=
  List.dropWhile_suffix isBlank

theorem mem_of_mem_trim {text : List Char} {c : Char} (found : c ∈ trim text) : c ∈ text := by
  rw [trim, List.mem_reverse] at found
  have found := (trimStart_suffix _).mem found
  rw [List.mem_reverse] at found
  exact (trimStart_suffix text).mem found

/-- Neither end of a text is blank. -/
def Trimmed (text : List Char) : Prop :=
  (∀ c ∈ text.head?, isBlank c = false) ∧ (∀ c ∈ text.getLast?, isBlank c = false)

theorem trimmed_of_solid {text : List Char} (solid : ∀ c ∈ text, isBlank c = false) : Trimmed text :=
  ⟨fun c start => solid c (List.mem_of_mem_head? start), fun c last => solid c (List.mem_of_mem_getLast? last)⟩

theorem trimStart_of_head {text : List Char} (start : ∀ c ∈ text.head?, isBlank c = false) :
    trimStart text = text := by
  cases text with
  | nil => rfl
  | cons c rest => simp [trimStart, start c (by simp)]

theorem head_trimStart (text : List Char) : ∀ c ∈ (trimStart text).head?, isBlank c = false := by
  intro c start
  induction text with
  | nil => simp [trimStart] at start
  | cons d rest ih =>
    rw [trimStart, List.dropWhile_cons] at start
    split at start
    · exact ih start
    · next visible =>
      obtain rfl : d = c := by simpa using start
      simpa using visible

theorem Trimmed.trim_eq {text : List Char} (trimmed : Trimmed text) : trim text = text := by
  rw [trim, trimStart_of_head trimmed.1, trimStart_of_head, List.reverse_reverse]
  rw [List.head?_reverse]
  exact trimmed.2

theorem trimmed_trim (text : List Char) : Trimmed (trim text) := by
  constructor
  · intro c start
    -- Dropping blanks from the end keeps the head of what is left.
    rw [trim, List.head?_reverse] at start
    have kept := (trimStart_suffix (trimStart text).reverse)
    obtain ⟨dropped, whole⟩ := kept
    apply head_trimStart text c
    have same : (trimStart text).head? = ((trimStart text).reverse).getLast? := by simp
    rw [same, ← whole]
    cases rest : trimStart (trimStart text).reverse with
    | nil => simp [rest] at start
    | cons d rest' =>
      rw [rest] at start
      simpa using start
  · intro c last
    rw [trim, List.getLast?_reverse] at last
    exact head_trimStart _ c last

theorem trim_trim (text : List Char) : trim (trim text) = trim text :=
  (trimmed_trim text).trim_eq

theorem trimStart_eq_nil_iff {text : List Char} : trimStart text = [] ↔ isBlankText text := by
  simp [trimStart, isBlankText, List.dropWhile_eq_nil_iff]

theorem trim_eq_nil_iff {text : List Char} : trim text = [] ↔ isBlankText text := by
  constructor
  · intro empty
    rw [trim, List.reverse_eq_nil_iff, trimStart_eq_nil_iff, isBlankText, List.all_reverse] at empty
    have start := head_trimStart text
    cases rest : trimStart text with
    | nil => exact trimStart_eq_nil_iff.1 rest
    | cons c rest' =>
      rw [rest] at empty start
      have visible := start c (by simp)
      simp [visible] at empty
  · intro blank
    rw [trim, trimStart_eq_nil_iff.2 blank]
    rfl

/-- A text with a character that is not blank is not blank. -/
theorem not_isBlankText_of_mem {text : List Char} {c : Char} (found : c ∈ text)
    (visible : isBlank c = false) : isBlankText text = false := by
  rw [isBlankText, List.all_eq_false]
  exact ⟨c, found, by simp [visible]⟩

theorem Trimmed.not_isBlankText {text : List Char} (trimmed : Trimmed text) (some : text ≠ []) :
    isBlankText text = false := by
  cases text with
  | nil => exact absurd rfl some
  | cons c rest => exact not_isBlankText_of_mem (by simp) (trimmed.1 c (by simp))

theorem trimmed_append {first last : List Char} (start : Trimmed first) (finish : Trimmed last)
    (someFirst : first ≠ []) (someLast : last ≠ []) (middle : List Char) :
    Trimmed (first ++ middle ++ last) := by
  constructor
  · cases first with
    | nil => exact absurd rfl someFirst
    | cons d rest => exact start.1
  · intro c found
    obtain ⟨before, d, rfl⟩ := List.eq_nil_or_concat last |>.resolve_left someLast
    apply finish.2 c
    simpa [← List.append_assoc] using found

theorem trimmed_join {pieces : List (List Char)}
    (trimmed : ∀ piece ∈ pieces, piece ≠ [] ∧ Trimmed piece) : Trimmed (join sep pieces) := by
  induction pieces with
  | nil => simp [join, Trimmed]
  | cons piece others ih =>
    have first := trimmed piece (by simp)
    cases others with
    | nil => exact first.2
    | cons next others =>
      have rest : ∀ piece ∈ next :: others, piece ≠ [] ∧ Trimmed piece :=
        fun p member => trimmed p (by simp [member])
      have someRest : join sep (next :: others) ≠ [] := by
        cases others with
        | nil => exact (rest next (by simp)).1
        | cons _ _ => simp [join]
      rw [join, List.append_cons]
      · exact trimmed_append first.2 (ih rest) first.1 someRest [sep]
      · simp

/-! ## Blanks around a text -/

section

variable {text before after : List Char}

theorem isBlankText_reverse : isBlankText text.reverse = isBlankText text := List.all_reverse

theorem trimStart_append (blank : isBlankText before = true) : trimStart (before ++ text) = trimStart text := by
  rw [isBlankText, List.all_eq_true] at blank
  exact List.dropWhile_append_of_pos blank

theorem exists_trimStart (text : List Char) :
    ∃ before, isBlankText before = true ∧ text = before ++ trimStart text := by
  refine ⟨text.takeWhile isBlank, ?_, List.takeWhile_append_dropWhile.symm⟩
  rw [isBlankText, List.all_eq_true]
  exact fun c found => List.mem_takeWhile_imp found

/-- What trimming drops are blanks on both sides. -/
theorem exists_trim (text : List Char) :
    ∃ before after, isBlankText before = true ∧ isBlankText after = true ∧ text = before ++ trim text ++ after := by
  obtain ⟨before, blank, whole⟩ := exists_trimStart text
  obtain ⟨after, blank', whole'⟩ := exists_trimStart (trimStart text).reverse
  refine ⟨before, after.reverse, blank, isBlankText_reverse.trans blank', ?_⟩
  have same : trimStart text = trim text ++ after.reverse := by
    rw [trim, ← List.reverse_append, ← whole', List.reverse_reverse]
  rw [List.append_assoc, ← same, ← whole]

theorem trim_append_left (blank : isBlankText before = true) : trim (before ++ text) = trim text := by
  rw [trim, trimStart_append blank, trim]

theorem trim_append_right (blank : isBlankText after = true) : trim (text ++ after) = trim text := by
  by_cases empty : trimStart text = []
  · have blank' : isBlankText (text ++ after) = true := by
      rw [isBlankText, List.all_append, Bool.and_eq_true]
      exact ⟨trimStart_eq_nil_iff.1 empty, blank⟩
    rw [trim_eq_nil_iff.2 blank', trim_eq_nil_iff.2 (trimStart_eq_nil_iff.1 empty)]
  · have start : trimStart (text ++ after) = trimStart text ++ after := by
      rw [trimStart, List.dropWhile_append, if_neg (by simpa [trimStart] using empty), trimStart]
    rw [trim, start, List.reverse_append, trimStart_append (isBlankText_reverse.trans blank), trim]

theorem not_mem_of_isBlankText (visible : isBlank sep = false) (blank : isBlankText text = true) : sep ∉ text := by
  intro found
  rw [isBlankText, List.all_eq_true] at blank
  rw [blank sep found] at visible
  cases visible

theorem append_join (before piece : List Char) (others : List (List Char)) :
    before ++ join sep (piece :: others) = join sep ((before ++ piece) :: others) := by
  cases others <;> simp [join]

theorem join_append (pieces : List (List Char)) (last after : List Char) :
    join sep (pieces ++ [last]) ++ after = join sep (pieces ++ [last ++ after]) := by
  induction pieces with
  | nil => rfl
  | cons piece pieces ih => cases pieces <;> simp_all [join]

variable (visible : isBlank sep = false)

include visible

theorem trims_split_append_left (blank : isBlankText before = true) :
    (split sep (before ++ text)).map trim = (split sep text).map trim := by
  have free : ∀ piece ∈ split sep text, sep ∉ piece := fun piece => not_mem_of_mem_split
  have whole := join_split sep text
  cases pieces : split sep text with
  | nil => exact absurd pieces (split_ne_nil sep text)
  | cons piece others =>
    rw [pieces] at free whole
    have free' : ∀ piece' ∈ (before ++ piece) :: others, sep ∉ piece' := by
      rw [List.forall_mem_cons, List.mem_append, not_or]
      exact ⟨⟨not_mem_of_isBlankText visible blank, free piece (by simp)⟩, fun p member => free p (by simp [member])⟩
    rw [← whole, append_join, split_join (by simp) free', List.map_cons, List.map_cons, trim_append_left blank]

theorem trims_split_append_right (blank : isBlankText after = true) :
    (split sep (text ++ after)).map trim = (split sep text).map trim := by
  have free : ∀ piece ∈ split sep text, sep ∉ piece := fun piece => not_mem_of_mem_split
  have whole := join_split sep text
  obtain ⟨pieces, last, found⟩ := List.eq_nil_or_concat (split sep text) |>.resolve_left (split_ne_nil sep text)
  rw [List.concat_eq_append] at found
  rw [found] at free whole ⊢
  have free' : ∀ piece ∈ pieces ++ [last ++ after], sep ∉ piece := by
    intro piece member
    rcases List.mem_append.1 member with member | member
    · exact free piece (by simp [member])
    · rw [List.mem_singleton.1 member, List.mem_append, not_or]
      exact ⟨free last (by simp), not_mem_of_isBlankText visible blank⟩
  rw [← whole, join_append, split_join (by simp) free', List.map_append, List.map_append, List.map_singleton,
    List.map_singleton, trim_append_right blank]

/-- Blanks around a text do not count among its pieces either. -/
theorem trims_split_trim (text : List Char) : (split sep (trim text)).map trim = (split sep text).map trim := by
  obtain ⟨before, after, blank, blank', whole⟩ := exists_trim text
  calc (split sep (trim text)).map trim
      = (split sep (before ++ trim text ++ after)).map trim := by
        rw [trims_split_append_right visible blank', trims_split_append_left visible blank]
    _ = (split sep text).map trim := by rw [← whole]

end

end QueryCache.Text
