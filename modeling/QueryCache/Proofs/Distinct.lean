import QueryCache.Cache.Entry
import Mathlib.Data.List.Nodup

/-! Lists without repetitions, as sets of names and as the names of entries. -/

set_option autoImplicit false

namespace QueryCache

/-- One more name, unless it is there. -/
private theorem nodup_seen {seen : List String} (unique : seen.Nodup) (name : String) :
    (if seen.contains name then seen else seen ++ [name]).Nodup := by
  split
  · exact unique
  · next absent =>
    refine List.nodup_append.2 ⟨unique, by simp, fun other member last single => ?_⟩
    rintro rfl
    obtain rfl : other = name := by simpa using single
    exact absent (by simpa using member)

private theorem foldl_seen (names seen : List String) (unique : seen.Nodup) :
    let kept := names.foldl (fun seen name => if seen.contains name then seen else seen ++ [name]) seen
    kept.Nodup ∧ ∀ name, name ∈ kept ↔ name ∈ seen ∨ name ∈ names := by
  induction names generalizing seen with
  | nil => simp [unique]
  | cons first rest ih =>
    obtain ⟨kept, members⟩ := ih _ (nodup_seen unique first)
    refine ⟨kept, fun name => ?_⟩
    rw [List.foldl_cons, members, List.mem_cons]
    by_cases found : seen.contains first = true
    · have found' : first ∈ seen := by simpa using found
      rw [if_pos found]
      grind
    · rw [if_neg found, List.mem_append, List.mem_singleton, or_assoc]

theorem nodup_distinct (names : List String) : (distinct names).Nodup :=
  (foldl_seen names [] List.nodup_nil).1

@[simp]
theorem mem_distinct {names : List String} {name : String} : name ∈ distinct names ↔ name ∈ names := by
  have members := (foldl_seen names [] List.nodup_nil).2 name
  simpa [distinct] using members

theorem distinct_of_nodup {names : List String} (unique : names.Nodup) : distinct names = names := by
  suffices start : ∀ seen : List String, (seen ++ names).Nodup →
      names.foldl (fun seen name => if seen.contains name then seen else seen ++ [name]) seen =
        seen ++ names by
    exact start [] unique
  intro seen whole
  clear unique
  induction names generalizing seen with
  | nil => simp
  | cons first rest ih =>
    have absent : first ∉ seen := fun found =>
      (List.nodup_append.1 whole).2.2 first found first (by simp) rfl
    rw [List.foldl_cons, if_neg (by simpa using absent)]
    rw [List.append_cons] at whole
    rw [ih (seen ++ [first]) whole, List.append_assoc]
    rfl

theorem mem_placeTag {placed tag : String} {tags : List String} :
    tag ∈ placeTag placed tags ↔ tag = placed ∨ tag ∈ tags := by
  induction tags with
  | nil => simp [placeTag]
  | cons other rest ih =>
    by_cases first : placed ≤ other
    · simp [placeTag, first]
    · simp only [placeTag, first, if_false, List.mem_cons, ih]
      tauto

@[simp]
theorem mem_tagSet {tags : List String} {tag : String} : tag ∈ tagSet tags ↔ tag ∈ tags := by
  have placed (names : List String) : tag ∈ names.foldr placeTag [] ↔ tag ∈ names := by
    induction names with
    | nil => rfl
    | cons name rest ih => rw [List.foldr_cons, mem_placeTag, ih, List.mem_cons]
  rw [tagSet, placed, mem_distinct]

@[simp]
theorem tagSet_eq_nil {tags : List String} : tagSet tags = [] ↔ tags = [] := by
  simp only [List.eq_nil_iff_forall_not_mem, mem_tagSet]

/-! ## Entries under distinct names -/

theorem lookup_cons {α : Type} (entry : String × α) (rest : List (String × α)) (name : String) :
    (entry :: rest).lookup name = if name = entry.1 then some entry.2 else rest.lookup name := by
  rw [List.lookup_cons]
  by_cases same : name = entry.1
  · simp [same]
  · rw [beq_false_of_ne same, if_neg same]

theorem lookup_of_mem {α : Type} {entries : List (String × α)} {entry : String × α}
    (unique : (entries.map Prod.fst).Nodup) (member : entry ∈ entries) :
    entries.lookup entry.1 = some entry.2 := by
  induction entries with
  | nil => cases member
  | cons first rest ih =>
    rw [List.map_cons, List.nodup_cons] at unique
    obtain ⟨fresh, unique⟩ := unique
    rw [lookup_cons]
    rcases List.mem_cons.1 member with rfl | member
    · exact if_pos rfl
    · have apart : entry.1 ≠ first.1 := by
        intro same
        exact fresh (same ▸ List.mem_map_of_mem member)
      rw [if_neg apart, ih unique member]

end QueryCache
