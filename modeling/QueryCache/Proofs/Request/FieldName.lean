import QueryCache.Proofs.Text.Pieces
import QueryCache.Request.Parser

/-! The names of fields that requests can hold: dotted identifiers that name no operator. They
hold none of the characters that take a request apart, and they are read back as they are. -/

set_option autoImplicit false

namespace QueryCache

open Text

/-- A name that a request can hold where it wants a field. -/
structure FieldName (name : String) : Prop where
  unreserved : Operator.ofWord? name.toList = none
  dotted : Request.isFieldName name.toList = true

namespace Text

theorem isWord_of_isIdentifierStart {c : Char} (start : isIdentifierStart c = true) :
    isWord c = true := by
  rw [isIdentifierStart, Bool.or_eq_true, beq_iff_eq] at start
  rcases start with letter | rfl
  · have small : c.toNat < 128 := by
      rcases Bool.or_eq_true_iff.1 letter with upper | lower
      · have range : 65 ≤ c.toNat ∧ c.toNat ≤ 90 := of_decide_eq_true upper
        omega
      · have most : c.toNat ≤ 122 := of_decide_eq_true (Bool.and_eq_true_iff.1 lower).2
        omega
    simp [isWord, small, Char.isAlphanum, letter]
  · decide

theorem isWord_of_isBlank {c : Char} (blank : isBlank c = true) : isWord c = false ∧ c ≠ '.' := by
  have member : c.toNat ∈ blanks := by simpa [isBlank] using blank
  have each : ∀ n ∈ blanks, isWord (Char.ofNat n) = false ∧ Char.ofNat n ≠ '.' := by
    decide +kernel
  simpa [Char.ofNat_toNat] using each c.toNat member

end Text

theorem Request.isWord_of_mem {name : List Char} (dotted : Request.isFieldName name = true) {c : Char}
    (found : c ∈ name) : c = '.' ∨ isWord c = true := by
  rw [Request.isFieldName, List.all_eq_true] at dotted
  rw [← join_split '.' name] at found
  rcases mem_join found with rfl | ⟨piece, member, found⟩
  · exact .inl rfl
  · have word := dotted piece member
    cases piece with
    | nil => cases found
    | cons d rest =>
      simp only [Bool.and_eq_true, List.all_eq_true] at word
      rcases List.mem_cons.1 found with rfl | found
      · exact .inr (isWord_of_isIdentifierStart word.1)
      · exact .inr (word.2 c found)

namespace FieldName

variable {name : String}

theorem isWord_of_mem (valid : FieldName name) {c : Char} (found : c ∈ name.toList) :
    c = '.' ∨ isWord c = true := Request.isWord_of_mem valid.dotted found

theorem ne_nil (valid : FieldName name) : name.toList ≠ [] := by
  intro empty
  have dotted := valid.dotted
  rw [empty] at dotted
  simp [Request.isFieldName, split] at dotted

theorem not_isBlank_of_mem (valid : FieldName name) {c : Char} (found : c ∈ name.toList) :
    isBlank c = false := by
  by_contra blank
  obtain ⟨noWord, noDot⟩ := isWord_of_isBlank (by simpa using blank)
  rcases valid.isWord_of_mem found with dot | word
  · exact noDot dot
  · simp [noWord] at word

theorem trimmed (valid : FieldName name) : Trimmed name.toList :=
  trimmed_of_solid fun _ => valid.not_isBlank_of_mem

theorem visible (valid : FieldName name) : isBlankText name.toList = false :=
  valid.trimmed.not_isBlankText valid.ne_nil

/-- A field name holds none of the separators of requests. -/
theorem free (valid : FieldName name) {sep : Char} (separates : sep ∈ [':', ';', ',']) :
    sep ∉ name.toList := by
  intro found
  have part := valid.isWord_of_mem found
  revert part
  simp only [List.mem_cons, List.not_mem_nil, or_false] at separates
  rcases separates with rfl | rfl | rfl <;> decide

end FieldName

namespace Request

/-- What stands where a field is wanted is the name that is read, up to blanks around it. -/
theorem readField_eq_ok {param name : String} {word token : List Char} :
    readField param word token = .ok name ↔ FieldName name ∧ name.toList = trim word := by
  rw [readField]
  constructor
  · intro read
    split at read
    · cases read
    · split at read
      · cases read
      · next unreserved =>
        split at read
        · cases read
        · next dotted =>
          cases read
          refine ⟨⟨?_, ?_⟩, String.toList_ofList⟩
          · simpa using unreserved
          · simpa using dotted
  · rintro ⟨valid, same⟩
    simp only [← same]
    rw [if_neg (by simpa using valid.ne_nil), if_neg (by simp [valid.unreserved]),
      if_neg (by simp [valid.dotted]), String.ofList_toList]

theorem readField_toList {param name : String} {token : List Char} (valid : FieldName name) :
    readField param name.toList token = .ok name :=
  readField_eq_ok.2 ⟨valid, valid.trimmed.trim_eq.symm⟩

end Request

end QueryCache
