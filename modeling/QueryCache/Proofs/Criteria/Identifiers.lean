import QueryCache.Proofs.Criteria.Meaning
import QueryCache.Proofs.Request.FieldName

/-! Which fields carry identifiers. Only the last segment of a dotted name matters: it is `id`, or it ends
in `_id` after at least one more character. A segment that is `_id` alone ends in `_id` and is missed. -/

set_option autoImplicit false

namespace QueryCache

open Text

/-- What stands after the last dot of a name. -/
def lastSegment (name : String) : List Char := (split '.' name.toList).getLast (split_ne_nil '.' name.toList)

/-- A segment names an identifier. -/
def NamesIdentifier (segment : List Char) : Prop :=
  segment = "id".toList ∨ "_id".toList <:+ segment

instance (segment : List Char) : Decidable (NamesIdentifier segment) :=
  inferInstanceAs (Decidable (_ ∨ _))

namespace Text

variable {sep : Char} {text : List Char}

/-- A text ends in the last of its pieces, and that is all of it or follows a separator. -/
theorem exists_append_getLast_split (sep : Char) (text : List Char) :
    ∃ front, text = front ++ (split sep text).getLast (split_ne_nil sep text) ∧
      (front = [] ∨ ∃ before, front = before ++ [sep]) := by
  obtain ⟨pieces, last, parts⟩ : ∃ pieces last, split sep text = pieces ++ [last] :=
    ⟨_, _, (List.dropLast_append_getLast (split_ne_nil sep text)).symm⟩
  have whole : join sep (pieces ++ [last]) = text := by rw [← parts, join_split]
  simp only [parts, List.getLast_append_singleton]
  rw [← whole]
  clear parts whole
  induction pieces with
  | nil => exact ⟨[], rfl, .inl rfl⟩
  | cons piece rest ih =>
    obtain ⟨front, whole, bound⟩ := ih
    obtain ⟨next, others, same⟩ := List.exists_cons_of_ne_nil (List.append_ne_nil_of_right_ne_nil rest
      (List.cons_ne_nil last []))
    refine ⟨piece ++ sep :: front, ?_, .inr ?_⟩
    · rw [List.cons_append, same, join, ← same, whole]
      · simp
      · simp
    · rcases bound with rfl | ⟨before, rfl⟩
      · exact ⟨piece, rfl⟩
      · exact ⟨piece ++ sep :: before, by simp⟩

end Text

theorem Text.ne_dot_of_isWord {c : Char} (word : isWord c = true) : c ≠ '.' := by
  rintro rfl
  revert word
  decide

/-- The search goes from the end of a text through its last segment, as far as a dot. -/
theorem isIdField.ends_reverse {tail beyond : List Char} (word : ∀ c ∈ tail, isWord c = true)
    (bound : beyond = [] ∨ ∃ before, beyond = '.' :: before) :
    isIdField.ends (tail ++ beyond).reverse = true ↔
      tail = ['d', 'i'] ∨ ∃ c rest, tail = 'd' :: 'i' :: '_' :: c :: rest := by
  have stop : isWord '.' = false := by decide
  rw [isIdField.ends, List.reverse_reverse]
  match tail with
  | [] => rcases bound with rfl | ⟨before, rfl⟩ <;> simp
  | [a] => rcases bound with rfl | ⟨before, rfl⟩ <;> simp
  | a :: b :: rest =>
    by_cases same : a = 'd' ∧ b = 'i'
    · obtain ⟨rfl, rfl⟩ := same
      match rest with
      | [] => rcases bound with rfl | ⟨before, rfl⟩ <;> simp
      | [c] =>
        -- Nothing, or the dot, stands where another word character is wanted.
        have noDot : c ≠ '.' := ne_dot_of_isWord (word c (by simp))
        by_cases mark : c = '_'
        · subst mark
          rcases bound with rfl | ⟨before, rfl⟩ <;> simp [stop]
        · simp [noDot, mark]
      | c :: e :: rest =>
        have noDot : c ≠ '.' := ne_dot_of_isWord (word c (by simp))
        by_cases mark : c = '_'
        · subst mark
          have run : ∀ d ∈ e :: rest, isWord d = true := fun d member => word d (by simp [member])
          have first : isWord e = true := run e List.mem_cons_self
          have left : ((e :: rest) ++ beyond).dropWhile isWord = beyond := by
            rw [List.dropWhile_append_of_pos run]
            rcases bound with rfl | ⟨before, rfl⟩ <;> simp [stop]
          rw [List.cons_append] at left
          rcases bound with rfl | ⟨before, rfl⟩ <;> simp_all
        · simp [noDot, mark]
    · have other : ¬(a :: b :: rest = ['d', 'i'] ∨ ∃ c rest', a :: b :: rest = 'd' :: 'i' :: '_' :: c :: rest') := by
        rintro (whole | ⟨c, rest', whole⟩) <;> cases whole <;> exact same ⟨rfl, rfl⟩
      rw [iff_false_right other, Bool.not_eq_true]
      split
      · next whole =>
        cases whole
        exact absurd ⟨rfl, rfl⟩ same
      · rfl

/-- The same of a segment read from its end. -/
theorem namesIdentifier_iff_reverse {segment : List Char} :
    NamesIdentifier segment ∧ segment ≠ "_id".toList ↔
      segment.reverse = ['d', 'i'] ∨ ∃ c rest, segment.reverse = 'd' :: 'i' :: '_' :: c :: rest := by
  have turned : ['d', 'i'].reverse = "id".toList := rfl
  rw [List.reverse_eq_iff, turned]
  constructor
  · rintro ⟨rfl | ⟨stem, rfl⟩, longer⟩
    · exact .inl rfl
    · right
      obtain ⟨c, rest, same⟩ := List.exists_cons_of_ne_nil (l := stem.reverse)
        (fun none => longer (by simp [List.reverse_eq_nil_iff.1 none]))
      exact ⟨c, rest, by simp [same]⟩
  · rintro (rfl | ⟨c, rest, same⟩)
    · exact ⟨.inl rfl, by decide⟩
    · have whole : segment = (c :: rest).reverse ++ "_id".toList := by
        simpa using congrArg List.reverse same
      subst whole
      refine ⟨.inr (List.suffix_append _ _), fun short => ?_⟩
      have count := congrArg List.length short
      simp at count

/-- Of the names that a request can hold, those are fields of identifiers that end in the segment `id` or
in one that ends in `_id` and is more than that. -/
theorem isIdField_iff {name : String} (valid : FieldName name) :
    isIdField name = true ↔ NamesIdentifier (lastSegment name) ∧ lastSegment name ≠ "_id".toList := by
  obtain ⟨front, whole, bound⟩ := exists_append_getLast_split '.' name.toList
  have free : '.' ∉ lastSegment name := not_mem_of_mem_split (List.getLast_mem _)
  change name.toList = front ++ lastSegment name at whole
  generalize lastSegment name = segment at whole free ⊢
  have word : ∀ c ∈ segment, isWord c = true := by
    intro c member
    rcases valid.isWord_of_mem (whole ▸ List.mem_append_right front member) with rfl | word
    · exact absurd member free
    · exact word
  have unbroken : (name.toList.getLast? == some '\n') = false := by
    rw [beq_eq_false_iff_ne]
    intro last
    have solid := valid.not_isBlank_of_mem (List.mem_of_getLast? last)
    revert solid
    decide
  have searched : isIdField name = isIdField.ends (segment.reverse ++ front.reverse).reverse := by
    rw [isIdField, unbroken, whole]
    simp
  have beyond : front.reverse = [] ∨ ∃ before, front.reverse = '.' :: before := by
    rcases bound with rfl | ⟨before, rfl⟩
    · exact .inl rfl
    · exact .inr ⟨before.reverse, by simp⟩
  rw [searched, isIdField.ends_reverse (by simpa using word) beyond, namesIdentifier_iff_reverse]

namespace RequestCriterion

/-- A field that a request names carries identifiers if its last segment is `id` or ends in `_id` and is
more than that, and just then the values of a condition on it are decoded. -/
theorem identifiers_decoded {param name : String} {word token : List Char}
    (read : Request.readField param word token = .ok name) :
    (isIdField name = true ↔ NamesIdentifier (lastSegment name) ∧ lastSegment name ≠ "_id".toList) ∧
      ∀ (c : RequestCriterion) (transcoder : Transcoder) (condition : Condition) (op : Operator),
        c.transcoder = some transcoder → condition.field = name →
          c.leaf condition op true =
            if NamesIdentifier (lastSegment name) ∧ lastSegment name ≠ "_id".toList then
              (decodeValues name (condition.values.map .str) (some transcoder) c.policy c.entity).map fun
                | none => .never
                | some values => .field name (if op = .like then .eq else op) values
            else .ok (.field name op
              (if op = .like then (condition.values.map .str).map containsValue else condition.values.map .str)) := by
  have named := isIdField_iff (Request.readField_eq_ok.1 read).1
  refine ⟨named, ?_⟩
  rintro c transcoder condition op held rfl
  split
  · next identifier => exact leaf_decoded rfl held (named.2 identifier) op
  · next other => exact leaf_plain (.inr (.inr (by simpa [Condition.maybeEncodedId] using mt named.1 other))) op

theorem identifiers_decoded_author :
    let c : RequestCriterion := { request := {}, transcoder := some (.marked "u_") }
    Request.readField "filter" "author.role_id".toList "author.role_id:u_3".toList = .ok "author.role_id" ∧
      NamesIdentifier (lastSegment "author.role_id") ∧
      c.leaf ⟨"author.role_id", .like, ["u_3", "4"], .and, true⟩ .like true =
        .ok (.field "author.role_id" .eq [.int 3, .int 4]) := by
  intro c
  have read : Request.readField "filter" "author.role_id".toList "author.role_id:u_3".toList =
      .ok "author.role_id" := by decide +kernel
  have ending : NamesIdentifier (lastSegment "author.role_id") := by decide +kernel
  refine ⟨read, ending, ?_⟩
  have decoded : decodeValues "author.role_id" (["u_3", "4"].map .str) (some (.marked "u_")) c.policy c.entity =
      .ok (some [.int 3, .int 4]) :=
    decodeValues_eq_some.2 (.cons (.decoded (by decide +kernel) rfl) (.cons (.decimal (by decide +kernel) rfl) .nil))
  rw [(identifiers_decoded read).2 c _ _ _ rfl rfl, if_pos ⟨ending, by decide +kernel⟩, decoded]
  rfl

/-- A field whose last segment is `_id` alone is one that requests can hold, and that ends in `_id`. A
condition on it is compared as it is written, whatever the transcoder. -/
theorem bare_suffix_kept :
    let c : RequestCriterion := { request := {}, transcoder := some (.marked "u_") }
    Request.readField "filter" "_id".toList "_id:u_3".toList = .ok "_id" ∧
      NamesIdentifier (lastSegment "_id") ∧ isIdField "_id" = false ∧
      c.leaf ⟨"_id", .eq, ["u_3"], .and, true⟩ .eq true = .ok (.field "_id" .eq [.str "u_3"]) := by
  refine ⟨by decide +kernel, by decide +kernel, by decide +kernel, ?_⟩
  exact leaf_plain (.inr (.inr (by decide +kernel))) .eq

end RequestCriterion

end QueryCache
