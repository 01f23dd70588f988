import QueryCache.Proofs.Request.Readable
import QueryCache.Request.Params

/-! Each part of a readable request is read back from its own token, and tokens come back from
their list: they are not blank, and hold nothing that would end them. -/

set_option autoImplicit false

namespace QueryCache

open Text Outcome

/-! ## Words of the grammar -/

namespace Operator

theorem ofToken_code (op : Operator) : ofToken? op.code.toList = some op := by
  cases op <;> decide

theorem free_code (op : Operator) {sep : Char} (separates : sep ∈ [':', ';', ',']) :
    sep ∉ op.code.toList := by
  simp only [List.mem_cons, List.not_mem_nil, or_false] at separates
  rcases separates with rfl | rfl | rfl <;> cases op <;> decide

end Operator

theorem Join.ofCode_code (join : Join) :
    Join.ofCode? (String.ofList (lower (trim join.code.toList))) = some join := by
  cases join <;> decide

theorem Direction.ofCode_code (direction : Direction) :
    Direction.ofCode? (String.ofList (lower direction.code.toList)) = some direction := by
  cases direction <;> decide

theorem Direction.code_item (direction : Direction) :
    ',' ∉ direction.code.toList ∧ direction.code.toList ≠ [] ∧
      trim direction.code.toList = direction.code.toList := by
  cases direction <;> decide

namespace Request

variable {param : String}

/-! ## Lists of tokens -/

/-- Tokens between semicolons come back one by one. -/
theorem chunks_join {tokens : List (List Char)}
    (whole : ∀ token ∈ tokens, ';' ∉ token ∧ isBlankText token = false) :
    chunks (join ';' tokens) = tokens := by
  cases tokens with
  | nil => rfl
  | cons first rest =>
    rw [chunks, split_join (by simp) fun token member => (whole token member).1]
    exact List.filter_eq_self.2 fun token member => by simp [(whole token member).2]

/-- Items between commas come back as they are when trimming leaves them alone. -/
theorem commaList_join {items : List (List Char)} (some : items ≠ [])
    (plain : ∀ item ∈ items, ',' ∉ item ∧ trim item = item) :
    commaList (.some (join ',' items)) = items := by
  rw [commaList, split_join some fun item member => (plain item member).1]
  have same := List.map_congr_left fun item member => (plain item member).2
  rw [same, List.map_id']

theorem map_ofList_toList (texts : List String) :
    (texts.map String.toList).map String.ofList = texts := by
  rw [List.map_map]
  exact (List.map_congr_left fun _ _ => String.ofList_toList).trans (List.map_id texts)

/-! ## Conditions -/

/-- The values of a condition as its token holds them. -/
def valuesText (values : List String) : List Char :=
  join ',' (values.map String.toList)

theorem toList_values (values : List String) :
    (",".intercalate values).toList = valuesText values :=
  toList_intercalate rfl values

theorem trimmed_valuesText {op : Operator} {values : List String} (held : ValuesFor op values) :
    Trimmed (valuesText values) := by
  refine trimmed_join fun piece member => ?_
  obtain ⟨value, found, rfl⟩ := List.mem_map.1 member
  exact held.trimmed value found

theorem readValues_valuesText {op : Operator} {values : List String} {token : List Char}
    (held : ValuesFor op values) (takes : op.isNullary = false) :
    readValues param op (valuesText values) token = .ok values := by
  have count := held.count
  rw [Operator.accepts, takes] at count
  unfold readValues
  rw [(trimmed_valuesText held).trim_eq, takes]
  -- One value is taken as it stands; several are parted at the commas, and the commas are only those that were
  -- put between them.
  cases multi : op.isMultiValue with
  | false =>
    rw [multi, op.not_isRange multi] at count
    obtain ⟨value, rfl⟩ := List.length_eq_one_iff.1 (by simpa using count)
    have visible := (held.trimmed value (by simp)).1
    simp [valuesText, join, visible]
  | true =>
    have some : values ≠ [] := by
      rintro rfl
      cases range : op.isRange <;> simp [multi, range] at count
    have pieces : (split ',' (valuesText values)).map trim = values.map String.toList := by
      rw [valuesText, split_join (by simpa using some), List.map_map]
      · exact List.map_congr_left fun value member => (held.trimmed value member).2.trim_eq
      · intro piece member
        obtain ⟨value, found, rfl⟩ := List.mem_map.1 member
        exact held.single multi value found
    have visible : (valuesText values).isEmpty = false := by
      obtain ⟨value, rest, rfl⟩ := List.exists_cons_of_ne_nil some
      have first := (held.trimmed value (by simp)).1
      cases rest <;> simp [valuesText, join, first]
    have filled : (values.map String.toList).any List.isEmpty = false := by
      rw [List.any_eq_false]
      intro piece member
      obtain ⟨value, found, rfl⟩ := List.mem_map.1 member
      simpa using (held.trimmed value found).1
    have pair : (op.isRange && (values.map String.toList).length != 2) = false := by
      cases range : op.isRange with
      | false => rfl
      | true => simpa [range] using count
    simp only [pieces, visible, filled, pair, Bool.or_false, Bool.false_eq_true, if_false, if_true,
      map_ofList_toList]

/-- A condition stands in its token with the operator, unless it has the default one. -/
theorem toList_token (c : Condition) : c.token.toList = c.field.toList ++ ':' ::
    if c.operator.isNullary then c.operator.code.toList
    else if !c.explicit && !(valuesText c.values).contains ':' then valuesText c.values
    else c.operator.code.toList ++ ':' :: valuesText c.values := by
  unfold Condition.token
  dsimp only
  rw [toList_values]
  split
  · simp
  · split <;> simp [← toList_values]

theorem readCondition_token {default : Operator} {join : Join} {c : Condition}
    (single : default.IsDefault) (readable : c.Readable default join) :
    readCondition param default join c.token.toList = .ok c := by
  obtain ⟨field, operator, values, other, explicit⟩ := c
  obtain ⟨valid, held, rfl, implicit⟩ := readable
  dsimp only at valid held implicit
  unfold readCondition
  rw [toList_token]
  dsimp only
  rw [cut_append (valid.free (by simp))]
  simp only [readField_toList valid]
  cases nullary : operator.isNullary with
  | true =>
    have none : values = [] := by
      have count := held.count
      rw [Operator.accepts, nullary] at count
      simpa using count
    have named : explicit = true := by
      cases explicit with
      | true => rfl
      | false =>
        obtain ⟨rfl, -⟩ := implicit rfl
        rcases single with rfl | rfl <;> cases nullary
    subst none named
    rw [if_pos rfl, cut_eq_none_iff.2 (operator.free_code (by simp)), Operator.ofToken_code]
    simp [Option.filter, nullary, bind, Except.bind, pure, Except.pure]
  | false =>
    rw [if_neg (by simp)]
    have back (token : List Char) :=
      @readValues_valuesText param operator values token held nullary
    cases explicit with
    | true =>
      simp only [Bool.not_true, Bool.false_and, Bool.false_eq_true, if_false]
      rw [cut_append (operator.free_code (by simp))]
      simp [Operator.ofToken_code, back, bind, Except.bind, pure, Except.pure]
    | false =>
      obtain ⟨rfl, plain⟩ := implicit rfl
      -- The default operator takes one value, so the text after the colon is that value.
      have one : ∃ value, values = [value] := by
        have count := held.count
        rcases single with rfl | rfl <;>
          exact List.length_eq_one_iff.1 (by simpa [Operator.accepts, Operator.isNullary,
            Operator.isRange, Operator.isMultiValue] using count)
      obtain ⟨value, rfl⟩ := one
      obtain ⟨noColon, notNullary⟩ := plain value (by simp)
      have text : valuesText [value] = value.toList := rfl
      rw [text] at back ⊢
      rw [if_pos (by simpa using noColon), cut_eq_none_iff.2 noColon]
      simp [notNullary, back, bind, Except.bind, pure, Except.pure]

/-- A condition's token holds a colon, no semicolon, and is not blank. -/
theorem token_whole {default : Operator} {join : Join} {c : Condition}
    (readable : c.Readable default join) :
    ':' ∈ c.token.toList ∧ ';' ∉ c.token.toList ∧ isBlankText c.token.toList = false := by
  have colon : ':' ∈ c.token.toList := by rw [toList_token]; simp
  refine ⟨colon, fun found => ?_, not_isBlankText_of_mem colon (by decide)⟩
  have inValues : ';' ∉ valuesText c.values := by
    intro found
    rcases mem_join found with same | ⟨piece, member, found⟩
    · cases same
    · obtain ⟨value, held, rfl⟩ := List.mem_map.1 member
      exact readable.values.whole value held found
  have inCode : ';' ∉ c.operator.code.toList := c.operator.free_code (by simp)
  rw [toList_token, List.mem_append, List.mem_cons] at found
  rcases found with found | same | found
  · exact readable.field.free (by simp) found
  · cases same
  · split at found
    · exact inCode found
    · split at found
      · exact inValues found
      · rw [List.mem_append, List.mem_cons] at found
        rcases found with found | same | found
        · exact inCode found
        · cases same
        · exact inValues found

/-! ## Fields to search in, and comparisons -/

theorem readSearchField_token {f : SearchField} (readable : f.Readable) :
    readSearchField param f.token.toList = .ok f := by
  obtain ⟨field, operator⟩ := f
  obtain ⟨valid, usable⟩ := readable
  have free : ':' ∉ field.toList := valid.free (by simp)
  cases operator with
  | none =>
    simp only [readSearchField, SearchField.token]
    rw [cut_eq_none_iff.2 free]
    simp [readField_toList valid, bind, Except.bind, pure, Except.pure]
  | some op =>
    have text : (SearchField.token ⟨field, op⟩).toList =
        field.toList ++ ':' :: op.code.toList := by simp [SearchField.token]
    have kept : (some op).filter (fun op => !op.isMultiValue && !op.isNullary) = some op := by
      simpa [Option.filter] using usable op rfl
    rw [text, readSearchField, cut_append free]
    simp [Operator.ofToken_code, kept, readField_toList valid, bind, Except.bind, pure, Except.pure]

theorem searchField_token_whole {f : SearchField} (readable : f.Readable) :
    ';' ∉ f.token.toList ∧ isBlankText f.token.toList = false := by
  obtain ⟨field, operator⟩ := f
  obtain ⟨valid, -⟩ := readable
  have visible := valid.trimmed.not_isBlankText valid.ne_nil
  cases operator with
  | none => exact ⟨valid.free (by simp), visible⟩
  | some op =>
    have text : (SearchField.token ⟨field, op⟩).toList =
        field.toList ++ ':' :: op.code.toList := by simp [SearchField.token]
    rw [text]
    refine ⟨fun found => ?_, not_isBlankText_of_mem (c := ':') (by simp) (by decide)⟩
    rw [List.mem_append, List.mem_cons] at found
    rcases found with found | same | found
    · exact valid.free (by simp) found
    · cases same
    · exact op.free_code (by simp) found

theorem toList_comparison (c : Comparison) : c.token.toList =
    join ':' [c.left.toList, c.operator.code.toList, c.right.toList] := by
  simp [Comparison.token, join]

theorem readComparison_token {c : Comparison} (readable : c.Readable) :
    readComparison param c.token.toList = .ok c := by
  obtain ⟨left, operator, right⟩ := c
  obtain ⟨validLeft, validRight, compares⟩ := readable
  have pieces : split ':' (join ':' [left.toList, operator.code.toList, right.toList]) =
      [left.toList, operator.code.toList, right.toList] := by
    refine split_join (by simp) fun piece member => ?_
    simp only [List.mem_cons, List.not_mem_nil, or_false] at member
    rcases member with rfl | rfl | rfl
    · exact validLeft.free (by simp)
    · exact operator.free_code (by simp)
    · exact validRight.free (by simp)
  have kept : (some operator).filter (fun op => op.comparator?.isSome) = some operator := by
    rw [Option.filter, if_pos compares]
  rw [toList_comparison, readComparison, pieces]
  simp [Operator.ofToken_code, kept, readField_toList validLeft, readField_toList validRight,
    bind, Except.bind, pure, Except.pure]

theorem comparison_token_whole {c : Comparison} (readable : c.Readable) :
    ';' ∉ c.token.toList ∧ isBlankText c.token.toList = false := by
  rw [toList_comparison]
  refine ⟨fun found => ?_, not_isBlankText_of_mem (c := ':') (by simp [join]) (by decide)⟩
  rcases mem_join found with same | ⟨piece, member, found⟩
  · cases same
  · simp only [List.mem_cons, List.not_mem_nil, or_false] at member
    rcases member with rfl | rfl | rfl
    · exact readable.left.free (by simp) found
    · exact c.operator.free_code (by simp) found
    · exact readable.right.free (by simp) found

/-! ## Relations -/

/-- The path that asks for a relation or a count. -/
def Inclusion.path : Inclusion → String
  | .relation name => name
  | .count name => name ++ "_count"

/-- The paths that ask for what a request includes. -/
def inclusions (i : Includes) : List Inclusion :=
  i.relations.map .relation ++ i.counts.map .count

theorem readable_inclusions {i : Includes} (readable : i.Readable) :
    ∀ path ∈ inclusions i, path.Readable := by
  intro path member
  rcases List.mem_append.1 member with member | member
  · obtain ⟨name, found, rfl⟩ := List.mem_map.1 member
    exact readable.relations name found
  · obtain ⟨name, found, rfl⟩ := List.mem_map.1 member
    exact readable.counts name found

theorem toList_count (name : String) :
    (Inclusion.path (.count name)).toList = name.toList ++ countMark := by
  rw [Inclusion.path, String.toList_append]
  rfl

theorem readInclusion_path {i : Inclusion} (readable : i.Readable) :
    readInclusion param i.path.toList = .ok i := by
  cases i with
  | relation name =>
    obtain ⟨valid, plain⟩ := readable
    rw [isCountPath] at plain
    rw [readInclusion, Inclusion.path, if_neg (by simp only [plain, Bool.false_eq_true, not_false_eq_true])]
    simp [readField_toList valid, bind, Except.bind, pure, Except.pure]
  | count name =>
    have valid : FieldName name := readable
    have marked : countMark.isSuffixOf (name.toList ++ countMark) = true := by simp
    have longer : countMark.length < (name.toList ++ countMark).length := by
      have some := List.length_pos_iff.2 valid.ne_nil
      rw [List.length_append]
      omega
    rw [readInclusion, toList_count, if_pos (by simp only [marked, longer, decide_true, Bool.and_true])]
    simp [readField_toList valid, bind, Except.bind, pure, Except.pure]

theorem path_plain {i : Inclusion} (readable : i.Readable) :
    ',' ∉ i.path.toList ∧ i.path.toList ≠ [] ∧ Trimmed i.path.toList := by
  cases i with
  | relation name => exact ⟨readable.1.free (by simp), readable.1.ne_nil, readable.1.trimmed⟩
  | count name =>
    have valid : FieldName name := readable
    have mark : ',' ∉ countMark ∧ countMark ≠ [] ∧ Trimmed countMark := by
      refine ⟨by decide, by decide, ?_, ?_⟩
      · rintro _ ⟨⟩
        decide
      · rintro _ ⟨⟩
        decide
    rw [toList_count]
    refine ⟨fun found => ?_, by simp [valid.ne_nil], ?_⟩
    · rcases List.mem_append.1 found with found | found
      · exact valid.free (by simp) found
      · exact mark.1 found
    · simpa using trimmed_append valid.trimmed mark.2.2 valid.ne_nil mark.2.1 []

end Request

end QueryCache
