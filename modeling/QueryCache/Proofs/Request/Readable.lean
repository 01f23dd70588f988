import QueryCache.Proofs.Distinct
import QueryCache.Proofs.Outcome
import QueryCache.Proofs.Request.FieldName

/-! What every request that was read is like.

Each part has the shape that its own reader gives it: names are field names, values are as many
as their operator takes and neither blank nor wider than a separator, and a condition without an
operator of its own has the default one. -/

set_option autoImplicit false

namespace QueryCache

open Text Outcome

/-! ## Conditions -/

/-- The values that a condition with an operator can hold. -/
structure ValuesFor (op : Operator) (values : List String) : Prop where
  count : op.accepts values.length = true
  trimmed : ∀ value ∈ values, value.toList ≠ [] ∧ Trimmed value.toList
  whole : ∀ value ∈ values, ';' ∉ value.toList
  single : op.isMultiValue = true → ∀ value ∈ values, ',' ∉ value.toList

/-- A condition of a section with a default operator and a join. -/
structure Condition.Readable (default : Operator) (join : Join) (c : Condition) : Prop where
  field : FieldName c.field
  values : ValuesFor c.operator c.values
  joined : c.join = join
  /-- Without an operator of its own the text after the colon is the value, and only that. -/
  implicit : c.explicit = false → c.operator = default ∧
    ∀ value ∈ c.values, ':' ∉ value.toList ∧
      (Operator.ofToken? value.toList).filter Operator.isNullary = none

theorem Operator.not_isRange {op : Operator} (one : op.isMultiValue = false) :
    op.isRange = false := by
  cases op <;> first | rfl | cases one

/-- The operators that sections have by default take one value. -/
def Operator.IsDefault (op : Operator) : Prop := op = .like ∨ op = .eq

structure SearchField.Readable (f : SearchField) : Prop where
  field : FieldName f.field
  operator : ∀ op, f.operator = some op → (!op.isMultiValue && !op.isNullary) = true

structure Comparison.Readable (c : Comparison) : Prop where
  left : FieldName c.left
  right : FieldName c.right
  operator : c.operator.comparator?.isSome = true

/-- A section of conditions. -/
structure Section.IsConditional (default : Operator) (s : Section) : Prop where
  some : s.conditions ≠ []
  conditions : ∀ c ∈ s.conditions, c.Readable default s.join
  term : s.term = none

/-- A term that a search section can hold: no colon, and not blank. -/
structure Section.IsTerm (s : Section) (term : String) : Prop where
  held : s.term = some term
  bare : s.conditions = []
  visible : term.toList ≠ []
  trimmed : Trimmed term.toList
  free : ':' ∉ term.toList

structure Section.IsSearch (enhanced : Bool) (s : Section) : Prop where
  fields : ∀ f ∈ s.fields, f.Readable
  mode : s.enhanced = enhanced
  body : s.IsConditional .like ∨ ∃ term, s.IsTerm term

structure Section.IsFilter (s : Section) : Prop where
  body : s.IsConditional .eq
  fields : s.fields = []
  mode : s.enhanced = true

/-- Whether a path asks for a count. -/
def Request.isCountPath (path : List Char) : Bool :=
  countMark.length < path.length && countMark.isSuffixOf path

structure Includes.Readable (i : Includes) : Prop where
  some : i.relations ≠ [] ∨ i.counts ≠ []
  relations : ∀ name ∈ i.relations, FieldName name ∧ Request.isCountPath name.toList = false
  counts : ∀ name ∈ i.counts, FieldName name
  relationsOnce : i.relations.Nodup
  countsOnce : i.counts.Nodup

/-- What reading a request makes sure of. -/
structure Request.Readable (enhanced : Bool) (r : Request) : Prop where
  search : ∀ s, r.search = some s → s.IsSearch enhanced
  filter : ∀ s, r.filter = some s → s.IsFilter
  sort : ∀ fields, r.sort = some fields → fields ≠ [] ∧ ∀ f ∈ fields, FieldName f.field
  includes : ∀ i, r.includes = some i → i.Readable
  groupBy : ∀ name ∈ r.groupBy, FieldName name
  having : ∀ s, r.having = some s → s.IsFilter
  compare : ∀ c ∈ r.compare, c.Readable

namespace Request

variable {param : String} {params : RequestParams} {names : ParamNames} {enhanced : Bool}

theorem valuesFor_of_readValues {op : Operator} {raw token : List Char} {values : List String}
    (whole : ';' ∉ raw) (read : readValues param op raw token = .ok values) :
    ValuesFor op values := by
  have inside {c : Char} (found : c ∈ trim raw) : c ∈ raw := mem_of_mem_trim found
  unfold readValues at read
  dsimp only at read
  split at read
  · next nullary =>
    split at read
    · cases read
      exact ⟨by simp [Operator.accepts, nullary], by simp, by simp, by simp⟩
    · cases read
  · next nullary =>
    split at read
    · next multi =>
      split at read
      · cases read
      · next visible =>
        split at read
        · cases read
        · next pair =>
          cases read
          simp only [Bool.or_eq_true, List.any_eq_true, not_or, List.isEmpty_iff] at visible
          -- Each value is a piece between commas, trimmed, and has no character that the text has not.
          have pieces : ∀ value ∈ ((split ',' (trim raw)).map trim).map String.ofList,
              ∃ piece ∈ split ',' (trim raw), value.toList = trim piece := by
            intro value member
            simp only [List.map_map, List.mem_map, Function.comp] at member
            obtain ⟨piece, found, rfl⟩ := member
            exact ⟨piece, found, String.toList_ofList⟩
          refine ⟨?_, fun value member => ?_, fun value member found => ?_,
            fun _ value member found => ?_⟩
          · have some : 1 ≤ (split ',' (trim raw)).length :=
              List.length_pos_iff.2 (split_ne_nil ',' (trim raw))
            simp only [List.length_map] at pair ⊢
            unfold Operator.accepts
            rw [if_neg nullary]
            split
            · next range => simpa [range] using pair
            · simpa [multi] using some
          · obtain ⟨piece, found, same⟩ := pieces value member
            rw [same]
            exact ⟨fun empty => visible.2 ⟨trim piece, List.mem_map_of_mem found, empty⟩,
              trimmed_trim piece⟩
          · obtain ⟨piece, member, same⟩ := pieces value member
            rw [same] at found
            exact whole (inside (mem_of_mem_split member (mem_of_mem_trim found)))
          · obtain ⟨piece, member, same⟩ := pieces value member
            rw [same] at found
            exact not_mem_of_mem_split member (mem_of_mem_trim found)
    · next one =>
      split at read
      · cases read
      · next visible =>
        cases read
        have plain : op.isRange = false := op.not_isRange (by simpa using one)
        refine ⟨by simp [Operator.accepts, nullary, plain, one], ?_, ?_,
          fun multi => absurd multi one⟩
        · simpa using ⟨by simpa using visible, trimmed_trim raw⟩
        · simpa using fun found => whole (inside found)

theorem readable_of_readCondition {default : Operator} {join : Join} {chunk : List Char}
    {c : Condition} (single : default.IsDefault) (whole : ';' ∉ chunk)
    (read : readCondition param default join chunk = .ok c) : c.Readable default join := by
  unfold readCondition at read
  split at read
  · cases read
  · next name rest cut =>
    obtain ⟨rfl, _⟩ := of_cut_eq_some cut
    have wholeRest : ';' ∉ rest := fun found => whole (by simp [found])
    obtain ⟨field, readName, read⟩ := bind_eq_ok.1 read
    have valid := (readField_eq_ok.1 readName).1
    split at read
    · next head tail cutRest =>
      obtain ⟨rfl, _⟩ := of_cut_eq_some cutRest
      have wholeTail : ';' ∉ tail := fun found => wholeRest (by simp [found])
      split at read
      · cases read
      · obtain ⟨values, readValues, same⟩ := bind_eq_ok.1 read
        cases same
        exact ⟨valid, valuesFor_of_readValues wholeTail readValues, rfl, nofun⟩
    · next uncut =>
      have noColon : ':' ∉ rest := cut_eq_none_iff.1 uncut
      split at read
      · next op nullary =>
        cases read
        have takesNone : op.isNullary = true := (Option.filter_eq_some_iff.1 nullary).2
        exact ⟨valid, ⟨by simp [Operator.accepts, takesNone], by simp, by simp, by simp⟩, rfl, nofun⟩
      · next notNullary =>
        obtain ⟨values, readValues, same⟩ := bind_eq_ok.1 read
        cases same
        refine ⟨valid, valuesFor_of_readValues wholeRest readValues, rfl, fun _ => ⟨rfl, ?_⟩⟩
        -- The default operator takes one value, which is the trimmed rest.
        have only : values = [String.ofList (trim rest)] := by
          rcases single with rfl | rfl <;> unfold Request.readValues at readValues <;>
            simp only [Operator.isNullary, Operator.isMultiValue, Operator.isRange,
              Bool.false_eq_true, if_false] at readValues <;>
            split at readValues <;> cases readValues <;> rfl
        intro value member
        rw [only, List.mem_singleton] at member
        subst member
        rw [String.toList_ofList]
        refine ⟨fun found => noColon (mem_of_mem_trim found), ?_⟩
        rw [Operator.ofToken?, trim_trim]
        exact notNullary

/-- The chunks of a text hold no semicolon, and none of them is blank. -/
theorem of_mem_chunks {raw chunk : List Char} (member : chunk ∈ chunks raw) :
    ';' ∉ chunk ∧ isBlankText chunk = false := by
  obtain ⟨piece, visible⟩ := List.mem_filter.1 member
  exact ⟨not_mem_of_mem_split piece, by simpa using visible⟩

theorem readable_of_readConditions {default : Operator} {join : Join} {raw : List Char}
    {conditions : List Condition} (single : default.IsDefault)
    (read : readConditions param default join raw = .ok conditions) :
    ∀ c ∈ conditions, c.Readable default join :=
  forall_of_mapM_eq_ok read fun _ member _ readOne =>
    readable_of_readCondition single (of_mem_chunks member).1 readOne

/-! ## Sections -/

theorem readable_of_readSearchField {chunk : List Char} {f : SearchField}
    (read : readSearchField param chunk = .ok f) : f.Readable := by
  unfold readSearchField at read
  split at read
  · obtain ⟨field, readName, same⟩ := bind_eq_ok.1 read
    cases same
    exact ⟨(readField_eq_ok.1 readName).1, nofun⟩
  · split at read
    · cases read
    · next op usable =>
      obtain ⟨field, readName, same⟩ := bind_eq_ok.1 read
      cases same
      refine ⟨(readField_eq_ok.1 readName).1, fun other held => ?_⟩
      cases held
      exact (Option.filter_eq_some_iff.1 usable).2

theorem textOf_eq_some {text : List Char} (read : textOf? params param = .ok (some text)) :
    isBlankText text = false := by
  unfold textOf? at read
  split at read
  · cases read
  · cases read
  · next found _ =>
    split at read
    · cases read
    · next visible =>
      cases read
      simpa using visible
  · cases read

theorem readable_of_readSearch {s : Section}
    (read : readSearch params names enhanced = .ok (some s)) : s.IsSearch enhanced := by
  obtain ⟨raw, readText, read⟩ := bind_eq_ok.1 read
  obtain ⟨join, -, read⟩ := bind_eq_ok.1 read
  obtain ⟨fieldsText, -, read⟩ := bind_eq_ok.1 read
  obtain ⟨fields, readFields, read⟩ := bind_eq_ok.1 read
  have fieldsReadable : ∀ f ∈ fields, f.Readable := by
    cases fieldsText with
    | none => cases readFields; simp
    | some text =>
      exact forall_of_mapM_eq_ok readFields fun _ _ _ readOne => readable_of_readSearchField readOne
  cases raw with
  | none => cases read
  | some text =>
    dsimp only at read
    split at read
    · next colon =>
      obtain ⟨conditions, readAll, same⟩ := bind_eq_ok.1 read
      cases same
      refine ⟨fieldsReadable, rfl, .inl ⟨?_, readable_of_readConditions (.inl rfl) readAll, rfl⟩⟩
      -- The chunk with the colon is not blank, so there is a condition.
      rintro rfl
      have none : chunks text = [] := by
        cases pieces : chunks text with
        | nil => rfl
        | cons first rest =>
          rw [readConditions, pieces] at readAll
          cases mapM_eq_ok.1 readAll
      have member : ':' ∈ Text.join ';' (split ';' text) := by
        rw [join_split]
        simpa using colon
      rcases mem_join member with same | ⟨piece, found, inside⟩
      · cases same
      · have visible := not_isBlankText_of_mem inside (by decide)
        have kept : piece ∈ chunks text := List.mem_filter.2 ⟨found, by simp [visible]⟩
        rw [none] at kept
        cases kept
    · next free =>
      cases read
      refine ⟨fieldsReadable, rfl, .inr ⟨String.ofList (trim text), rfl, rfl, ?_, ?_, ?_⟩⟩
      · rw [String.toList_ofList]
        intro blank
        rw [trim_eq_nil_iff, textOf_eq_some readText] at blank
        cases blank
      · rw [String.toList_ofList]
        exact trimmed_trim text
      · rw [String.toList_ofList]
        exact fun found => free (by simpa using mem_of_mem_trim found)

theorem readable_of_readSection {joinParam : String} {s : Section}
    (read : readSection params param joinParam = .ok (some s)) : s.IsFilter := by
  obtain ⟨raw, -, read⟩ := bind_eq_ok.1 read
  obtain ⟨join, -, read⟩ := bind_eq_ok.1 read
  cases raw with
  | none => cases read
  | some text =>
    obtain ⟨conditions, readAll, same⟩ := bind_eq_ok.1 read
    split at same
    · cases same
    · next some =>
      cases same
      exact ⟨⟨by simpa using some, readable_of_readConditions (.inr rfl) readAll, rfl⟩, rfl, rfl⟩

/-! ## Fields, relations and comparisons -/

theorem mem_pairDirections {fields : List String} {directions : List Direction} {f : SortField}
    (member : f ∈ pairDirections fields directions) : f.field ∈ fields := by
  fun_induction pairDirections fields directions with
  | case1 => cases member
  | case2 field fields ih =>
    rcases List.mem_cons.1 member with rfl | member
    · simp
    · simp [ih member]
  | case3 field fields direction directions ih =>
    rcases List.mem_cons.1 member with rfl | member
    · simp
    · simp [ih member]

theorem readable_of_readSort {fields : List SortField}
    (read : readSort params names = .ok (some fields)) :
    fields ≠ [] ∧ ∀ f ∈ fields, FieldName f.field := by
  obtain ⟨order, -, read⟩ := bind_eq_ok.1 read
  obtain ⟨directionText, -, read⟩ := bind_eq_ok.1 read
  obtain ⟨directions, -, read⟩ := bind_eq_ok.1 read
  cases order with
  | none => cases read
  | some raw =>
    obtain ⟨names, readNames, same⟩ := bind_eq_ok.1 read
    cases same
    constructor
    · intro empty
      have length := (mapM_eq_ok.1 readNames).length_eq
      cases names with
      | nil => simp [commaList, split_ne_nil] at length
      | cons name rest => cases directions <;> simp [pairDirections] at empty
    · intro f member
      exact forall_of_mapM_eq_ok readNames
        (fun _ _ _ readOne => (readField_eq_ok.1 readOne).1) _ (mem_pairDirections member)

/-- What reading one relation path makes sure of. -/
def Inclusion.Readable : Inclusion → Prop
  | .relation name => FieldName name ∧ isCountPath name.toList = false
  | .count name => FieldName name

theorem readable_of_readInclusion {path : List Char} {i : Inclusion} (whole : trim path = path)
    (read : readInclusion param path = .ok i) : i.Readable := by
  unfold readInclusion at read
  split at read
  · obtain ⟨name, readName, same⟩ := bind_eq_ok.1 read
    cases same
    exact (readField_eq_ok.1 readName).1
  · next relation =>
    obtain ⟨name, readName, same⟩ := bind_eq_ok.1 read
    cases same
    obtain ⟨valid, same⟩ := readField_eq_ok.1 readName
    rw [whole] at same
    exact ⟨valid, by rw [isCountPath, same]; simpa only [Bool.not_eq_true] using relation⟩

/-- The paths of one parameter. -/
def readInclusions (params : RequestParams) (param : String) : Parsed (List Inclusion) := do
  let items := commaList (← textOf? params param)
  (items.filter fun item => !item.isEmpty).mapM (readInclusion param)

def Inclusion.relation? : Inclusion → Option String
  | .relation name => some name
  | .count _ => none

def Inclusion.count? : Inclusion → Option String
  | .count name => some name
  | .relation _ => none

/-- The relations and counts of paths, each once. -/
def includesOf (found : List Inclusion) : Option Includes :=
  let relations := distinct (found.filterMap Inclusion.relation?)
  let counts := distinct (found.filterMap Inclusion.count?)
  if relations.isEmpty && counts.isEmpty then none else some ⟨relations, counts⟩

/-- The paths of both parameters count as those of one. -/
theorem readIncludes_eq : readIncludes params names = (do
    let direct ← readInclusions params names.includes
    return includesOf (direct ++ (← readInclusions params names.includesAlias))) :=
  rfl

theorem readable_of_readInclusions {found : List Inclusion}
    (read : readInclusions params param = .ok found) : ∀ i ∈ found, i.Readable := by
  obtain ⟨text, -, read⟩ := bind_eq_ok.1 read
  refine forall_of_mapM_eq_ok read fun path member _ readOne => ?_
  refine readable_of_readInclusion ?_ readOne
  have item := (List.mem_filter.1 member).1
  cases text with
  | none => cases item
  | some raw =>
    obtain ⟨piece, -, rfl⟩ := List.mem_map.1 item
    exact trim_trim piece

theorem readable_of_includesOf {found : List Inclusion} {i : Includes}
    (all : ∀ i ∈ found, i.Readable) (held : includesOf found = some i) : i.Readable := by
  unfold includesOf at held
  dsimp only at held
  split at held
  · cases held
  · next some =>
    cases held
    refine ⟨?_, fun name member => ?_, fun name member => ?_, nodup_distinct _, nodup_distinct _⟩
    · rwa [Bool.and_eq_true, not_and_or, List.isEmpty_iff, List.isEmpty_iff] at some
    · rw [mem_distinct, List.mem_filterMap] at member
      obtain ⟨relation | count, member, same⟩ := member <;> cases same
      exact all _ member
    · rw [mem_distinct, List.mem_filterMap] at member
      obtain ⟨relation | count, member, same⟩ := member <;> cases same
      exact all _ member

theorem readable_of_readIncludes {i : Includes}
    (read : readIncludes params names = .ok (some i)) : i.Readable := by
  rw [readIncludes_eq] at read
  obtain ⟨direct, readDirect, read⟩ := bind_eq_ok.1 read
  obtain ⟨other, readAlias, held⟩ := bind_eq_ok.1 read
  refine readable_of_includesOf (fun i member => ?_) (Except.ok.inj held)
  rcases List.mem_append.1 member with member | member
  · exact readable_of_readInclusions readDirect i member
  · exact readable_of_readInclusions readAlias i member

theorem readable_of_readGroupBy {fields : List String}
    (read : readGroupBy params names = .ok fields) : ∀ name ∈ fields, FieldName name := by
  obtain ⟨raw, -, read⟩ := bind_eq_ok.1 read
  exact forall_of_mapM_eq_ok read fun _ _ _ readOne => (readField_eq_ok.1 readOne).1

theorem readable_of_readComparison {chunk : List Char} {c : Comparison}
    (read : readComparison param chunk = .ok c) : c.Readable := by
  unfold readComparison at read
  split at read
  · split at read
    · cases read
    · next op compares =>
      obtain ⟨left, readLeft, read⟩ := bind_eq_ok.1 read
      obtain ⟨right, readRight, same⟩ := bind_eq_ok.1 read
      cases same
      exact ⟨(readField_eq_ok.1 readLeft).1, (readField_eq_ok.1 readRight).1,
        (Option.filter_eq_some_iff.1 compares).2⟩
  · cases read

theorem readable_of_readCompare {comparisons : List Comparison}
    (read : readCompare params names = .ok comparisons) : ∀ c ∈ comparisons, c.Readable := by
  obtain ⟨raw, -, read⟩ := bind_eq_ok.1 read
  cases raw with
  | none => cases read; simp
  | some raw =>
    exact forall_of_mapM_eq_ok read fun _ _ _ readOne => readable_of_readComparison readOne

/-- Reading gives readable requests only. -/
theorem readable_of_parse {r : Request} (parsed : parse params names enhanced = .ok r) :
    r.Readable enhanced := by
  obtain ⟨search, readSearch, parsed⟩ := bind_eq_ok.1 parsed
  obtain ⟨filter, readFilter, parsed⟩ := bind_eq_ok.1 parsed
  obtain ⟨sort, readSort, parsed⟩ := bind_eq_ok.1 parsed
  obtain ⟨includes, readIncludes, parsed⟩ := bind_eq_ok.1 parsed
  obtain ⟨groupBy, readGroupBy, parsed⟩ := bind_eq_ok.1 parsed
  obtain ⟨having, readHaving, parsed⟩ := bind_eq_ok.1 parsed
  obtain ⟨compare, readCompare, same⟩ := bind_eq_ok.1 parsed
  cases same
  refine ⟨fun s held => ?_, fun s held => ?_, fun fields held => ?_, fun i held => ?_,
    readable_of_readGroupBy readGroupBy, fun s held => ?_, readable_of_readCompare readCompare⟩
  · cases held
    exact readable_of_readSearch readSearch
  · cases held
    exact readable_of_readSection readFilter
  · cases held
    exact readable_of_readSort readSort
  · cases held
    exact readable_of_readIncludes readIncludes
  · cases held
    exact readable_of_readSection readHaving

end Request

end QueryCache
