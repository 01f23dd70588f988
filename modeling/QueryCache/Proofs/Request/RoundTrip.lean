import QueryCache.Proofs.Request.Written

/-! A request that was read is read again from the parameters it is written as.

Each section is read from its own slots; readable requests come back section by section. -/

set_option autoImplicit false

namespace QueryCache.Request

open Text Outcome

section Lists

variable {param : String}

/-- Conditions come back from the text of their section. -/
theorem readConditions_conditionsText {default : Operator} {s : Section}
    (single : default.IsDefault) (body : s.IsConditional default) :
    readConditions param default s.join s.conditionsText.toList = .ok s.conditions := by
  have tokens : s.conditionsText.toList =
      join ';' (s.conditions.map fun c => c.token.toList) := by
    rw [Section.conditionsText, toList_intercalate rfl, List.map_map]
    rfl
  rw [readConditions, tokens, chunks_join]
  · exact mapM_map_eq_ok fun c member => readCondition_token single (body.conditions c member)
  · intro token member
    obtain ⟨c, found, rfl⟩ := List.mem_map.1 member
    exact (token_whole (body.conditions c found)).2

/-- What a list of tokens is written as, when it is read as chunks. -/
theorem mapM_chunks_listText {α : Type} {token : α → String} {read : List Char → Parsed α}
    {items : List α} (back : ∀ item ∈ items, read (token item).toList = .ok item)
    (whole : ∀ item ∈ items, ';' ∉ (token item).toList ∧ isBlankText (token item).toList = false) :
    (match (listText ";" (items.map token)).map String.toList with
      | none => Except.ok []
      | some raw => (chunks raw).mapM read) = .ok items := by
  unfold listText
  cases items with
  | nil => rfl
  | cons first rest =>
    have tokens : (";".intercalate ((first :: rest).map token)).toList =
        join ';' ((first :: rest).map fun item => (token item).toList) := by
      rw [toList_intercalate rfl, List.map_map]
      rfl
    rw [if_neg (by simp), Option.map_some, tokens]
    dsimp only
    rw [chunks_join]
    · exact mapM_map_eq_ok back
    · intro token member
      obtain ⟨item, found, rfl⟩ := List.mem_map.1 member
      exact whole item found

/-- What a list of names is written as, when it is read between commas. -/
theorem commaList_listText {names : List String}
    (plain : ∀ name ∈ names, ',' ∉ name.toList ∧ trim name.toList = name.toList) :
    commaList ((listText "," names).map String.toList) = names.map String.toList := by
  unfold listText
  cases names with
  | nil => rfl
  | cons first rest =>
    rw [if_neg (by simp), Option.map_some, toList_intercalate rfl]
    refine commaList_join (by simp) fun item member => ?_
    obtain ⟨name, found, rfl⟩ := List.mem_map.1 member
    exact plain name found

theorem pairDirections_map (fields : List SortField) :
    pairDirections (fields.map (·.field)) (fields.map (·.direction)) = fields := by
  induction fields with
  | nil => rfl
  | cons first rest ih => rw [List.map_cons, List.map_cons, pairDirections, ih]

theorem filterMap_inclusions (i : Includes) :
    (inclusions i).filterMap Inclusion.relation? = i.relations ∧
      (inclusions i).filterMap Inclusion.count? = i.counts := by
  constructor <;>
    simp [inclusions, List.filterMap_map, Function.comp_def, Inclusion.relation?, Inclusion.count?]

end Lists

section Sections

variable {r : Request} {names : ParamNames} {enhanced : Bool} {params : RequestParams}

theorem readSection_slots {part : Option Section} {param joinParam : String}
    (held : ∀ slot ∈ Section.slots part param joinParam,
      textOf? params slot.1 = .ok (slot.2.map String.toList))
    (readable : ∀ s, part = some s → s.IsFilter) :
    readSection params param joinParam = .ok part := by
  have text := held _ (List.mem_cons_self)
  have joined := held _ (List.mem_cons_of_mem _ List.mem_cons_self)
  dsimp only at text joined
  cases part with
  | none =>
    simp only [Option.map_none] at text joined
    simp [readSection, readJoin, text, joined, bind, Except.bind, pure, Except.pure]
  | some s =>
    obtain ⟨body, fields, mode⟩ := readable s rfl
    simp only [Option.map_some] at text joined
    have conditions := @readConditions_conditionsText param .eq s (.inr rfl) body
    have some : s.conditions.isEmpty = false := by simpa using body.some
    obtain ⟨conditionsOf, join, term, fieldsOf, enhanced⟩ := s
    obtain rfl : term = none := body.term
    dsimp only at fields mode conditions some
    subst fields mode
    simp [readSection, readJoin, text, joined, Join.ofCode_code, conditions, some, bind,
      Except.bind, pure, Except.pure]

theorem readSearch_slots {part : Option Section}
    (text : textOf? params names.search =
      .ok ((part.map fun s => s.term.getD s.conditionsText).map String.toList))
    (joined : textOf? params names.searchJoin = .ok ((part.map fun s => s.join.code).map String.toList))
    (within : textOf? params names.searchFields =
      .ok ((part.bind fun s => listText ";" (s.fields.map SearchField.token)).map String.toList))
    (readable : ∀ s, part = some s → s.IsSearch enhanced) :
    readSearch params names enhanced = .ok part := by
  cases part with
  | none =>
    simp only [Option.map_none, Option.bind_none] at text joined within
    simp [readSearch, readJoin, readSearchFields, text, joined, within, bind, Except.bind, pure,
      Except.pure]
  | some s =>
    obtain ⟨fields, mode, body⟩ := readable s rfl
    have fieldsBack : readSearchFields names.searchFields
        ((listText ";" (s.fields.map SearchField.token)).map String.toList) = .ok s.fields :=
      mapM_chunks_listText (fun f member => readSearchField_token (fields f member))
        fun f member => searchField_token_whole (fields f member)
    have joinBack : readJoin params names.searchJoin .or = .ok s.join := by
      simp [readJoin, joined, Join.ofCode_code, bind, Except.bind, pure, Except.pure]
    simp only [Option.map_some, Option.bind_some] at text within
    unfold readSearch
    rw [text, joinBack, within]
    simp only [bind, Except.bind, fieldsBack]
    rcases body with body | ⟨term, body⟩
    · -- A first condition has a colon, so the text is read as conditions.
      have colon : s.conditionsText.toList.contains ':' = true := by
        obtain ⟨first, rest, conditions⟩ := List.exists_cons_of_ne_nil body.some
        have inside := (token_whole (body.conditions first (by simp [conditions]))).1
        rw [Section.conditionsText, toList_intercalate rfl, conditions, List.contains_iff_mem]
        cases rest with
        | nil => exact inside
        | cons _ _ => exact List.mem_append_left _ inside
      have back := @readConditions_conditionsText names.search .like s (.inl rfl) body
      rw [body.term, Option.getD_none, if_pos colon, back]
      obtain ⟨conditions, join, term, fieldsOf, enhancedOf⟩ := s
      obtain rfl : term = none := body.term
      obtain rfl : enhancedOf = enhanced := mode
      rfl
    · have free : ¬ term.toList.contains ':' = true := by simpa using body.free
      rw [body.held, Option.getD_some, if_neg free, body.trimmed.trim_eq, String.ofList_toList]
      obtain ⟨conditions, join, termOf, fieldsOf, enhancedOf⟩ := s
      obtain rfl : termOf = term := body.held
      obtain rfl : conditions = [] := body.bare
      obtain rfl : enhancedOf = enhanced := mode
      rfl

theorem readSort_slots {sort : Option (List SortField)}
    (order : textOf? params names.orderBy =
      .ok ((sort.bind fun fields => listText "," (fields.map (·.field))).map String.toList))
    (directions : textOf? params names.sortedBy =
      .ok ((sort.bind fun fields => listText "," (fields.map (·.direction.code))).map String.toList))
    (readable : ∀ fields, sort = some fields → fields ≠ [] ∧ ∀ f ∈ fields, FieldName f.field) :
    readSort params names = .ok sort := by
  unfold readSort
  rw [order, directions]
  cases sort with
  | none => rfl
  | some fields =>
    obtain ⟨some, valid⟩ := readable fields rfl
    -- Fields and directions are two lists of the same length, each read back by itself.
    have codes : commaList ((listText "," (fields.map (·.direction.code))).map String.toList) =
        (fields.map (·.direction)).map fun direction => direction.code.toList := by
      rw [commaList_listText, List.map_map, List.map_map]
      · rfl
      · intro code member
        obtain ⟨f, -, rfl⟩ := List.mem_map.1 member
        exact ⟨f.direction.code_item.1, f.direction.code_item.2.2⟩
    have directionsBack : ((fields.map (·.direction)).map fun direction => direction.code.toList).mapM
        (readDirection names.sortedBy) = .ok (fields.map (·.direction)) := by
      refine mapM_map_eq_ok fun direction _ => ?_
      have visible := direction.code_item.2.1
      simp [readDirection, visible, direction.ofCode_code]
    have written : listText "," (fields.map (·.field)) =
        .some (",".intercalate (fields.map (·.field))) := by
      rw [listText, if_neg (by simpa using some)]
    have items : commaList (.some (",".intercalate (fields.map (·.field))).toList) =
        (fields.map (·.field)).map String.toList := by
      have list := @commaList_listText (fields.map (·.field)) fun name member => ?_
      · rwa [written] at list
      · obtain ⟨f, inside, rfl⟩ := List.mem_map.1 member
        exact ⟨(valid f inside).free (by simp), (valid f inside).trimmed.trim_eq⟩
    have fieldsBack (token : List Char) : ((fields.map (·.field)).map String.toList).mapM
        (fun item => readField names.orderBy item token) = .ok (fields.map (·.field)) := by
      refine mapM_map_eq_ok fun name member => ?_
      obtain ⟨f, inside, rfl⟩ := List.mem_map.1 member
      exact readField_toList (valid f inside)
    simp only [Option.bind_some, bind, Except.bind, codes, directionsBack, written, Option.map_some,
      items, fieldsBack, pairDirections_map]
    rfl

theorem readIncludes_slots {includes : Option Includes}
    (direct : textOf? params names.includes =
      .ok ((includes.bind fun i => listText "," ((inclusions i).map Inclusion.path)).map String.toList))
    (other : textOf? params names.includesAlias = .ok none)
    (readable : ∀ i, includes = some i → i.Readable) :
    readIncludes params names = .ok includes := by
  have none : readInclusions params names.includesAlias = .ok [] := by
    simp [readInclusions, other, commaList, bind, Except.bind, pure, Except.pure]
  rw [readIncludes_eq, none]
  cases includes with
  | none =>
    simp only [readInclusions, direct]
    rfl
  | some i =>
    have paths := readable_inclusions (readable i rfl)
    have items : commaList ((listText "," ((inclusions i).map Inclusion.path)).map String.toList) =
        (inclusions i).map fun path => path.path.toList := by
      rw [commaList_listText, List.map_map]
      · rfl
      · intro path member
        obtain ⟨inclusion, inside, rfl⟩ := List.mem_map.1 member
        have plain := path_plain (paths inclusion inside)
        exact ⟨plain.1, plain.2.2.trim_eq⟩
    have kept : ((inclusions i).map fun path => path.path.toList).filter (fun item => !item.isEmpty) =
        (inclusions i).map fun path => path.path.toList := by
      refine List.filter_eq_self.2 fun item member => ?_
      obtain ⟨inclusion, inside, rfl⟩ := List.mem_map.1 member
      simpa using (path_plain (paths inclusion inside)).2.1
    have back : readInclusions params names.includes = .ok (inclusions i) := by
      unfold readInclusions
      rw [direct]
      simp only [Option.bind_some, bind, Except.bind, items, kept]
      exact mapM_map_eq_ok fun inclusion inside => readInclusion_path (paths inclusion inside)
    rw [back]
    obtain ⟨relations, counts⟩ := filterMap_inclusions i
    have some : (i.relations.isEmpty && i.counts.isEmpty) = false := by
      rcases (readable i rfl).some with some | some <;> simp [some]
    -- Paths and counts are written one after the other, each once, so that they part again.
    have whole : includesOf (inclusions i) = .some i := by
      simp [includesOf, relations, counts, distinct_of_nodup (readable i rfl).relationsOnce,
        distinct_of_nodup (readable i rfl).countsOnce, some]
    simp only [bind, Except.bind, List.append_nil, whole]
    rfl

theorem readGroupBy_slots {fields : List String}
    (text : textOf? params names.groupBy = .ok ((listText "," fields).map String.toList))
    (readable : ∀ name ∈ fields, FieldName name) : readGroupBy params names = .ok fields := by
  have items := @commaList_listText fields fun name member =>
    ⟨(readable name member).free (by simp), (readable name member).trimmed.trim_eq⟩
  have kept : (fields.map String.toList).filter (fun item => !item.isEmpty) =
      fields.map String.toList := by
    refine List.filter_eq_self.2 fun item member => ?_
    obtain ⟨name, found, rfl⟩ := List.mem_map.1 member
    simpa using (readable name found).ne_nil
  unfold readGroupBy
  rw [text]
  simp only [bind, Except.bind, items, kept]
  exact mapM_map_eq_ok fun name member => readField_toList (readable name member)

theorem readCompare_slots {comparisons : List Comparison}
    (text : textOf? params names.compare =
      .ok ((listText ";" (comparisons.map Comparison.token)).map String.toList))
    (readable : ∀ c ∈ comparisons, c.Readable) : readCompare params names = .ok comparisons := by
  unfold readCompare
  rw [text]
  exact mapM_chunks_listText (fun c member => readComparison_token (readable c member))
    fun c member => comparison_token_whole (readable c member)

end Sections

/-- Writing a request that was read, and reading it again, gives the same request. -/
theorem parse_toParams {params : RequestParams} {names : ParamNames} {enhanced : Bool} {r : Request}
    (distinctNames : (names.fields.map Prod.snd).Nodup)
    (parsed : parse params names enhanced = .ok r) :
    parse ((r.toParams names).map fun entry => (entry.1, .str entry.2)) names enhanced = .ok r := by
  change parse (r.written names) names enhanced = .ok r
  have readable := readable_of_parse parsed
  have held := fun slot (member : slot ∈ r.slots names) =>
    textOf_written distinctNames readable member
  have other := @textOf_alias r names distinctNames
  simp only [slots, List.forall_mem_append, List.forall_mem_cons, List.not_mem_nil,
    false_imp_iff, implies_true, and_true] at held
  obtain ⟨⟨⟨⟨⟨⟨⟨search, searchJoin, searchFields⟩, filter⟩, order, directions⟩, includes⟩, groupBy⟩,
    having⟩, compare⟩ := held
  have searchBack := readSearch_slots search searchJoin searchFields readable.search
  have filterBack := readSection_slots filter readable.filter
  have sortBack := readSort_slots order directions readable.sort
  have includesBack := readIncludes_slots includes other readable.includes
  have groupByBack := readGroupBy_slots groupBy readable.groupBy
  have havingBack := readSection_slots having readable.having
  have compareBack := readCompare_slots compare readable.compare
  unfold parse
  simp only [searchBack, filterBack, sortBack, includesBack, groupByBack, havingBack, compareBack,
    bind, Except.bind]
  rfl

/-- Colons in values, an operator without values, directions left out, a count among relations. -/
theorem parse_toParams_listing :
    let params : RequestParams := [
      ("search", .str "title: x ; body:like:12:30"), ("searchFields", .str "title:eq; body"),
      ("filter", .str " a:in: 1 , 2;;b:null;c: v"), ("filterJoin", .str " OR "),
      ("orderBy", .str "b, a"), ("sortedBy", .str "DESC"), ("with", .str "posts_count,,author"),
      ("groupBy", .str "a,b"), ("having", .str "n:>=:3"), ("compare", .str "a:<:b")]
    let r : Request := {
      search := some {
        conditions := [⟨"title", .like, ["x"], .or, false⟩, ⟨"body", .like, ["12:30"], .or, true⟩]
        join := .or
        fields := [⟨"title", some .eq⟩, ⟨"body", none⟩] }
      filter := some {
        conditions := [⟨"a", .isIn, ["1", "2"], .or, true⟩, ⟨"b", .isNull, [], .or, true⟩,
          ⟨"c", .eq, ["v"], .or, false⟩]
        join := .or }
      sort := some [⟨"b", .desc⟩, ⟨"a", .asc⟩]
      includes := some ⟨["author"], ["posts"]⟩
      groupBy := ["a", "b"]
      having := some { conditions := [⟨"n", .gte, ["3"], .and, true⟩] }
      compare := [⟨"a", .lt, "b"⟩] }
    parse params {} true = .ok r ∧
      parse ((r.toParams {}).map fun entry => (entry.1, .str entry.2)) {} true = .ok r := by
  intro params r
  have parsed : parse params {} true = .ok r := by decide +kernel
  exact ⟨parsed, parse_toParams (by decide) parsed⟩

end QueryCache.Request
