import QueryCache.Proofs.Request.Token

/-! The parameters that a readable request is written as, looked up again. -/

set_option autoImplicit false

namespace QueryCache

open Text Outcome

/-! ## Parameters as slots -/

/-- A parameter that may be written, with its text if it is. -/
abbrev Slot := String × Option String

def Slot.written? (slot : Slot) : Option (String × String) :=
  slot.2.map (slot.1, ·)

/-- The texts with a mark between them, when there are any. -/
def listText (mark : String) (texts : List String) : Option String :=
  if texts.isEmpty then none else some (mark.intercalate texts)

def Section.slots (part : Option Section) (param joinParam : String) : List Slot :=
  [(param, part.map Section.conditionsText), (joinParam, part.map fun s => s.join.code)]

namespace Request

/-- Every parameter that a request can be written as. -/
def slots (r : Request) (names : ParamNames) : List Slot :=
  [(names.search, r.search.map fun s => s.term.getD s.conditionsText),
    (names.searchJoin, r.search.map fun s => s.join.code),
    (names.searchFields, r.search.bind fun s => listText ";" (s.fields.map SearchField.token))] ++
  Section.slots r.filter names.filter names.filterJoin ++
  [(names.orderBy, r.sort.bind fun fields => listText "," (fields.map (·.field))),
    (names.sortedBy, r.sort.bind fun fields => listText "," (fields.map (·.direction.code)))] ++
  [(names.includes, r.includes.bind fun i => listText "," ((inclusions i).map Inclusion.path))] ++
  [(names.groupBy, listText "," r.groupBy)] ++
  Section.slots r.having names.having names.havingJoin ++
  [(names.compare, listText ";" (r.compare.map Comparison.token))]

theorem filterMap_listText (name mark : String) (texts : List String) :
    [(name, listText mark texts)].filterMap Slot.written? =
      if texts.isEmpty then [] else [(name, mark.intercalate texts)] := by
  unfold listText
  split <;> rfl

theorem filterParams_eq (part : Option Section) (param joinParam : String) :
    (part.map (·.filterParams param joinParam)).getD [] =
      (Section.slots part param joinParam).filterMap Slot.written? := by
  cases part <;> rfl

/-- A request is written as its slots that have a text. -/
theorem paramList_eq (r : Request) (names : ParamNames) :
    r.paramList names = (r.slots names).filterMap Slot.written? := by
  -- The parts are written one after the other, so each is compared by itself.
  obtain ⟨search, filter, sort, includes, groupBy, having, compare⟩ := r
  unfold paramList slots
  simp only [List.filterMap_append, filterParams_eq, filterMap_listText]
  congr 1
  · congr 3
    · congr 2
      · cases search with
        | none => rfl
        | some s =>
          simp only [Option.map_some, Option.getD_some, Section.searchParams, Option.bind_some]
          unfold listText
          cases s.fields <;> rfl
      · cases sort with
        | none => rfl
        | some fields => cases fields <;> rfl
    · cases includes with
      | none => rfl
      | some i =>
        have paths : (inclusions i).map Inclusion.path = i.relations ++ i.counts.map (· ++ "_count") := by
          simp [inclusions, Inclusion.path, Function.comp_def]
        simp only [Option.bind_some, filterMap_listText, paths]
  · simp

/-! ## Looking parameters up -/

theorem lookup_set (params : ParamTexts) (name text other : String) :
    (params.set name text).lookup other = if other = name then some text else params.lookup other := by
  induction params with
  | nil => rw [ParamTexts.set, lookup_cons]
  | cons entry rest ih =>
    obtain ⟨first, old⟩ := entry
    rw [ParamTexts.set]
    split
    · next found =>
      subst found
      rw [lookup_cons, lookup_cons]
      split <;> rfl
    · next apart =>
      rw [lookup_cons, lookup_cons, ih]
      dsimp only
      by_cases same : other = first
      · rw [if_pos same, if_pos same, if_neg (same ▸ apart)]
      · rw [if_neg same, if_neg same]

/-- Setting slots one by one under different names keeps them all. -/
theorem lookup_foldl_set {slots : List Slot} (unique : (slots.map Prod.fst).Nodup)
    (params : ParamTexts) (name : String) :
    ((slots.filterMap Slot.written?).foldl (fun params entry => params.set entry.1 entry.2) params).lookup
      name = ((slots.lookup name).join).or (params.lookup name) := by
  -- A later slot has another name, so it leaves the earlier ones alone.
  induction slots generalizing params with
  | nil => simp
  | cons slot rest ih =>
    obtain ⟨first, text⟩ := slot
    rw [List.map_cons, List.nodup_cons] at unique
    obtain ⟨fresh, unique⟩ := unique
    have absent : rest.lookup first = none := by
      rw [List.lookup_eq_none_iff]
      intro entry member
      have apart : first ≠ entry.1 := by
        rintro rfl
        exact fresh (List.mem_map.2 ⟨entry, member, rfl⟩)
      simpa using apart
    cases text with
    | none =>
      simp only [List.filterMap_cons, Slot.written?, Option.map_none]
      rw [ih unique, lookup_cons]
      by_cases same : name = first
      · simp [same, absent]
      · simp [same]
    | some text =>
      simp only [List.filterMap_cons, Slot.written?, Option.map_some, List.foldl_cons]
      rw [ih unique, lookup_cons, lookup_set]
      by_cases same : name = first
      · simp [same, absent]
      · simp [same]

/-- What a request was written as, taken as parameters again. -/
def written (r : Request) (names : ParamNames) : RequestParams :=
  (r.toParams names).map fun entry => (entry.1, .str entry.2)

theorem lookup_map {α β : Type} (f : α → β) (entries : List (String × α)) (name : String) :
    (entries.map fun entry => (entry.1, f entry.2)).lookup name = (entries.lookup name).map f := by
  induction entries with
  | nil => rfl
  | cons entry rest ih =>
    rw [List.map_cons, lookup_cons, lookup_cons, ih]
    split <;> rfl

/-- The names that slots stand under are among the names of parameters. -/
theorem slots_names (r : Request) (names : ParamNames) :
    (names.includesAlias :: (r.slots names).map Prod.fst).Perm (names.fields.map Prod.snd) := by
  simp only [slots, Section.slots, ParamNames.fields, List.map_cons, List.map_nil,
    List.cons_append, List.nil_append]
  -- The same names in another order: each is there as often.
  rw [List.perm_iff_count]
  intro name
  simp only [List.count_cons, List.count_nil]
  omega

section Written

variable {r : Request} {names : ParamNames} {enhanced : Bool}

theorem lookup_written (distinctNames : (names.fields.map Prod.snd).Nodup) (name : String) :
    (r.written names).lookup name = ((r.slots names).lookup name).join.map .str := by
  have unique := ((slots_names r names).nodup_iff.2 distinctNames).of_cons
  rw [written, toParams, paramList_eq, lookup_map, lookup_foldl_set unique]
  simp

/-- A list of visible texts is visible. -/
theorem visible_listText {sep : Char} {mark text : String} {texts : List String}
    (one : mark.toList = [sep]) (visible : ∀ text ∈ texts, isBlankText text.toList = false)
    (held : listText mark texts = some text) : isBlankText text.toList = false := by
  unfold listText at held
  split at held
  · cases held
  · next some =>
    cases held
    rw [toList_intercalate one]
    cases texts with
    | nil => exact absurd rfl some
    | cons first rest =>
      -- The first text has a visible character, and it is one of the whole.
      obtain ⟨c, found, blank⟩ := List.all_eq_false.1 (visible first (by simp))
      refine not_isBlankText_of_mem (c := c) ?_ (by simpa using blank)
      cases rest with
      | nil => exact found
      | cons _ _ => exact List.mem_append_left _ found

theorem conditionsText_eq {default : Operator} {s : Section} (body : s.IsConditional default) :
    listText ";" (s.conditions.map Condition.token) = some s.conditionsText := by
  rw [listText, if_neg (by simpa using body.some)]
  rfl

theorem visible_conditionsText {default : Operator} {s : Section} (body : s.IsConditional default) :
    isBlankText s.conditionsText.toList = false := by
  refine visible_listText rfl (fun token member => ?_) (conditionsText_eq body)
  obtain ⟨c, found, rfl⟩ := List.mem_map.1 member
  exact (token_whole (body.conditions c found)).2.2

theorem visible_code (join : Join) : isBlankText join.code.toList = false := by
  cases join <;> decide

theorem visible_section {part : Option Section} {param joinParam : String}
    (readable : ∀ s, part = some s → s.IsFilter) :
    ∀ slot ∈ Section.slots part param joinParam, ∀ text, slot.2 = some text →
      isBlankText text.toList = false := by
  intro slot member text held
  cases part with
  | none =>
    simp only [Section.slots, List.mem_cons, List.not_mem_nil, or_false] at member
    rcases member with rfl | rfl <;> cases held
  | some s =>
    simp only [Section.slots, List.mem_cons, List.not_mem_nil, or_false] at member
    rcases member with rfl | rfl <;> cases held
    · exact visible_conditionsText (readable s rfl).body
    · exact visible_code s.join

/-- No parameter of a readable request is blank. -/
theorem visible_slots (readable : r.Readable enhanced) :
    ∀ slot ∈ r.slots names, ∀ text, slot.2 = some text → isBlankText text.toList = false := by
  intro slot member text held
  simp only [slots, List.mem_append, List.mem_cons, List.not_mem_nil, or_false] at member
  -- One case for each parameter, in the order in which they are written.
  rcases member with (((((((rfl | rfl | rfl) | inFilter) | (rfl | rfl)) | rfl) | rfl) | inHaving) | rfl)
  · obtain ⟨s, found, rfl⟩ := Option.map_eq_some_iff.1 held
    rcases (readable.search s found).body with body | ⟨term, body⟩
    · rw [body.term]
      exact visible_conditionsText body
    · rw [body.held]
      exact body.trimmed.not_isBlankText body.visible
  · obtain ⟨s, -, rfl⟩ := Option.map_eq_some_iff.1 held
    exact visible_code s.join
  · obtain ⟨s, found, held⟩ := Option.bind_eq_some_iff.1 held
    refine visible_listText rfl (fun token member => ?_) held
    obtain ⟨f, inside, rfl⟩ := List.mem_map.1 member
    exact (searchField_token_whole ((readable.search s found).fields f inside)).2
  · exact visible_section readable.filter slot inFilter text held
  · obtain ⟨fields, found, held⟩ := Option.bind_eq_some_iff.1 held
    refine visible_listText rfl (fun name member => ?_) held
    obtain ⟨f, inside, rfl⟩ := List.mem_map.1 member
    exact ((readable.sort fields found).2 f inside).visible
  · obtain ⟨fields, -, held⟩ := Option.bind_eq_some_iff.1 held
    refine visible_listText rfl (fun name member => ?_) held
    obtain ⟨f, -, rfl⟩ := List.mem_map.1 member
    cases f.direction <;> decide
  · obtain ⟨i, found, held⟩ := Option.bind_eq_some_iff.1 held
    refine visible_listText rfl (fun name member => ?_) held
    obtain ⟨path, inside, rfl⟩ := List.mem_map.1 member
    have plain := path_plain (readable_inclusions (readable.includes i found) path inside)
    exact plain.2.2.not_isBlankText plain.2.1
  · exact visible_listText rfl (fun name member => (readable.groupBy name member).visible) held
  · exact visible_section readable.having slot inHaving text held
  · refine visible_listText rfl (fun token member => ?_) held
    obtain ⟨c, inside, rfl⟩ := List.mem_map.1 member
    exact (comparison_token_whole (readable.compare c inside)).2

/-- A written parameter has the text of its slot. -/
theorem textOf_written (distinctNames : (names.fields.map Prod.snd).Nodup)
    (readable : r.Readable enhanced) {slot : Slot} (member : slot ∈ r.slots names) :
    textOf? (r.written names) slot.1 = .ok (slot.2.map String.toList) := by
  have unique := ((slots_names r names).nodup_iff.2 distinctNames).of_cons
  have found : (r.written names).lookup slot.1 = slot.2.map .str := by
    rw [lookup_written distinctNames, lookup_of_mem unique member]
    rfl
  rw [textOf?, found]
  cases held : slot.2 with
  | none => rfl
  | some text =>
    have visible := visible_slots readable slot member text held
    simp [visible]

/-- Nothing is written under the second name of the relations. -/
theorem textOf_alias (distinctNames : (names.fields.map Prod.snd).Nodup) :
    textOf? (r.written names) names.includesAlias = .ok none := by
  have fresh := (List.nodup_cons.1 ((slots_names r names).nodup_iff.2 distinctNames)).1
  have absent : (r.slots names).lookup names.includesAlias = none := by
    rw [List.lookup_eq_none_iff]
    intro slot member
    have apart : names.includesAlias ≠ slot.1 := by
      intro same
      exact fresh (same ▸ List.mem_map_of_mem member)
    simpa using apart
  rw [textOf?, lookup_written distinctNames, absent]
  rfl

end Written

end Request

end QueryCache
