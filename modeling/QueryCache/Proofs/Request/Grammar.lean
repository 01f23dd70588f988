import QueryCache.Proofs.Request.Readable

/-! The grammar of conditions.

A chunk between semicolons spells a condition in one of three forms: a field and an operator without
values, a field and its value, or a field, an operator and what the operator takes. Blanks around a
part do not count. Reading conditions accepts this grammar and nothing else, and what it gives is the
one condition that the chunk spells. -/

set_option autoImplicit false

namespace QueryCache

open Text Outcome

/-! ## Words among blanks -/

namespace Text

variable {text : List Char}

/-- A text is a word, with blanks around it or none. -/
structure Pads (text : List Char) (word : String) : Prop where
  filled : word.toList ≠ []
  trimmed : Trimmed word.toList
  around : ∃ before after, isBlankText before = true ∧ isBlankText after = true ∧
    text = before ++ word.toList ++ after

theorem pads_iff {word : String} : Pads text word ↔ word.toList ≠ [] ∧ trim text = word.toList := by
  constructor
  · rintro ⟨filled, trimmed, before, after, blank, blank', rfl⟩
    refine ⟨filled, ?_⟩
    rw [trim_append_right blank', trim_append_left blank, trimmed.trim_eq]
  · rintro ⟨filled, same⟩
    have trimmed := trimmed_trim text
    obtain ⟨before, after, blank, blank', whole⟩ := exists_trim text
    rw [same] at trimmed whole
    exact ⟨filled, trimmed, before, after, blank, blank', whole⟩

/-- Every text that is not blank is a word among blanks. -/
theorem pads_trim (filled : trim text ≠ []) : Pads text (String.ofList (trim text)) := by
  rw [pads_iff, String.toList_ofList]
  exact ⟨filled, rfl⟩

/-- A character is missing around a word if it is missing in it. -/
theorem Pads.not_mem {word : String} {sep : Char} (pads : Pads text word) (visible : isBlank sep = false)
    (free : sep ∉ word.toList) : sep ∉ text := by
  obtain ⟨before, after, blank, blank', rfl⟩ := pads.around
  simp only [List.mem_append, not_or]
  exact ⟨⟨not_mem_of_isBlankText visible blank, free⟩, not_mem_of_isBlankText visible blank'⟩

theorem forall₂_pads {pieces : List (List Char)} {words : List String} :
    List.Forall₂ Pads pieces words ↔
      (∀ piece ∈ pieces, trim piece ≠ []) ∧ words = pieces.map fun piece => String.ofList (trim piece) := by
  induction pieces generalizing words with
  | nil => simp
  | cons piece pieces ih =>
    rw [List.forall₂_cons_left_iff, List.forall_mem_cons, List.map_cons]
    constructor
    · rintro ⟨word, words, first, others, rfl⟩
      obtain ⟨filled, same⟩ := pads_iff.1 first
      obtain ⟨all, rfl⟩ := ih.1 others
      refine ⟨⟨same ▸ filled, all⟩, ?_⟩
      rw [same, String.ofList_toList]
    · rintro ⟨⟨filled, all⟩, rfl⟩
      exact ⟨_, _, pads_trim filled, ih.2 ⟨all, rfl⟩, rfl⟩

/-! ## Tokens of operators -/

theorem mem_lowerAfter {c : Char} (same : lowerChar c = c) (capital : c ≠ 'Σ') (dotted : c ≠ 'İ')
    (found : c ∈ text) (before : List Char) : c ∈ lowerAfter before text := by
  induction text generalizing before with
  | nil => cases found
  | cons d rest ih =>
    rw [lowerAfter, List.mem_append]
    rcases List.mem_cons.1 found with rfl | found
    · left
      simp [capital, dotted, same]
    · exact .inr (ih found (d :: before))

end Text

namespace Operator

variable {op : Operator} {token : List Char}

/-- A token names an operator if its letters in lower case are one of the words for it. -/
def IsNamedBy (op : Operator) (token : List Char) : Prop :=
  ∃ word, (word, op) ∈ words ∧ lower token = word.toList

theorem find_words : ∀ entry ∈ words, words.find? (fun other => other.1.toList == entry.1.toList) = some entry := by
  decide +kernel

theorem ofWord_eq_some : ofWord? token = some op ↔ op.IsNamedBy token := by
  rw [ofWord?, Option.map_eq_some_iff]
  constructor
  · rintro ⟨⟨word, _⟩, found, rfl⟩
    have same := List.find?_some found
    exact ⟨word, List.mem_of_find?_eq_some found, (eq_of_beq same).symm⟩
  · rintro ⟨word, member, same⟩
    rw [same]
    exact ⟨(word, op), find_words _ member, rfl⟩

/-- Blanks around a token do not count. -/
theorem ofToken_eq_some : ofToken? token = some op ↔ ∃ word, Pads token word ∧ op.IsNamedBy word.toList := by
  rw [ofToken?, ofWord_eq_some]
  constructor
  · intro named
    have filled : trim token ≠ [] := by
      intro empty
      rw [empty, ← ofWord_eq_some] at named
      cases named
    exact ⟨_, pads_trim filled, by rwa [String.toList_ofList]⟩
  · rintro ⟨word, pads, named⟩
    rwa [(pads_iff.1 pads).2]

theorem IsNamedBy.not_mem_colon (named : op.IsNamedBy token) : ':' ∉ token := by
  obtain ⟨word, member, same⟩ := named
  intro found
  have inside : ':' ∈ word.toList := same ▸ mem_lowerAfter (by decide) (by decide) (by decide) found []
  have free : ∀ entry ∈ words, ':' ∉ entry.1.toList := by decide +kernel
  exact free _ member inside

end Operator

/-! ## The forms of a condition -/

/-- What may stand after an operator, and the values that it stands for. -/
inductive Operands : Operator → List Char → List String → Prop
  | nothing {op : Operator} {rest : List Char} :
    op.isNullary = true → isBlankText rest = true → Operands op rest []
  | items {op : Operator} {pieces : List (List Char)} {values : List String} :
    op.isMultiValue = true → (op.isRange = true → values.length = 2) → values ≠ [] →
    (∀ piece ∈ pieces, ',' ∉ piece) → List.Forall₂ Pads pieces values → Operands op (join ',' pieces) values
  | text {op : Operator} {rest : List Char} {value : String} :
    op.isNullary = false → op.isMultiValue = false → Pads rest value → Operands op rest [value]

theorem Operands.pieces {op : Operator} {pieces : List (List Char)} {values : List String}
    (operands : Operands op (join ',' pieces) values) (nullary : op.isNullary = false) (multi : op.isMultiValue = true)
    (some : pieces ≠ []) (free : ∀ piece ∈ pieces, ',' ∉ piece) :
    List.Forall₂ Pads pieces values ∧ (op.isRange = true → values.length = 2) := by
  generalize whole : join ',' pieces = raw at operands
  cases operands with
  | nothing never => cases nullary.symm.trans never
  | text _ never => cases multi.symm.trans never
  | @items pieces' _ _ two some' free' pads =>
    have some'' : pieces' ≠ [] := by
      rintro rfl
      cases pads
      exact some' rfl
    rw [← split_join some free, whole, split_join some'' free']
    exact ⟨pads, two⟩

/-- The condition that a chunk spells, where sections have a default operator and a join. -/
inductive Spells (default : Operator) (join : Join) : List Char → Condition → Prop
  | bare {name token : List Char} {field word : String} {op : Operator} :
    FieldName field → Pads name field → Pads token word → op.IsNamedBy word.toList → op.isNullary = true →
    Spells default join (name ++ ':' :: token) ⟨field, op, [], join, true⟩
  | plain {name rest : List Char} {field value : String} :
    FieldName field → Pads name field → Pads rest value → ':' ∉ rest →
    (∀ op : Operator, op.IsNamedBy value.toList → op.isNullary = false) →
    Spells default join (name ++ ':' :: rest) ⟨field, default, [value], join, false⟩
  | full {name token rest : List Char} {field word : String} {op : Operator} {values : List String} :
    FieldName field → Pads name field → Pads token word → op.IsNamedBy word.toList → Operands op rest values →
    Spells default join (name ++ ':' :: token ++ ':' :: rest) ⟨field, op, values, join, true⟩

namespace Request

variable {param : String}

theorem readField_iff {name token : List Char} {field : String} :
    readField param name token = .ok field ↔ FieldName field ∧ Pads name field := by
  rw [readField_eq_ok, pads_iff]
  constructor
  · rintro ⟨valid, same⟩
    exact ⟨valid, valid.ne_nil, same.symm⟩
  · rintro ⟨valid, -, same⟩
    exact ⟨valid, same.symm⟩

theorem readValues_join {op : Operator} {pieces : List (List Char)} {token : List Char}
    (nullary : op.isNullary = false) (multi : op.isMultiValue = true) (some : pieces ≠ [])
    (free : ∀ piece ∈ pieces, ',' ∉ piece) :
    readValues param op (join ',' pieces) token =
      if pieces.any fun piece => (trim piece).isEmpty then fail param (.unterminatedList op) token
      else if op.isRange && pieces.length != 2 then fail param (.notTwoValues op) token
      else .ok (pieces.map fun piece => String.ofList (trim piece)) := by
  have items : (split ',' (trim (join ',' pieces))).map trim = pieces.map trim := by
    rw [trims_split_trim (by decide), split_join some free]
  -- A blank text has one piece, which is blank too.
  have blank : (trim (join ',' pieces)).isEmpty = true → (pieces.map trim).any List.isEmpty = true := by
    intro empty
    rw [← items, List.isEmpty_iff.1 empty]
    rfl
  have either : ((trim (join ',' pieces)).isEmpty || (pieces.map trim).any List.isEmpty) =
      pieces.any fun piece => (trim piece).isEmpty := by
    rw [Bool.eq_iff_iff, Bool.or_eq_true, or_iff_right_of_imp blank, List.any_map]
    rfl
  simp only [readValues, nullary, multi, Bool.false_eq_true, if_true, if_false, items, either, List.length_map,
    List.map_map, Function.comp_def]

theorem readValues_iff {op : Operator} {raw token : List Char} {values : List String} :
    readValues param op raw token = .ok values ↔ Operands op raw values := by
  -- An operator takes nothing, several values or one; each form is read in its own way, and spelled by its own
  -- rule.
  cases nullary : op.isNullary with
  | true =>
    have single : op.isMultiValue = false := by cases op <;> first | rfl | cases nullary
    have read : readValues param op raw token =
        if (trim raw).isEmpty then .ok [] else fail param (.takesNoValue op) token := by
      simp [readValues, nullary]
    rw [read]
    constructor
    · intro taken
      split at taken
      · next empty =>
        cases taken
        exact .nothing nullary (trim_eq_nil_iff.1 (List.isEmpty_iff.1 empty))
      · cases taken
    · rintro (⟨-, blank⟩ | ⟨multi, -, -, -, -⟩ | ⟨never, -, -⟩)
      · rw [trim_eq_nil_iff.2 blank]
        rfl
      · cases single.symm.trans multi
      · cases nullary.symm.trans never
  | false =>
    cases multi : op.isMultiValue with
    | true =>
      -- Every text is its pieces between commas.
      obtain ⟨pieces, some, free, rfl⟩ : ∃ pieces, pieces ≠ [] ∧ (∀ piece ∈ pieces, ',' ∉ piece) ∧ raw = join ',' pieces :=
        ⟨split ',' raw, split_ne_nil ',' raw, fun piece => not_mem_of_mem_split, (join_split ',' raw).symm⟩
      rw [readValues_join nullary multi some free]
      constructor
      · intro taken
        split at taken
        · cases taken
        · next filled =>
          split at taken
          · cases taken
          · next pair =>
            cases taken
            have visible : ∀ piece ∈ pieces, trim piece ≠ [] := by simpa using filled
            refine .items multi (fun range => ?_) (by simpa using some) free (forall₂_pads.2 ⟨visible, rfl⟩)
            simpa [range] using pair
      · intro operands
        obtain ⟨pads, two⟩ := operands.pieces nullary multi some free
        obtain ⟨visible, rfl⟩ := forall₂_pads.1 pads
        rw [List.length_map] at two
        rw [if_neg (by simpa using visible), if_neg (by simpa using two)]
    | false =>
      have read : readValues param op raw token =
          if (trim raw).isEmpty then fail param .missingValue token else .ok [String.ofList (trim raw)] := by
        simp [readValues, nullary, multi]
      rw [read]
      constructor
      · intro taken
        split at taken
        · cases taken
        · next filled =>
          cases taken
          exact .text nullary multi (pads_trim (by simpa using filled))
      · rintro (⟨never, -⟩ | ⟨never, -, -, -, -⟩ | ⟨-, -, pads⟩)
        · cases nullary.symm.trans never
        · cases multi.symm.trans never
        · obtain ⟨filled, same⟩ := pads_iff.1 pads
          rw [same, if_neg (by simpa using filled), String.ofList_toList]

variable {default : Operator} {join : Join}

/-- A chunk is read as a condition exactly if it spells that condition. -/
theorem readCondition_iff (single : default.IsDefault) {chunk : List Char} {c : Condition} :
    readCondition param default join chunk = .ok c ↔ Spells default join chunk c := by
  have nullary : default.isNullary = false := by rcases single with rfl | rfl <;> rfl
  have multi : default.isMultiValue = false := by rcases single with rfl | rfl <;> rfl
  constructor
  · -- The first colon ends the name; what stands behind it has a second colon or none, and without one it may be
    -- an operator that takes nothing.
    intro read
    unfold readCondition at read
    split at read
    · cases read
    · next name rest cut =>
      obtain ⟨rfl, -⟩ := of_cut_eq_some cut
      obtain ⟨field, readName, read⟩ := bind_eq_ok.1 read
      obtain ⟨valid, pads⟩ := readField_iff.1 readName
      split at read
      · next token tail cutRest =>
        obtain ⟨rfl, -⟩ := of_cut_eq_some cutRest
        split at read
        · cases read
        · next op found =>
          obtain ⟨values, readValues, same⟩ := bind_eq_ok.1 read
          cases same
          obtain ⟨word, pads', named⟩ := Operator.ofToken_eq_some.1 found
          have full : Spells default join (name ++ ':' :: token ++ ':' :: tail) ⟨field, op, values, join, true⟩ :=
            .full valid pads pads' named (readValues_iff.1 readValues)
          simpa using full
      · next uncut =>
        have free : ':' ∉ rest := cut_eq_none_iff.1 uncut
        split at read
        · next op found =>
          cases read
          obtain ⟨found, none⟩ := Option.filter_eq_some_iff.1 found
          obtain ⟨word, pads', named⟩ := Operator.ofToken_eq_some.1 found
          exact .bare valid pads pads' named none
        · next other =>
          obtain ⟨values, readValues, same⟩ := bind_eq_ok.1 read
          cases same
          rcases readValues_iff.1 readValues with ⟨never, -⟩ | ⟨never, -, -, -, -⟩ | ⟨-, -, pads'⟩
          · cases nullary.symm.trans never
          · cases multi.symm.trans never
          · refine .plain valid pads pads' free fun op named => ?_
            have found := Operator.ofToken_eq_some.2 ⟨_, pads', named⟩
            rw [found] at other
            simpa using other
  · -- A rule says where the colons are, so the same way through is taken.
    intro spells
    cases spells with
    | @bare name token field word op valid pads pads' named empty =>
      have free : ':' ∉ name := pads.not_mem (by decide) (valid.free (by simp))
      have free' : ':' ∉ token := pads'.not_mem (by decide) named.not_mem_colon
      have found : (Operator.ofToken? token).filter Operator.isNullary = some op :=
        Option.filter_eq_some_iff.2 ⟨Operator.ofToken_eq_some.2 ⟨_, pads', named⟩, empty⟩
      simp [readCondition, cut_append free, cut_eq_none_iff.2 free', readField_iff.2 ⟨valid, pads⟩, found,
        bind, Except.bind, pure, Except.pure]
    | @plain name rest field value valid pads pads' free' other =>
      have free : ':' ∉ name := pads.not_mem (by decide) (valid.free (by simp))
      have unfound : (Operator.ofToken? rest).filter Operator.isNullary = none := by
        rw [Option.filter_eq_none_iff]
        intro op found
        obtain ⟨word, pads'', named⟩ := Operator.ofToken_eq_some.1 found
        rw [← (pads_iff.1 pads'').2, (pads_iff.1 pads').2] at named
        simp [other op named]
      have values : readValues param default rest (name ++ ':' :: rest) = .ok [value] :=
        readValues_iff.2 (.text nullary multi pads')
      simp [readCondition, cut_append free, cut_eq_none_iff.2 free', readField_iff.2 ⟨valid, pads⟩, unfound, values,
        bind, Except.bind, pure, Except.pure]
    | @full name token rest field word op values valid pads pads' named operands =>
      have free : ':' ∉ name := pads.not_mem (by decide) (valid.free (by simp))
      have free' : ':' ∉ token := pads'.not_mem (by decide) named.not_mem_colon
      have found := Operator.ofToken_eq_some.2 ⟨_, pads', named⟩
      have values : readValues param op rest (name ++ ':' :: (token ++ ':' :: rest)) = .ok values :=
        readValues_iff.2 operands
      simp [readCondition, cut_append free, cut_append free', readField_iff.2 ⟨valid, pads⟩, found, values,
        bind, Except.bind, pure, Except.pure]

/-- Conditions between semicolons are read one by one. -/
theorem readConditions_iff (single : default.IsDefault) {raw : List Char} {conditions : List Condition} :
    readConditions param default join raw = .ok conditions ↔
      List.Forall₂ (Spells default join) (chunks raw) conditions := by
  rw [readConditions, mapM_eq_ok]
  constructor
  · exact List.Forall₂.imp fun _ _ => (readCondition_iff single).1
  · exact List.Forall₂.imp fun _ _ => (readCondition_iff single).2

theorem chunks_of_blank {raw : List Char} (blank : isBlankText raw = true) : chunks raw = [] := by
  rw [chunks, List.filter_eq_nil_iff]
  intro chunk member
  rw [isBlankText, List.all_eq_true] at blank
  have blank' : isBlankText chunk = true := by
    rw [isBlankText, List.all_eq_true]
    exact fun c found => blank c (mem_of_mem_split member found)
  simp [blank']

theorem mem_chunks {raw chunk : List Char} :
    chunk ∈ chunks raw ↔ chunk ∈ split ';' raw ∧ isBlankText chunk = false := by
  simp [chunks]

/-- The section that the conditions of a parameter make. -/
def sectionOf? (conditions : List Condition) : Option Section :=
  if conditions = [] then none else some { conditions }

theorem textOf_other {text : String} {name : String} (other : name ≠ param) :
    textOf? [(param, .str text)] name = .ok none := by
  have apart : (name == param) = false := by simpa using other
  simp [textOf?, List.lookup_cons, apart]

theorem readSection_filter (raw : String) :
    readSection [("filter", .str raw)] "filter" "filterJoin" =
      (readConditions "filter" .eq .and raw.toList).map sectionOf? := by
  have join : readJoin [("filter", .str raw)] "filterJoin" .and = .ok .and := by
    rw [readJoin, textOf_other (by decide)]
    rfl
  rw [readSection, join]
  cases blank : isBlankText raw.toList with
  | true =>
    have nothing : readConditions "filter" .eq .and raw.toList = .ok [] := by
      rw [readConditions, chunks_of_blank blank]
      rfl
    have text : textOf? [("filter", .str raw)] "filter" = .ok none := by simp [textOf?, blank]
    rw [nothing, text]
    rfl
  | false =>
    have text : textOf? [("filter", .str raw)] "filter" = .ok (some raw.toList) := by simp [textOf?, blank]
    rw [text]
    simp only [bind, Except.bind, pure, Except.pure]
    cases readConditions "filter" .eq .and raw.toList <;> simp [sectionOf?, Except.map]

/-- A request that only filters is what its conditions make. -/
theorem parse_filter_eq (raw : String) (enhanced : Bool) :
    parse [("filter", .str raw)] {} enhanced =
      (readConditions "filter" .eq .and raw.toList).map fun conditions => { filter := sectionOf? conditions } := by
  have rest : readSection [("filter", .str raw)] "having" "havingJoin" = .ok none := by
    rw [readSection, textOf_other (by decide), readJoin, textOf_other (by decide)]
    rfl
  simp (disch := decide) only [parse, readSearch, readSort, readIncludes, readGroupBy, readCompare, readSearchFields,
    readJoin, readSection_filter, rest, textOf_other]
  cases readConditions "filter" .eq .and raw.toList <;> rfl

/-- A filter is read exactly if each of its chunks spells a condition, and the conditions that are read
are those that the chunks spell, in their order. -/
theorem parse_filter_iff (raw : String) (enhanced : Bool) :
    ((∃ r, parse [("filter", .str raw)] {} enhanced = .ok r) ↔
      ∀ chunk ∈ split ';' raw.toList, isBlankText chunk = false → ∃ c, Spells .eq .and chunk c) ∧
    ∀ r, parse [("filter", .str raw)] {} enhanced = .ok r ↔
      ∃ conditions, List.Forall₂ (Spells .eq .and) (chunks raw.toList) conditions ∧
        r = { filter := if conditions = [] then none else some { conditions } } := by
  have reads (r : Request) : parse [("filter", .str raw)] {} enhanced = .ok r ↔
      ∃ conditions, readConditions "filter" .eq .and raw.toList = .ok conditions ∧
        { filter := sectionOf? conditions } = r := by
    rw [parse_filter_eq, map_eq_ok]
  have spelt {conditions : List Condition} : readConditions "filter" .eq .and raw.toList = .ok conditions ↔
      List.Forall₂ (Spells .eq .and) (chunks raw.toList) conditions := readConditions_iff (.inr rfl)
  constructor
  · simp only [← and_imp, ← mem_chunks]
    constructor
    · rintro ⟨r, read⟩ chunk member
      obtain ⟨conditions, run, -⟩ := (reads r).1 read
      obtain ⟨c, -, found⟩ := exists_of_mem_mapM run member
      exact ⟨c, (readCondition_iff (.inr rfl)).1 found⟩
    · intro all
      have step : ∀ chunk ∈ chunks raw.toList, ∃ c, readCondition "filter" .eq .and chunk = .ok c ∧ True := by
        intro chunk member
        obtain ⟨c, spells⟩ := all chunk member
        exact ⟨c, (readCondition_iff (.inr rfl)).2 spells, trivial⟩
      obtain ⟨conditions, run, -⟩ := exists_mapM_eq_ok step
      exact ⟨_, (reads _).2 ⟨conditions, run, rfl⟩⟩
  · intro r
    rw [reads]
    constructor
    · rintro ⟨conditions, read, rfl⟩
      exact ⟨conditions, spelt.1 read, rfl⟩
    · rintro ⟨conditions, all, rfl⟩
      exact ⟨conditions, spelt.2 all, rfl⟩

end Request

/-- Blanks, the case of an operator and empty chunks do not count; a value may hold colons and commas. -/
example : Request.parse [("filter", .str " a : NULL ;; b:In: 1 , x y ;c:like:d:e,f")] = .ok {
    filter := some { conditions := [⟨"a", .isNull, [], .and, true⟩, ⟨"b", .isIn, ["1", "x y"], .and, true⟩,
      ⟨"c", .like, ["d:e,f"], .and, true⟩] } } := by
  decide +kernel

/-- A chunk spells one condition at most. -/
theorem Spells.unique {default : Operator} {join : Join} (single : default.IsDefault) {chunk : List Char} {c c' : Condition}
    (spells : Spells default join chunk c) (spells' : Spells default join chunk c') : c = c' := by
  have read : Request.readCondition "" default join chunk = .ok c := (Request.readCondition_iff single).2 spells
  have read' : Request.readCondition "" default join chunk = .ok c' := (Request.readCondition_iff single).2 spells'
  exact Except.ok.inj (read.symm.trans read')

end QueryCache
