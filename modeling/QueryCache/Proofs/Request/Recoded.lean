import QueryCache.Proofs.Criteria.Interchange

/-! Parameters in which tokens stand in place of numbers.

A numeral is replaced where it stands in the text of a search or of a filter: as the value of a condition
on an identifier, or as one of the values in its list. The text that comes out spells the same conditions
with those values recoded, so it is read, and asks for the same. -/

set_option autoImplicit false

namespace QueryCache

open Text Outcome

namespace Text

theorem Pads.unique {text : List Char} {word word' : String} (pads : Pads text word) (pads' : Pads text word') :
    word = word' :=
  String.toList_inj.1 ((pads_iff.1 pads).2.symm.trans (pads_iff.1 pads').2)

end Text

/-! ## Texts with a token in place of a numeral -/

/-- A text that is kept, or a numeral among blanks with the token of its number in its place. -/
inductive Replaced (t : Transcoder) : List Char → List Char → Prop
  | kept {text : List Char} : Replaced t text text
  | token {before digits after : List Char} : isBlankText before = true → isBlankText after = true → Numeral digits →
    Replaced t (before ++ digits ++ after) (before ++ (t.encode (number digits)).toList ++ after)

/-- A condition that is kept, or one on an identifier with tokens in place of some numerals: of its only
value, compared by the default operator or by one that it names, or of values in its list. -/
inductive Retold (t : Transcoder) : List Char → List Char → Prop
  | kept {chunk : List Char} : Retold t chunk chunk
  | plain {name value value' : List Char} : ':' ∉ name → isIdField (String.ofList (trim name)) = true →
    Replaced t value value' → Retold t (name ++ ':' :: value) (name ++ ':' :: value')
  | single {name word value value' : List Char} {op : Operator} : ':' ∉ name →
    isIdField (String.ofList (trim name)) = true → Operator.ofToken? word = some op → op.isMultiValue = false →
    Replaced t value value' → Retold t (name ++ ':' :: word ++ ':' :: value) (name ++ ':' :: word ++ ':' :: value')
  | several {name word : List Char} {op : Operator} {values values' : List (List Char)} : ':' ∉ name →
    isIdField (String.ofList (trim name)) = true → Operator.ofToken? word = some op → op.isMultiValue = true →
    (∀ value ∈ values, ',' ∉ value) → List.Forall₂ (Replaced t) values values' →
    Retold t (name ++ ':' :: word ++ ':' :: Text.join ',' values) (name ++ ':' :: word ++ ':' :: Text.join ',' values')

section

variable {t : Transcoder} {default : Operator} {join : Join} {chunk chunk' : List Char} {condition : Condition}

theorem Numeral.not_mem {digits : List Char} (numeral : Numeral digits) {c : Char} (other : isDecimal c = false) :
    c ∉ digits := by
  have decimal : digits ≠ [] ∧ ∀ c ∈ digits, isDecimal c = true := by simpa [isDecimalText] using numeral.decimal
  exact not_mem_of_decimal decimal.2 other

theorem Numeral.pads {digits : List Char} (numeral : Numeral digits) {before after : List Char}
    (blank : isBlankText before = true) (blank' : isBlankText after = true) :
    Pads (before ++ digits ++ after) (String.ofList digits) := by
  obtain ⟨filled, decimal⟩ : digits ≠ [] ∧ ∀ c ∈ digits, isDecimal c = true := by
    simpa [isDecimalText] using numeral.decimal
  refine ⟨by simpa using filled, ?_, before, after, blank, blank', by simp⟩
  rw [String.toList_ofList]
  exact trimmed_of_solid fun c member => not_isBlank_of_isDecimal (decimal c member)

theorem Numeral.recoded {digits : List Char} (numeral : Numeral digits) (t : Transcoder) :
    Recoded t (String.ofList digits) (t.encode (number digits)) := by
  have recoded : Recoded t (String.ofList digits) (t.encode (number (String.ofList digits).toList)) :=
    .token (by simpa using numeral)
  simpa using recoded

theorem IsToken.pads {token : String} (valid : IsToken token.toList) {before after : List Char}
    (blank : isBlankText before = true) (blank' : isBlankText after = true) :
    Pads (before ++ token.toList ++ after) token :=
  ⟨valid.filled, valid.trimmed, before, after, blank, blank', rfl⟩

/-- What stands in place of a value among blanks is a value again. -/
theorem Replaced.pads (faithful : t.Faithful) {text text' : List Char} {value : String}
    (replaced : Replaced t text text') (pads : Pads text value) :
    ∃ value', Pads text' value' ∧ Recoded t value value' := by
  cases replaced with
  | kept => exact ⟨value, pads, .kept⟩
  | token blank blank' numeral =>
    obtain rfl := pads.unique (numeral.pads blank blank')
    exact ⟨_, (faithful.token _ numeral.writable).pads blank blank', numeral.recoded t⟩

theorem Replaced.not_mem (faithful : t.Faithful) {text text' : List Char} (replaced : Replaced t text text')
    {sep : Char} (separates : sep ∈ [';', ',', ':']) (free : sep ∉ text) : sep ∉ text' := by
  cases replaced with
  | kept => exact free
  | token _ _ numeral =>
    simp only [List.mem_append, not_or] at free ⊢
    exact ⟨⟨free.1.1, (faithful.token _ numeral.writable).free sep separates⟩, free.2⟩

theorem Replaced.forall_not_mem (faithful : t.Faithful) {sep : Char} (separates : sep ∈ [';', ',', ':'])
    {values values' : List (List Char)} (replaced : List.Forall₂ (Replaced t) values values')
    (free : ∀ value ∈ values, sep ∉ value) : ∀ value ∈ values', sep ∉ value := by
  induction replaced with
  | nil => exact free
  | cons first _ ih =>
    obtain ⟨here, others⟩ := List.forall_mem_cons.1 free
    exact List.forall_mem_cons.2 ⟨first.not_mem faithful separates here, ih others⟩

/-! ## Chunks -/

namespace Spells

variable {name word rest : List Char}

theorem name_eq {rest' name' : List Char} {field : String} (free : ':' ∉ name) (valid : FieldName field)
    (pads : Pads name' field) (whole : name ++ ':' :: rest = name' ++ ':' :: rest') : name' = name ∧ rest' = rest := by
  have free' : ':' ∉ name' := pads.not_mem (by decide) (valid.free (by simp))
  have cut : cut? ':' (name ++ ':' :: rest) = some (name, rest) := cut_append free
  rw [whole, cut_append free'] at cut
  cases cut
  exact ⟨rfl, rfl⟩

/-- A chunk with one colon names an operator without values, or has its value after the colon. -/
theorem of_plain (free : ':' ∉ name) (free' : ':' ∉ rest)
    (spells : Spells default join (name ++ ':' :: rest) condition) :
    ∃ field, FieldName field ∧ Pads name field ∧
      ((∃ word op, Pads rest word ∧ Operator.IsNamedBy op word.toList ∧ condition = ⟨field, op, [], join, true⟩) ∨
        ∃ value, Pads rest value ∧ condition = ⟨field, default, [value], join, false⟩) := by
  generalize whole : name ++ ':' :: rest = chunk at spells
  cases spells with
  | bare valid pads pads' named _ =>
    obtain ⟨rfl, rfl⟩ := name_eq free valid pads whole
    exact ⟨_, valid, pads, .inl ⟨_, _, pads', named, rfl⟩⟩
  | plain valid pads pads' _ _ =>
    obtain ⟨rfl, rfl⟩ := name_eq free valid pads whole
    exact ⟨_, valid, pads, .inr ⟨_, pads', rfl⟩⟩
  | full valid pads _ _ _ =>
    rw [List.append_assoc, List.cons_append] at whole
    obtain ⟨rfl, rfl⟩ := name_eq free valid pads whole
    exact absurd (by simp) free'

/-- A chunk with an operator between colons has its values after the second. -/
theorem of_full {op : Operator} (free : ':' ∉ name) (found : Operator.ofToken? word = some op)
    (spells : Spells default join (name ++ ':' :: word ++ ':' :: rest) condition) :
    ∃ field values, FieldName field ∧ Pads name field ∧ Operands op rest values ∧
      condition = ⟨field, op, values, join, true⟩ := by
  obtain ⟨token, padsWord, named⟩ := Operator.ofToken_eq_some.1 found
  have free' : ':' ∉ word := padsWord.not_mem (by decide) named.not_mem_colon
  rw [List.append_assoc, List.cons_append] at spells
  generalize whole : name ++ ':' :: (word ++ ':' :: rest) = chunk at spells
  cases spells with
  | bare valid pads pads' named' _ =>
    obtain ⟨rfl, rfl⟩ := name_eq free valid pads whole
    exact absurd (by simp) (pads'.not_mem (by decide) named'.not_mem_colon)
  | plain valid pads _ free'' _ =>
    obtain ⟨rfl, rfl⟩ := name_eq free valid pads whole
    exact absurd (by simp) free''
  | @full _ token' _ _ _ op' _ valid pads pads' named' operands =>
    rw [List.append_assoc, List.cons_append] at whole
    obtain ⟨rfl, same⟩ := name_eq free valid pads whole
    have cut := (cut_append (pads'.not_mem (by decide) named'.not_mem_colon)).symm.trans
      ((congrArg (cut? ':') same).trans (cut_append free'))
    cases cut
    cases found.symm.trans (Operator.ofToken_eq_some.2 ⟨_, pads', named'⟩)
    exact ⟨_, _, valid, pads, operands, rfl⟩

end Spells

/-- Related pairs of two lists, one side of which has partners: so has the other. -/
theorem forall₂_carry {α β γ δ : Type} {R : α → β → Prop} {S : α → γ → Prop} {S' : β → δ → Prop} {T : γ → δ → Prop}
    (step : ∀ a b c, R a b → S a c → ∃ d, S' b d ∧ T c d) {as : List α} {bs : List β} {cs : List γ}
    (related : List.Forall₂ R as bs) (partners : List.Forall₂ S as cs) :
    ∃ ds, List.Forall₂ S' bs ds ∧ List.Forall₂ T cs ds := by
  induction related generalizing cs with
  | nil =>
    cases partners
    exact ⟨[], .nil, .nil⟩
  | cons first _ ih =>
    obtain _ | ⟨partner, partners⟩ := partners
    obtain ⟨d, here, there⟩ := step _ _ _ first partner
    obtain ⟨ds, all, all'⟩ := ih partners
    exact ⟨d :: ds, .cons here all, .cons there all'⟩

theorem Operands.replaced (faithful : t.Faithful) {op : Operator} {values values' : List (List Char)}
    {words : List String} (multi : op.isMultiValue = true) (free : ∀ value ∈ values, ',' ∉ value)
    (replaced : List.Forall₂ (Replaced t) values values') (operands : Operands op (Text.join ',' values) words) :
    ∃ words', Operands op (Text.join ',' values') words' ∧ List.Forall₂ (Recoded t) words words' := by
  have nullary : op.isNullary = false := by cases op <;> first | rfl | cases multi
  cases replaced with
  | nil => exact ⟨words, operands, List.forall₂_same.2 fun _ _ => .kept⟩
  | @cons value value' values values' first others =>
    obtain ⟨pads, two⟩ := operands.pieces nullary multi (by simp) free
    obtain ⟨words', pads', recoded⟩ := forall₂_carry (fun _ _ _ replaced pads => replaced.pads faithful pads)
      (.cons first others) pads
    have free' := Replaced.forall_not_mem faithful (by simp) (.cons first others) free
    refine ⟨words', .items multi (fun range => ?_) ?_ free' pads', recoded⟩
    · rw [← recoded.length_eq, two range]
    · rintro rfl
      cases pads'

theorem Operands.replaced_single (faithful : t.Faithful) {op : Operator} {value value' : List Char}
    {words : List String} (one : op.isMultiValue = false) (replaced : Replaced t value value')
    (operands : Operands op value words) :
    ∃ words', Operands op value' words' ∧ List.Forall₂ (Recoded t) words words' := by
  cases operands with
  | nothing nullary blank =>
    cases replaced with
    | kept => exact ⟨[], .nothing nullary blank, .nil⟩
    | token blank' blank'' numeral =>
      -- Where an operator takes no value, there is no numeral to replace.
      have filled := (pads_iff.1 (numeral.pads blank' blank'')).1
      rw [← (pads_iff.1 (numeral.pads blank' blank'')).2] at filled
      exact absurd (trim_eq_nil_iff.2 blank) filled
  | items multi => cases one.symm.trans multi
  | text nullary _ pads =>
    obtain ⟨word', pads', recoded⟩ := replaced.pads faithful pads
    exact ⟨[word'], .text nullary one pads', .cons recoded .nil⟩

theorem Spells.retold (faithful : t.Faithful) (spells : Spells default join chunk condition)
    (retold : Retold t chunk chunk') :
    ∃ condition', Spells default join chunk' condition' ∧ condition.Recoded t condition' := by
  have encoded {name : List Char} {field : String} (pads : Pads name field)
      (identifier : isIdField (String.ofList (trim name)) = true) : isIdField field = true := by
    rwa [(pads_iff.1 pads).2, String.ofList_toList] at identifier
  cases retold with
  | kept => exact ⟨condition, spells, .kept⟩
  -- Without an operator in it the chunk has one colon, so the token, which has none, stands for the whole value.
  | plain free identifier replaced =>
    cases replaced with
    | kept => exact ⟨condition, spells, .kept⟩
    | token blank blank' numeral =>
      have pads := numeral.pads blank blank'
      have token := faithful.token _ numeral.writable
      have colon : ':' ∉ _ :=
        pads.not_mem (by decide) (by simpa using numeral.not_mem (by decide : isDecimal ':' = false))
      obtain ⟨field, valid, padsName, ⟨word, op, padsWord, named, rfl⟩ | ⟨value, padsValue, rfl⟩⟩ :=
        spells.of_plain free colon
      · -- A numeral is never the word of an operator.
        obtain rfl := padsWord.unique pads
        rw [String.toList_ofList] at named
        exact absurd numeral.decimal (by simp [named.not_isDecimalText])
      · obtain rfl := padsValue.unique pads
        have padsToken := token.pads blank blank'
        have free := padsToken.not_mem (by decide) (token.free ':' (by simp))
        exact ⟨_, .plain valid padsName padsToken free token.valued,
          .identifier (encoded padsName identifier) (.cons (numeral.recoded t) .nil)⟩
  -- With an operator the operands alone are replaced, and the operator is found in the same place again.
  | single free identifier found one replaced =>
    obtain ⟨field, words, valid, padsName, operands, rfl⟩ := spells.of_full free found
    obtain ⟨words', operands', recoded⟩ := operands.replaced_single faithful one replaced
    obtain ⟨token, padsWord, named⟩ := Operator.ofToken_eq_some.1 found
    exact ⟨⟨field, _, words', join, true⟩, .full valid padsName padsWord named operands',
      .identifier (encoded padsName identifier) recoded⟩
  | several free identifier found multi commas replaced =>
    obtain ⟨field, words, valid, padsName, operands, rfl⟩ := spells.of_full free found
    obtain ⟨words', operands', recoded⟩ := operands.replaced faithful multi commas replaced
    obtain ⟨token, padsWord, named⟩ := Operator.ofToken_eq_some.1 found
    exact ⟨⟨field, _, words', join, true⟩, .full valid padsName padsWord named operands',
      .identifier (encoded padsName identifier) recoded⟩

/-! ## Sections -/

/-- A text of conditions with tokens in place of some numerals. -/
def RetoldText (t : Transcoder) (raw raw' : List Char) : Prop :=
  List.Forall₂ (Retold t) (split ';' raw) (split ';' raw')

variable {raw raw' : List Char} {param joinParam : String} {params params' : RequestParams}

/-- A text that changes has a colon and keeps one; without one a search would be a term. -/
theorem Retold.eq_or_colon (retold : Retold t chunk chunk') : chunk' = chunk ∨ ':' ∈ chunk ∧ ':' ∈ chunk' := by
  cases retold with
  | kept => exact .inl rfl
  | plain => exact .inr ⟨by simp, by simp⟩
  | single => exact .inr ⟨by simp, by simp⟩
  | several => exact .inr ⟨by simp, by simp⟩

theorem RetoldText.eq_or_colon (retold : RetoldText t raw raw') : raw' = raw ∨ ':' ∈ raw ∧ ':' ∈ raw' := by
  have pieces {pieces pieces' : List (List Char)} (all : List.Forall₂ (Retold t) pieces pieces') :
      pieces' = pieces ∨ (∃ piece ∈ pieces, ':' ∈ piece) ∧ ∃ piece ∈ pieces', ':' ∈ piece := by
    induction all with
    | nil => exact .inl rfl
    | cons first _ ih =>
      rcases first.eq_or_colon with rfl | ⟨here, here'⟩
      · rcases ih with rfl | ⟨⟨piece, member, there⟩, ⟨piece', member', there'⟩⟩
        · exact .inl rfl
        · exact .inr ⟨⟨piece, by simp [member], there⟩, ⟨piece', by simp [member'], there'⟩⟩
      · exact .inr ⟨⟨_, by simp, here⟩, ⟨_, by simp, here'⟩⟩
  rcases pieces retold with same | ⟨⟨piece, member, colon⟩, ⟨piece', member', colon'⟩⟩
  · exact .inl (by rw [← join_split ';' raw', same, join_split])
  · exact .inr ⟨mem_of_mem_split member colon, mem_of_mem_split member' colon'⟩

theorem Request.readConditions_retold (faithful : t.Faithful) (single : default.IsDefault)
    (retold : RetoldText t raw raw') {conditions : List Condition}
    (read : readConditions param default join raw = .ok conditions) :
    ∃ conditions', readConditions param default join raw' = .ok conditions' ∧
      List.Forall₂ (Condition.Recoded t) conditions conditions' := by
  have blank {chunk chunk' : List Char} (retold : Retold t chunk chunk') : isBlankText chunk = isBlankText chunk' := by
    rcases retold.eq_or_colon with rfl | ⟨colon, colon'⟩
    · rfl
    · rw [not_isBlankText_of_mem colon (by decide), not_isBlankText_of_mem colon' (by decide)]
  have kept : List.Forall₂ (Retold t) (chunks raw) (chunks raw') :=
    List.rel_filter (fun _ _ retold => by simp [blank retold]) retold
  have carry (chunk chunk' : List Char) (condition : Condition) (retold : Retold t chunk chunk')
      (spells : Spells default join chunk condition) := spells.retold faithful retold
  obtain ⟨conditions', all, recoded⟩ := forall₂_carry carry kept ((readConditions_iff single).1 read)
  exact ⟨conditions', (readConditions_iff single).2 all, recoded⟩

theorem Section.Recoded.rel_refl (part : Option Section) : Option.Rel (Section.Recoded t) part part := by
  cases part with
  | none => exact .none
  | some part => exact .some (.refl t part)

/-- A parameter that is kept, or a text of conditions with tokens in place of some numerals. -/
inductive RetoldValue (t : Transcoder) : Option Value → Option Value → Prop
  | kept {value : Option Value} : RetoldValue t value value
  | text {raw raw' : String} : RetoldText t raw.toList raw'.toList → RetoldValue t (some (.str raw)) (some (.str raw'))

namespace Request

theorem textOf_congr (same : params'.lookup param = params.lookup param) :
    textOf? params' param = textOf? params param := by
  rw [textOf?, textOf?, same]

theorem textOf_retold (retold : RetoldValue t (params.lookup param) (params'.lookup param)) :
    textOf? params' param = textOf? params param ∨ ∃ raw raw', textOf? params param = .ok (some raw) ∧
      textOf? params' param = .ok (some raw') ∧ ':' ∈ raw ∧ ':' ∈ raw' ∧ RetoldText t raw raw' := by
  generalize held : params.lookup param = value at retold
  generalize held' : params'.lookup param = value' at retold
  cases retold with
  | kept => exact .inl (textOf_congr (held'.trans held.symm))
  | @text raw raw' retold =>
    rcases retold.eq_or_colon with same | ⟨colon, colon'⟩
    · rw [String.toList_inj] at same
      exact .inl (textOf_congr (by rw [held', held, same]))
    · have visible := not_isBlankText_of_mem colon (by decide)
      have visible' := not_isBlankText_of_mem colon' (by decide)
      refine .inr ⟨_, _, ?_, ?_, colon, colon', retold⟩
      · simp [textOf?, held, visible]
      · simp [textOf?, held', visible']

theorem readSection_retold (faithful : t.Faithful) (retold : RetoldValue t (params.lookup param) (params'.lookup param))
    (sameJoin : params'.lookup joinParam = params.lookup joinParam) {part : Option Section}
    (read : readSection params param joinParam = .ok part) :
    ∃ part', readSection params' param joinParam = .ok part' ∧ Option.Rel (Section.Recoded t) part part' := by
  have joins : readJoin params' joinParam .and = readJoin params joinParam .and := by
    rw [readJoin, readJoin, textOf_congr sameJoin]
  rcases textOf_retold retold with same | ⟨raw, raw', text, text', -, -, retold⟩
  · refine ⟨part, ?_, Section.Recoded.rel_refl part⟩
    rw [← read, readSection, readSection, same, joins]
  · obtain ⟨found, readText, read⟩ := bind_eq_ok.1 read
    cases text.symm.trans readText
    obtain ⟨join, readJoin, read⟩ := bind_eq_ok.1 read
    obtain ⟨conditions, readAll, read⟩ := bind_eq_ok.1 read
    obtain ⟨conditions', readAll', recoded⟩ := readConditions_retold faithful (.inr rfl) retold readAll
    cases read
    refine ⟨_, bind_eq_ok.2 ⟨_, text', bind_eq_ok.2 ⟨_, joins.trans readJoin, bind_eq_ok.2 ⟨_, readAll', rfl⟩⟩⟩, ?_⟩
    cases recoded with
    | nil => exact .none
    | cons first others =>
      have part : Section.Recoded t { conditions := _ :: _, join } { conditions := _ :: _, join } :=
        .conditions (.cons first others)
      exact .some part

theorem readSearch_retold (faithful : t.Faithful) {names : ParamNames} {enhanced : Bool}
    (retold : RetoldValue t (params.lookup names.search) (params'.lookup names.search))
    (sameJoin : params'.lookup names.searchJoin = params.lookup names.searchJoin)
    (sameFields : params'.lookup names.searchFields = params.lookup names.searchFields) {part : Option Section}
    (read : readSearch params names enhanced = .ok part) :
    ∃ part', readSearch params' names enhanced = .ok part' ∧ Option.Rel (Section.Recoded t) part part' := by
  have joins : readJoin params' names.searchJoin .or = readJoin params names.searchJoin .or := by
    rw [readJoin, readJoin, textOf_congr sameJoin]
  rcases textOf_retold retold with same | ⟨raw, raw', text, text', colon, colon', retold⟩
  · refine ⟨part, ?_, Section.Recoded.rel_refl part⟩
    rw [← read, readSearch, readSearch, same, joins, textOf_congr sameFields]
  · obtain ⟨found, readText, read⟩ := bind_eq_ok.1 read
    cases text.symm.trans readText
    obtain ⟨join, readJoin, read⟩ := bind_eq_ok.1 read
    obtain ⟨fieldsText, readFieldsText, read⟩ := bind_eq_ok.1 read
    obtain ⟨fields, readFields, read⟩ := bind_eq_ok.1 read
    dsimp only at read
    -- With its colon the search is one of conditions, before and after.
    rw [if_pos (by simpa using colon)] at read
    obtain ⟨conditions, readAll, read⟩ := bind_eq_ok.1 read
    obtain ⟨conditions', readAll', recoded⟩ := readConditions_retold faithful (.inl rfl) retold readAll
    cases read
    have part : Section.Recoded t { conditions, join, fields, enhanced }
        { conditions := conditions', join, fields, enhanced } := .conditions recoded
    refine ⟨_, bind_eq_ok.2 ⟨_, text', bind_eq_ok.2 ⟨_, joins.trans readJoin,
      bind_eq_ok.2 ⟨_, (textOf_congr sameFields).trans readFieldsText, bind_eq_ok.2 ⟨_, readFields, ?_⟩⟩⟩⟩, .some part⟩
    dsimp only
    rw [if_pos (by simpa using colon')]
    exact bind_eq_ok.2 ⟨_, readAll', rfl⟩

/-- The parameters beside the search and the filter. -/
def beside (names : ParamNames) : List String :=
  [names.searchFields, names.searchJoin, names.filterJoin, names.orderBy, names.sortedBy, names.includes,
    names.includesAlias, names.compare, names.having, names.havingJoin, names.groupBy]

/-- Parameters with tokens in place of some numerals in the search and in the filter. -/
structure Retells (t : Transcoder) (names : ParamNames) (params params' : RequestParams) : Prop where
  search : RetoldValue t (params.lookup names.search) (params'.lookup names.search)
  filter : RetoldValue t (params.lookup names.filter) (params'.lookup names.filter)
  others : ∀ name ∈ beside names, params'.lookup name = params.lookup name

theorem parse_retold (faithful : t.Faithful) {names : ParamNames} {enhanced : Bool}
    (retells : Retells t names params params') {request : Request} (read : parse params names enhanced = .ok request) :
    ∃ request', parse params' names enhanced = .ok request' ∧ request.Recoded t request' := by
  have same (name : String) (member : name ∈ beside names) : textOf? params' name = textOf? params name :=
    textOf_congr (retells.others name member)
  -- What stands beside the search and the filter is read as it was.
  have sort : readSort params' names = readSort params names := by
    rw [readSort, readSort, same names.orderBy (by simp [beside]), same names.sortedBy (by simp [beside])]
  have includes : readIncludes params' names = readIncludes params names := by
    simp only [readIncludes, same names.includes (by simp [beside]), same names.includesAlias (by simp [beside])]
  have groupBy : readGroupBy params' names = readGroupBy params names := by
    rw [readGroupBy, readGroupBy, same names.groupBy (by simp [beside])]
  have having :
      readSection params' names.having names.havingJoin = readSection params names.having names.havingJoin := by
    simp only [readSection, readJoin, same names.having (by simp [beside]),
      same names.havingJoin (by simp [beside])]
  have compare : readCompare params' names = readCompare params names := by
    rw [readCompare, readCompare, same names.compare (by simp [beside])]
  obtain ⟨search, readSearch, read⟩ := bind_eq_ok.1 read
  obtain ⟨filter, readFilter, read⟩ := bind_eq_ok.1 read
  obtain ⟨_, readSort, read⟩ := bind_eq_ok.1 read
  obtain ⟨_, readIncludes, read⟩ := bind_eq_ok.1 read
  obtain ⟨_, readGroupBy, read⟩ := bind_eq_ok.1 read
  obtain ⟨_, readHaving, read⟩ := bind_eq_ok.1 read
  obtain ⟨_, readCompare, read⟩ := bind_eq_ok.1 read
  cases read
  obtain ⟨search', readSearch', searched⟩ := readSearch_retold faithful retells.search
    (retells.others _ (by simp [beside])) (retells.others _ (by simp [beside])) readSearch
  obtain ⟨filter', readFilter', filtered⟩ := readSection_retold faithful retells.filter
    (retells.others _ (by simp [beside])) readFilter
  have parsed : parse params' names enhanced = _ := bind_eq_ok.2 ⟨_, readSearch', bind_eq_ok.2 ⟨_, readFilter',
    bind_eq_ok.2 ⟨_, sort.trans readSort, bind_eq_ok.2 ⟨_, includes.trans readIncludes,
      bind_eq_ok.2 ⟨_, groupBy.trans readGroupBy, bind_eq_ok.2 ⟨_, having.trans readHaving,
        bind_eq_ok.2 ⟨_, compare.trans readCompare, rfl⟩⟩⟩⟩⟩⟩⟩
  exact ⟨_, parsed, .sections searched filtered⟩

/-- The token of an identifier and its number are interchangeable: where tokens take the place of numerals
in a search or a filter that is read, it still is read, and adds the same to every query or fails in the same way. -/
theorem apply_retold {t : Transcoder} (faithful : t.Faithful) {names : ParamNames} {enhanced : Bool}
    {params params' : RequestParams} (retells : Retells t names params params') (c : RequestCriterion)
    (held : c.transcoder = some t) (decodeSearch : c.decodeSearch = true) (decodeFilters : c.decodeFilters = true)
    (read : parse params names enhanced = .ok c.request) :
    ∃ request, parse params' names enhanced = .ok request ∧ ∀ q, ({ c with request }).apply q = c.apply q := by
  obtain ⟨request, read', recoded⟩ := parse_retold faithful retells read
  exact ⟨request, read', c.apply_recoded faithful held decodeSearch decodeFilters recoded⟩

/-- One of two numbers in a list, and the number that a search looks for, with a blank before it. -/
theorem apply_retold_marked :
    Retells (.marked "u_") {} [("search", .str "user_id: 7"), ("filter", .str "id:in:5,12;name:5")]
      [("search", .str "user_id: u_7"), ("filter", .str "id:in:u_5,12;name:5")] ∧
    ∃ request, parse [("search", .str "user_id: u_7"), ("filter", .str "id:in:u_5,12;name:5")] = .ok request ∧
      ∀ q, (RequestCriterion.mk request .error true true [] (some (.marked "u_")) none).apply q =
        (RequestCriterion.mk {
          search := some { conditions := [⟨"user_id", .like, ["7"], .or, false⟩], join := .or }
          filter := some { conditions := [⟨"id", .isIn, ["5", "12"], .and, true⟩, ⟨"name", .eq, ["5"], .and, false⟩] } }
          .error true true [] (some (.marked "u_")) none).apply q := by
  have faithful : (Transcoder.marked "u_").Faithful :=
    Transcoder.marked_faithful (by simp [isBlank, blanks]) ⟨'u', by decide, by decide⟩ (by simp)
  have search : Retold (.marked "u_") "user_id: 7".toList "user_id: u_7".toList :=
    @Retold.plain _ "user_id".toList _ _ (by decide) (by decide +kernel)
      (@Replaced.token _ [' '] ['7'] [] rfl rfl ⟨by decide, by decide⟩)
  have filter : Retold (.marked "u_") "id:in:5,12".toList "id:in:u_5,12".toList :=
    @Retold.several _ "id".toList "in".toList .isIn ["5".toList, "12".toList] ["u_5".toList, "12".toList]
      (by decide) (by decide +kernel) (by decide +kernel) rfl (by decide)
      (.cons (@Replaced.token _ [] ['5'] [] rfl rfl ⟨by decide, by decide⟩) (.cons .kept .nil))
  have retells : Retells (.marked "u_") {} [("search", .str "user_id: 7"), ("filter", .str "id:in:5,12;name:5")]
      [("search", .str "user_id: u_7"), ("filter", .str "id:in:u_5,12;name:5")] :=
    ⟨.text (.cons search .nil), .text (.cons filter (.cons .kept .nil)), by simp [beside, List.lookup_cons]⟩
  have read : parse [("search", .str "user_id: 7"), ("filter", .str "id:in:5,12;name:5")] = .ok {
      search := some { conditions := [⟨"user_id", .like, ["7"], .or, false⟩], join := .or }
      filter := some {
        conditions := [⟨"id", .isIn, ["5", "12"], .and, true⟩, ⟨"name", .eq, ["5"], .and, false⟩] } } := by
    decide +kernel
  exact ⟨retells, apply_retold faithful retells (RequestCriterion.mk _ .error true true [] (some (.marked "u_")) none)
    rfl rfl rfl read⟩

end Request

end

end QueryCache
