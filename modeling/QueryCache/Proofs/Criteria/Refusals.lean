import QueryCache.Proofs.Criteria.WellFormed
import QueryCache.Proofs.Request.Grammar
import QueryCache.Proofs.Request.RoundTrip
import QueryCache.Proofs.Text.Digits

/-! What can become of a request.

It is malformed, or refused for a field or an identifier that may not stand in it, or it has an answer
for every record. Besides, a number in it may have more digits than can be read. -/

set_option autoImplicit false

namespace QueryCache

open Outcome

/-! ## Values that have a text -/

namespace Value

/-- Whether an integer has so few digits that it can be written. -/
def isWritable (n : Int) : Bool := (Nat.toDigits 10 n.natAbs).length ≤ Text.maxDigits

mutual

/-- Whether every integer in a value can be written. -/
def isPrintable : Value → Bool
  | .int n => isWritable n
  | .list items | .tuple items | .set items => arePrintable items
  | .dict entries | .object entries => printableEntries entries
  | .page items p => arePrintable items && [p.page, p.pageSize].all isWritable &&
      (p.totalItems.toList ++ p.totalPages.toList).all isWritable
  | _ => true

def arePrintable : List Value → Bool
  | [] => true
  | item :: rest => item.isPrintable && arePrintable rest

def printableEntries : List (String × Value) → Bool
  | [] => true
  | (_, value) :: rest => value.isPrintable && printableEntries rest

end

theorem isPrintable_lookup {entries : List (String × Value)} (printable : printableEntries entries = true)
    (name : String) : ((entries.lookup name).getD .null).isPrintable = true := by
  induction entries with
  | nil => rfl
  | cons entry rest ih =>
    obtain ⟨other, value⟩ := entry
    rw [printableEntries, Bool.and_eq_true] at printable
    rw [List.lookup_cons]
    split
    · exact printable.1
    · exact ih printable.2

theorem isPrintable_child {value : Value} (printable : value.isPrintable = true) (name : String) :
    (value.child name).isPrintable = true := by
  cases value with
  | dict | object =>
    rw [isPrintable] at printable
    exact isPrintable_lookup printable name
  | names given =>
    change ((given.fields.lookup name).elim null str).isPrintable = true
    cases given.fields.lookup name <;> rfl
  | operator op =>
    unfold child
    dsimp only
    repeat' split
    all_goals rfl
  | _ => rfl

/-- Wherever a field leads in a record, the value there has a text if the record has one. -/
theorem isPrintable_field {record : Value} (printable : record.isPrintable = true) (name : String) :
    (record.field name).isPrintable = true := by
  unfold field
  generalize segments name = path
  induction path generalizing record with
  | nil => exact printable
  | cons part rest ih => exact ih (isPrintable_child printable part)

end Value

/-- The failures that repositories have a class of their own for. -/
def Failure.IsRepositoryError : Failure → Prop
  | .parse _ | .notFound _ _ | .undecodable _ _ _ | .notSearchable _ _ | .termWithoutFields _
  | .unknownRelation _ _ => True
  | _ => False

namespace RequestCriterion

variable {c : RequestCriterion} {part : Section} {condition : Condition} {default op : Operator} {decode : Bool}
  {q : QueryState} {e : Failure}

/-- Every token of an identifier stands for a number or for none. -/
def DecodesAll (c : RequestCriterion) : Prop :=
  ∀ transcoder, c.transcoder = some transcoder → ∀ token, ∃ found, transcoder.decode token = .ok found

/-- A number of so many digits stands where applying a request reads one. -/
inductive ReadsNumber (c : RequestCriterion) : Nat → Prop
  /-- The distance of a fuzzy word. -/
  | distance {part : Section} {term : String} {mode : TokenMode} {text word digits : List Char} :
    c.request.search = some part → part.term = some term → part.enhanced = true →
    .word mode text ∈ Term.lexemes term.toList → Term.splitFuzzy? text = some (word, digits) →
    ReadsNumber c digits.length
  /-- An identifier that is a number already. -/
  | identifier {part : Section} {default : Operator} {condition : Condition} {value : String} :
    c.IsSection part default true → c.transcoder.isSome = true → condition ∈ part.conditions →
    condition.maybeEncodedId = true → value ∈ condition.values → Text.isDecimalText value.toList = true →
    ReadsNumber c value.toList.length

/-- Why a request is not applied. -/
inductive Refuses (c : RequestCriterion) : Failure → Prop
  | field {name : String} : c.isAllowed name = false → Refuses c (.notSearchable name c.entity)
  | identifier {field token : String} : c.policy = .error → Refuses c (.undecodable field token c.entity)
  | term : c.searchable = [] → Refuses c (.termWithoutFields c.entity)
  | number {count : Nat} : c.ReadsNumber count → Text.maxDigits < count → Refuses c (.tooManyDigits count)

/-! ## One stage after the other -/

theorem refuses_of_check {name : String} (failed : c.check name = .error e) : c.Refuses e := by
  unfold check at failed
  split at failed
  · cases failed
  · next refused =>
    cases failed
    exact .field (by simpa using refused)

theorem refuses_of_decodeValue {transcoder : Transcoder} (total : c.DecodesAll)
    (held : c.transcoder = some transcoder) {field token : String}
    (reads : Text.isDecimalText token.toList = true → c.ReadsNumber token.toList.length)
    (failed : decodeValue field (some transcoder) c.policy c.entity (.str token) = .error e) : c.Refuses e := by
  cases decimal : Text.isDecimalText token.toList with
  | true =>
    rw [decodeValue_decimal decimal, map_eq_error, decimalInt_eq_error decimal] at failed
    obtain ⟨rfl, long⟩ := failed
    exact .number (reads decimal) long
  | false =>
    obtain ⟨found, decoded⟩ := total transcoder held token
    rw [decodeValue_other decimal, decoded] at failed
    cases found with
    | some id => cases failed
    | none =>
      dsimp only at failed
      split at failed
      · cases failed
      · cases failed
      · next strict =>
        cases failed
        exact .identifier strict

theorem refuses_of_decodeValues {transcoder : Transcoder} (total : c.DecodesAll)
    (held : c.transcoder = some transcoder) {field : String} {tokens : List String}
    (reads : ∀ token ∈ tokens, Text.isDecimalText token.toList = true → c.ReadsNumber token.toList.length)
    (failed : decodeValues field (tokens.map .str) (some transcoder) c.policy c.entity = .error e) :
    c.Refuses e := by
  induction tokens with
  | nil => cases failed
  | cons token rest ih =>
    rw [List.forall_mem_cons] at reads
    rw [List.map_cons, decodeValues] at failed
    rcases bind_eq_error.1 failed with here | ⟨decoded, -, failed⟩
    · exact refuses_of_decodeValue total held reads.1 here
    · cases decoded with
      | impossible => cases failed
      | value v =>
        rcases bind_eq_error.1 failed with there | ⟨_, _, absurd⟩
        · exact ih reads.2 there
        · cases absurd

theorem refuses_of_leaf (total : c.DecodesAll) (asked : c.IsSection part default decode)
    (member : condition ∈ part.conditions) (failed : c.leaf condition op decode = .error e) : c.Refuses e := by
  by_cases plain : decode = false ∨ c.transcoder = none ∨ condition.maybeEncodedId = false
  · rw [leaf_plain plain] at failed
    cases failed
  · obtain ⟨rfl, some, encoded⟩ : decode = true ∧ c.transcoder ≠ none ∧ condition.maybeEncodedId = true := by
      simpa using plain
    obtain ⟨transcoder, held⟩ := Option.ne_none_iff_exists'.1 some
    rw [leaf_decoded rfl held encoded, map_eq_error] at failed
    refine refuses_of_decodeValues total held (fun token inside decimal => ?_) failed
    exact .identifier asked (by simp [held]) member encoded inside decimal

theorem refuses_of_applySection (total : c.DecodesAll) (asked : c.IsSection part default decode)
    (failed : c.applySection part decode q = .error e) : c.Refuses e := by
  rcases bind_eq_error.1 failed with failed | ⟨_, _, absurd⟩
  · -- A condition fails by its name or by its values; putting the parts together does not.
    obtain ⟨condition, member, failed⟩ := mapM_eq_error failed
    rcases bind_eq_error.1 failed with unlisted | ⟨-, -, failed⟩
    · exact refuses_of_check unlisted
    · exact refuses_of_leaf total asked member failed
  · cases absurd

theorem refuses_of_termFields (failed : c.termFields part = .error e) : c.Refuses e := by
  have chosen : c.searched part = if part.fields.isEmpty then c.searchable else part.fields := by
    simp [searched, List.isEmpty_iff]
  unfold termFields at failed
  dsimp only at failed
  rw [← chosen] at failed
  split at failed
  · next bare =>
    cases failed
    refine .term ?_
    unfold searched at bare
    split at bare
    · exact List.isEmpty_iff.1 bare
    · next filled => exact absurd (List.isEmpty_iff.1 bare) filled
  · obtain ⟨f, -, failed⟩ := mapM_eq_error failed
    rcases bind_eq_error.1 failed with unlisted | ⟨_, _, absurd⟩
    · exact refuses_of_check unlisted
    · cases absurd

theorem refuses_of_tokens {fault : Text.IntegerFault} (held : c.request.search = some part)
    (failed : part.tokens = .error fault) : c.Refuses (Failure.ofInteger fault) := by
  unfold Section.tokens at failed
  split at failed
  · cases failed
  · next term given =>
    split at failed
    · next enhanced =>
      rcases bind_eq_error.1 failed with failed | ⟨_, _, absurd⟩
      · obtain ⟨lexeme, member, failed⟩ := mapM_eq_error failed
        obtain ⟨mode, text, word, digits, rfl, fuzzy, rfl, long⟩ := Term.of_token_eq_error failed
        exact .number (.distance held given enhanced member fuzzy) long
      · cases absurd
    · cases failed

theorem refuses_of_applyTerm (held : c.request.search = some part) (failed : c.applyTerm part q = .error e) :
    c.Refuses e := by
  rcases bind_eq_error.1 failed with failed | ⟨fields, -, failed⟩
  · exact refuses_of_termFields failed
  · rcases bind_eq_error.1 failed with failed | ⟨_, _, absurd⟩
    · cases read : part.tokens with
      | ok tokens =>
        rw [read] at failed
        cases failed
      | error fault =>
        rw [read] at failed
        cases failed
        exact refuses_of_tokens held read
    · cases absurd

theorem refuses_of_applyComparison {comparison : Comparison} (readable : comparison.Readable)
    (failed : c.applyComparison q comparison = .error e) : c.Refuses e := by
  rcases bind_eq_error.1 failed with unlisted | ⟨-, -, failed⟩
  · exact refuses_of_check unlisted
  · rcases bind_eq_error.1 failed with unlisted | ⟨-, -, failed⟩
    · exact refuses_of_check unlisted
    · rw [QueryState.addColumn, map_eq_error, Predicate.compareColumns] at failed
      obtain ⟨test, named⟩ := Option.isSome_iff_exists.1 readable.operator
      rw [named] at failed
      cases failed

/-- A request that was read is applied, or refused for what stands in it. -/
theorem refuses_of_apply {enhanced : Bool} (readable : c.request.Readable enhanced) (total : c.DecodesAll)
    (failed : c.apply q = .error e) : c.Refuses e := by
  rw [apply_eq] at failed
  rcases bind_eq_error.1 failed with failed | ⟨q₁, -, failed⟩
  · cases held : c.request.search with
    | none =>
      rw [held] at failed
      cases failed
    | some part =>
      rw [held, Option.elim_some, applySearch] at failed
      split at failed
      · exact refuses_of_applyTerm held failed
      · next bare => exact refuses_of_applySection total (.search held (by simpa using bare)) failed
  rcases bind_eq_error.1 failed with failed | ⟨q₂, -, failed⟩
  · cases held : c.request.filter with
    | none =>
      rw [held] at failed
      cases failed
    | some part =>
      rw [held] at failed
      exact refuses_of_applySection total (.filter held) failed
  rcases bind_eq_error.1 failed with failed | ⟨q₃, -, absurd⟩
  · obtain ⟨comparison, member, q', failed⟩ := foldlM_eq_error failed
    exact refuses_of_applyComparison (readable.compare comparison member) failed
  · cases absurd

end RequestCriterion

namespace Repository

open RequestCriterion

variable {r : Repository} {params : Record}

theorem requestCriterion_cases (r : Repository) (params : Record) :
    (∃ e, r.requestCriterion params = .error (.parse e)) ∨
      ∃ c, r.requestCriterion params = .ok c ∧
        Request.parse params r.settings.params r.settings.enhancedSearch = .ok c.request ∧
        c.searchable = r.searchable ∧ c.transcoder = r.transcoder := by
  unfold requestCriterion
  dsimp only
  cases Request.parse params r.settings.params r.settings.enhancedSearch with
  | error e => exact .inl ⟨e, rfl⟩
  | ok request => exact .inr ⟨_, rfl, rfl, rfl, rfl⟩

theorem withRequest_of_ok {c : RequestCriterion} (read : r.requestCriterion params = .ok c) :
    ∃ view, r.withRequest params = .ok view ∧ view.pipeline = r.pipeline.pushed [.request c] := by
  rw [withRequest, read]
  refine ⟨_, rfl, ?_⟩
  split <;> rfl

/-- Whatever stands in the parameters of a request, it is malformed, or refused, or its predicate has an
answer for every record that has a text; or a number in it is too long to be read. -/
theorem request_outcomes {given : Value} (accepted : SearchField.ofValue given = .ok r.searchable)
    (total : ∀ transcoder, r.transcoder = some transcoder → ∀ token, ∃ found, transcoder.decode token = .ok found)
    {record : Value} (printable : record.isPrintable = true) :
    (∃ e, r.withRequest params = .error (.parse e)) ∨
      ∃ (c : RequestCriterion) (view : Repository), r.requestCriterion params = .ok c ∧
        r.withRequest params = .ok view ∧ view.pipeline = r.pipeline.pushed [.request c] ∧
        ((∃ e, c.apply {} = .error e ∧ e.IsRepositoryError) ∨
          (∃ q b, c.apply {} = .ok q ∧ q.predicate.holds record = .ok b ∧
            -- A pattern is matched against the text of the value, so there has to be one.
            ∀ name values, .field name .like values ∈ q.predicate.leaves → (record.field name).isPrintable = true) ∨
          ∃ count, c.apply {} = .error (.tooManyDigits count) ∧ Text.maxDigits < count ∧ c.ReadsNumber count) := by
  rcases r.requestCriterion_cases params with ⟨e, malformed⟩ | ⟨c, read, parsed, searchable, transcoder⟩
  · refine .inl ⟨e, ?_⟩
    rw [withRequest, malformed]
    rfl
  have readable := Request.readable_of_parse parsed
  have allowed : ∀ f ∈ c.searchable, f.TakesOne := by
    rw [searchable]
    exact SearchField.takesOne_of_ofValue accepted
  have decodes : c.DecodesAll := by
    rw [DecodesAll, transcoder]
    exact total
  obtain ⟨view, viewed, pushed⟩ := withRequest_of_ok read
  refine .inr ⟨c, view, read, viewed, pushed, ?_⟩
  cases applied : c.apply {} with
  | ok q =>
    have formed := isWellFormed_of_apply readable allowed applied
    obtain ⟨b, answer⟩ := Predicate.exists_holds (Predicate.evaluates_of_wellFormed formed.wheres record)
    exact .inr (.inl ⟨q, b, rfl, answer, fun name _ _ => Value.isPrintable_field printable name⟩)
  | error e =>
    cases refuses_of_apply readable decodes applied with
    | field | identifier | term => exact .inl ⟨_, rfl, trivial⟩
    | number reads long => exact .inr (.inr ⟨_, rfl, long, reads⟩)

theorem request_outcomes_answered :
    let r : Repository := {
      entity := "user", searchable := [⟨"name", none⟩, ⟨"id", some .eq⟩]
      transcoder := some { decode := fun token => .ok (if token = "u_3" then some 3 else none), encode := toString } }
    let params : Record := [("search", .str "ada~2 -\"bob\""), ("searchFields", .str "name"), ("filter", .str "id:u_3")]
    let record : Value := .dict [("id", .int 3), ("name", .str "Ada Lovelace")]
    ∃ (c : RequestCriterion) (view : Repository) (q : QueryState), r.requestCriterion params = .ok c ∧
      r.withRequest params = .ok view ∧ view.pipeline.criteria = [.request c] ∧ c.apply {} = .ok q ∧
      q.predicate.holds record = .ok true := by
  intro r params record
  have run : ((r.requestCriterion params).toOption.bind fun c => (c.apply {}).toOption.map fun q =>
      (q.predicate.holds record).toOption) = some (some true) := by decide +kernel
  obtain ⟨c, read, run⟩ := Option.bind_eq_some_iff.1 run
  obtain ⟨q, applied, holds⟩ := Option.map_eq_some_iff.1 run
  have accepted : SearchField.ofValue (.dict [("name", .null), ("id", .str "=")]) = .ok r.searchable := rfl
  have total : ∀ transcoder, r.transcoder = some transcoder →
      ∀ token, ∃ found, transcoder.decode token = .ok found := by
    intro transcoder held token
    cases held
    exact ⟨_, rfl⟩
  have printable : record.isPrintable = true := by decide +kernel
  have outcomes : (∃ e, r.withRequest params = .error (.parse e)) ∨ _ := request_outcomes accepted total printable
  rcases outcomes with ⟨e, malformed⟩ | ⟨c', view, read', viewed, pushed, -⟩
  · obtain ⟨view, viewed, -⟩ := withRequest_of_ok (of_toOption read)
    cases viewed.symm.trans malformed
  · cases (of_toOption read).symm.trans read'
    exact ⟨c, view, q, of_toOption read, viewed, by rw [pushed]; rfl, of_toOption applied, of_toOption holds⟩

end Repository

/-! ## Numbers that are too long -/

namespace RequestCriterion

variable {c : RequestCriterion} {part : Section} {q : QueryState}

theorem apply_eq_error_of_tokens {fields : List (String × Operator)} {fault : Text.IntegerFault}
    (held : c.request.search = some part) (term : part.term.isSome = true) (found : c.termFields part = .ok fields)
    (failed : part.tokens = .error fault) : c.apply q = .error (Failure.ofInteger fault) := by
  rw [apply_eq]
  refine bind_eq_error.2 (.inl ?_)
  rw [held, Option.elim_some, applySearch, if_pos term]
  refine bind_eq_error.2 (.inr ⟨fields, found, bind_eq_error.2 (.inl ?_)⟩)
  rw [failed]
  rfl

theorem apply_eq_error_of_leaf {condition : Condition} {rest : List Condition} {e : Failure}
    (bare : c.request.search = none) (held : c.request.filter = some part)
    (first : part.conditions = condition :: rest) (allowed : c.check condition.field = .ok ())
    (failed : c.leaf condition (c.operatorFor condition part) c.decodeFilters = .error e) :
    c.apply q = .error e := by
  rw [apply_eq, bare]
  refine bind_eq_error.2 (.inr ⟨q, rfl, bind_eq_error.2 (.inl ?_)⟩)
  rw [held]
  refine bind_eq_error.2 (.inl ?_)
  rw [leaves, first, List.mapM_cons]
  exact bind_eq_error.2 (.inl (bind_eq_error.2 (.inr ⟨(), allowed, failed⟩)))

end RequestCriterion

namespace Request

variable {param text : String}

theorem textOf_only (visible : Text.isBlankText text.toList = false) :
    textOf? [(param, .str text)] param = .ok (some text.toList) := by
  simp [textOf?, visible]

theorem parse_filter {conditions : List Condition}
    (read : readConditions "filter" .eq .and text.toList = .ok conditions) (filled : conditions ≠ []) :
    parse [("filter", .str text)] = .ok { filter := some { conditions } } := by
  rw [parse_filter_eq, read]
  simp [sectionOf?, filled, Except.map]

theorem parse_term (visible : Text.isBlankText text.toList = false) (trimmed : Text.trim text.toList = text.toList)
    (free : ':' ∉ text.toList) :
    parse [("search", .str text)] = .ok { search := some { join := .or, term := some text } } := by
  simp [parse, readSearch, readSection, readSort, readIncludes, readGroupBy, readCompare, readJoin, readSearchFields,
    textOf_only visible, textOf_other, free, trimmed, commaList, bind, Except.bind, pure, Except.pure, distinct]

end Request

namespace Text

variable {digits : List Char}

theorem not_mem_of_decimal (decimal : ∀ c ∈ digits, isDecimal c = true) {c : Char} (other : isDecimal c = false) :
    c ∉ digits := by
  intro member
  rw [decimal c member] at other
  cases other

end Text

section

variable {digits : List Char} (decimal : ∀ c ∈ digits, Text.isDecimal c = true)

include decimal

theorem Request.parse_distance : parse [("search", .str ("a~" ++ String.ofList digits))] =
    .ok { search := some { join := .or, term := some ("a~" ++ String.ofList digits) } } := by
  have whole : ("a~" ++ String.ofList digits).toList = 'a' :: '~' :: digits := by simp
  have solid : ∀ c ∈ 'a' :: '~' :: digits, Text.isBlank c = false := by
    simp only [List.forall_mem_cons]
    exact ⟨by decide, by decide, fun c member => Text.not_isBlank_of_isDecimal (decimal c member)⟩
  apply parse_term <;> rw [whole]
  · exact Text.not_isBlankText_of_mem (by simp : 'a' ∈ _) (by decide)
  · exact (Text.trimmed_of_solid solid).trim_eq
  · simpa using Text.not_mem_of_decimal decimal (by decide : Text.isDecimal ':' = false)

theorem Request.parse_identifier (filled : digits ≠ []) :
    parse [("filter", .str ("id:eq:" ++ String.ofList digits))] =
      .ok { filter := some { conditions := [⟨"id", .eq, [String.ofList digits], .and, true⟩] } } := by
  have solid : ∀ c ∈ digits, Text.isBlank c = false :=
    fun c member => Text.not_isBlank_of_isDecimal (decimal c member)
  have name : FieldName "id" := ⟨by decide +kernel, by decide +kernel⟩
  have readable : Condition.Readable .eq .and ⟨"id", .eq, [String.ofList digits], .and, true⟩ := by
    refine ⟨name, ⟨rfl, ?_, ?_, nofun⟩, rfl, nofun⟩
    · simpa using ⟨filled, Text.trimmed_of_solid solid⟩
    · simpa using Text.not_mem_of_decimal decimal (by decide : Text.isDecimal ';' = false)
  have token : (Condition.mk "id" .eq [String.ofList digits] .and true).token =
      "id:eq:" ++ String.ofList digits := by
    rw [← String.toList_inj]
    simp [Condition.token, Operator.isNullary, Operator.code]
  let s : Section := { conditions := [⟨"id", .eq, [String.ofList digits], .and, true⟩] }
  have body : s.IsConditional .eq := ⟨by simp [s], by simpa [s] using readable, rfl⟩
  have read : readConditions "filter" .eq s.join s.conditionsText.toList = .ok s.conditions :=
    readConditions_conditionsText (.inr rfl) body
  rw [Section.conditionsText, List.map_singleton, token] at read
  exact parse_filter (by simpa using read) (by simp)

end

namespace Repository

open RequestCriterion

/-- A request is read, but the criterion that is made of it cannot be applied. -/
def FailsApplied (r : Repository) (params : Record) (e : Failure) : Prop :=
  ∃ c view, r.requestCriterion params = .ok c ∧ r.withRequest params = .ok view ∧
    view.pipeline = r.pipeline.pushed [.request c] ∧ c.apply {} = .error e

/-- The distance of a word and an identifier are not read if they are too long. -/
theorem overlong_unread {digits : List Char} (decimal : ∀ c ∈ digits, Text.isDecimal c = true)
    (long : Text.maxDigits < digits.length) :
    let r : Repository := {
      entity := "user", searchable := [⟨"name", none⟩, ⟨"id", none⟩]
      transcoder := some { decode := fun _ => .ok none, encode := toString } }
    r.FailsApplied [("search", .str ("a~" ++ String.ofList digits))] (.tooManyDigits digits.length) ∧
      r.FailsApplied [("filter", .str ("id:eq:" ++ String.ofList digits))] (.tooManyDigits digits.length) := by
  intro r
  have filled : digits ≠ [] := by
    rintro rfl
    cases long
  constructor
  · -- The number behind the tilde is a distance, which is read only when the term is taken apart.
    let part : Section := { join := .or, term := some ("a~" ++ String.ofList digits) }
    let c : RequestCriterion :=
      { request := { search := some part }, searchable := r.searchable, transcoder := r.transcoder, entity := "user" }
    have read : r.requestCriterion [("search", .str ("a~" ++ String.ofList digits))] = .ok c := by
      rw [requestCriterion, Request.parse_distance decimal]
      rfl
    have failed : part.tokens = .error (.tooManyDigits digits.length) := by
      have word : "a~" ++ String.ofList digits = String.ofList ('a' :: '~' :: digits) := by
        rw [← String.toList_inj]
        simp
      change Term.tokens ("a~" ++ String.ofList digits) = _
      rw [word, Term.tokens_overlong decimal long]
    have fields : c.termFields part = .ok [("name", .like), ("id", .like)] := rfl
    obtain ⟨view, viewed, pushed⟩ := withRequest_of_ok read
    exact ⟨c, view, read, viewed, pushed, apply_eq_error_of_tokens rfl rfl fields failed⟩
  · -- The value of an identifier is read as a number when the condition is applied.
    let condition : Condition := ⟨"id", .eq, [String.ofList digits], .and, true⟩
    let c : RequestCriterion :=
      { request := { filter := some { conditions := [condition] } }, searchable := r.searchable,
        transcoder := r.transcoder, entity := "user" }
    have read : r.requestCriterion [("filter", .str ("id:eq:" ++ String.ofList digits))] = .ok c := by
      rw [requestCriterion, Request.parse_identifier decimal filled]
      rfl
    have number : Text.isDecimalText (String.ofList digits).toList = true := by
      simpa [Text.isDecimalText, filled] using decimal
    have unread : decimalInt (String.ofList digits).toList = .error (.tooManyDigits digits.length) :=
      (decimalInt_eq_error number).2 (by simpa using long)
    have encoded : condition.maybeEncodedId = true := by
      change isIdField "id" = true
      decide +kernel
    have failed : c.leaf condition (c.operatorFor condition { conditions := [condition] }) true =
        .error (.tooManyDigits digits.length) := by
      rw [leaf_decoded (c := c) rfl rfl encoded, map_eq_error, List.map_singleton, decodeValues,
        decodeValue_decimal number, unread]
      rfl
    obtain ⟨view, viewed, pushed⟩ := withRequest_of_ok read
    exact ⟨c, view, read, viewed, pushed, apply_eq_error_of_leaf rfl rfl rfl rfl failed⟩

theorem overlong_numbers_escape :
    let r : Repository := {
      entity := "user", searchable := [⟨"name", none⟩, ⟨"id", none⟩]
      transcoder := some { decode := fun _ => .ok none, encode := toString } }
    let long := String.ofList (List.replicate 4301 '9')
    SearchField.ofValue (.list [.str "name", .str "id"]) = .ok r.searchable ∧
      r.FailsApplied [("search", .str ("a~" ++ long))] (.tooManyDigits 4301) ∧
      r.FailsApplied [("filter", .str ("id:eq:" ++ long))] (.tooManyDigits 4301) ∧
      ¬(Failure.tooManyDigits 4301).IsRepositoryError := by
  have decimal : ∀ c ∈ List.replicate 4301 '9', Text.isDecimal c = true := by
    intro c member
    rw [List.eq_of_mem_replicate member]
    decide
  have count : (List.replicate 4301 '9').length = 4301 := List.length_replicate
  have long : Text.maxDigits < (List.replicate 4301 '9').length := by
    rw [count, Text.maxDigits]
    omega
  have fails := overlong_unread decimal long
  rw [count] at fails
  exact ⟨rfl, fails.1, fails.2, id⟩

end Repository

end QueryCache
