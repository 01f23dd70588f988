import QueryCache.Proofs.Criteria.Reads
import QueryCache.Proofs.Predicate.Satisfied

/-! What a request asks of a record, and that its predicate holds of the records it asks for.

The meaning is said in terms of the request alone: which operator a condition is compared by, what its
values stand for, and how conditions and search tokens join. -/

set_option autoImplicit false

namespace QueryCache

open Outcome

/-! ## Operators and values -/

/-- The last entry of a field gives it an operator. -/
def GivesOperator (fields : List SearchField) (name : String) (op : Operator) : Prop :=
  ∃ before after, fields = before ++ ⟨name, some op⟩ :: after ∧ ∀ f ∈ after, f.field ≠ name

/-- What a text is compared as. Under LIKE it is looked for anywhere, unless it has a wildcard. -/
inductive ComparedAs : Operator → String → Value → Prop
  | contained {text : String} : '%' ∉ text.toList → ComparedAs .like text (.str ("%" ++ text ++ "%"))
  | pattern {text : String} : '%' ∈ text.toList → ComparedAs .like text (.str text)
  | plain {op : Operator} {text : String} : op ≠ .like → ComparedAs op text (.str text)

/-- What a token of an identifier stands for: decimal numbers for themselves, others for what they decode
to. A token that decodes to nothing stands for itself or, under the other policies, for nothing. -/
inductive StandsFor (transcoder : Transcoder) (policy : DecodePolicy) : String → Value → Prop
  | decimal {token : String} {n : Int} : Text.isDecimalText token.toList = true →
    decimalInt token.toList = .ok n → StandsFor transcoder policy token (.int n)
  | decoded {token : String} {id : Int} : Text.isDecimalText token.toList = false →
    transcoder.decode token = .ok (some id) → StandsFor transcoder policy token (.int id)
  | kept {token : String} : Text.isDecimalText token.toList = false →
    transcoder.decode token = .ok none → policy = .literal → StandsFor transcoder policy token (.str token)

theorem operatorOfField_eq_some {fields : List SearchField} {name : String} {op : Operator} :
    operatorOfField? fields name = some op ↔ GivesOperator fields name op := by
  rw [operatorOfField?, Option.bind_eq_some_iff]
  constructor
  · rintro ⟨⟨field, given⟩, found, held⟩
    obtain ⟨same, after, before, whole, others⟩ := List.find?_eq_some_iff_append.1 found
    obtain rfl : field = name := by simpa using same
    obtain rfl : given = some op := held
    refine ⟨before.reverse, after.reverse, ?_, fun f member => ?_⟩
    · simpa using congrArg List.reverse whole
    · simpa using others f (by simpa using member)
  · rintro ⟨before, after, rfl, others⟩
    have last : (before ++ ⟨name, some op⟩ :: after).reverse.find? (fun f => f.field == name) =
        some ⟨name, some op⟩ := by
      refine List.find?_eq_some_iff_append.2 ⟨by simp, after.reverse, before.reverse, by simp, ?_⟩
      intro f member
      simpa using others f (by simpa using member)
    exact ⟨_, last, rfl⟩

theorem operatorOfField_eq_none {fields : List SearchField} {name : String} :
    operatorOfField? fields name = none ↔ ∀ op, ¬GivesOperator fields name op := by
  rw [Option.eq_none_iff_forall_ne_some]
  exact forall_congr' fun op => not_congr operatorOfField_eq_some

theorem comparedAs_iff {op : Operator} {text : String} {v : Value} :
    ComparedAs op text v ↔ v = .str (if op = .like then containsPattern text else text) := by
  constructor
  · rintro (free | wild | other)
    · simp [containsPattern, free]
    · simp [containsPattern, wild]
    · simp [other]
  · rintro rfl
    split
    · next like =>
      subst like
      rw [containsPattern]
      split
      · next wild => exact .pattern (by simpa using wild)
      · next free => exact .contained (by simpa using free)
    · next other => exact .plain other

section

variable {transcoder : Transcoder} {policy : DecodePolicy} {field : String} {entity : Option String}

theorem decodeValue_decimal {token : String} (decimal : Text.isDecimalText token.toList = true) :
    decodeValue field (some transcoder) policy entity (.str token) =
      (decimalInt token.toList).map fun n => .value (.int n) := by
  rw [decodeValue, if_pos decimal]
  cases decimalInt token.toList <;> rfl

theorem decodeValue_other {token : String} (other : Text.isDecimalText token.toList = false) :
    decodeValue field (some transcoder) policy entity (.str token) =
      match transcoder.decode token with
      | .error e => .error e
      | .ok (some id) => .ok (.value (.int id))
      | .ok none =>
        match policy with
        | .noMatch => .ok .impossible
        | .literal => .ok (.value (.str token))
        | .error => .error (.undecodable field token entity) := by
  rw [decodeValue, if_neg (by simp [other])]
  dsimp only
  cases transcoder.decode token with
  | error e => rfl
  | ok found => cases found <;> cases policy <;> rfl

theorem decodeValue_eq_value {token : String} {v : Value} :
    decodeValue field (some transcoder) policy entity (.str token) = .ok (.value v) ↔
      StandsFor transcoder policy token v := by
  constructor
  · intro run
    cases decimal : Text.isDecimalText token.toList with
    | true =>
      rw [decodeValue_decimal decimal] at run
      obtain ⟨n, read, same⟩ := map_eq_ok.1 run
      cases same
      exact .decimal decimal read
    | false =>
      rw [decodeValue_other decimal] at run
      split at run
      · cases run
      · next id decoded =>
        cases run
        exact .decoded decimal decoded
      · next decoded =>
        split at run <;> cases run
        exact .kept decimal decoded rfl
  · rintro (⟨decimal, read⟩ | ⟨other, decoded⟩ | ⟨other, decoded, rfl⟩)
    · rw [decodeValue_decimal decimal, read]
      rfl
    · rw [decodeValue_other other, decoded]
    · rw [decodeValue_other other, decoded]

/-- Decoding stops at the first token that stands for nothing. -/
theorem decodeValues_eq_some {tokens : List String} {values : List Value} :
    decodeValues field (tokens.map .str) (some transcoder) policy entity = .ok (some values) ↔
      List.Forall₂ (StandsFor transcoder policy) tokens values := by
  induction tokens generalizing values with
  | nil =>
    rw [List.forall₂_nil_left_iff]
    simp [decodeValues, eq_comm]
  | cons token rest ih =>
    rw [List.map_cons, decodeValues, bind_eq_ok]
    constructor
    · rintro ⟨decoded, first, others⟩
      cases decoded with
      | impossible => cases others
      | value v =>
        obtain ⟨found, run, others⟩ := bind_eq_ok.1 others
        cases found with
        | none => cases others
        | some vs =>
          cases others
          exact .cons (decodeValue_eq_value.1 first) (ih.1 run)
    · rintro (_ | ⟨first, others⟩)
      exact ⟨_, decodeValue_eq_value.2 first, bind_eq_ok.2 ⟨_, ih.2 others, rfl⟩⟩

end

namespace RequestCriterion

variable (c : RequestCriterion) (record : Value)

/-! ## The meaning of a request -/

/-- The operator that a condition of a section with a default operator is compared by. -/
inductive ComparedBy (part : Section) (default : Operator) (condition : Condition) : Operator → Prop
  | named : condition.explicit = true → ComparedBy part default condition condition.operator
  | requested {op : Operator} : condition.explicit = false →
    GivesOperator part.fields condition.field op → ComparedBy part default condition op
  | searchable {op : Operator} : condition.explicit = false →
    (∀ op, ¬GivesOperator part.fields condition.field op) →
    GivesOperator c.searchable condition.field op → ComparedBy part default condition op
  | default : condition.explicit = false → (∀ op, ¬GivesOperator part.fields condition.field op) →
    (∀ op, ¬GivesOperator c.searchable condition.field op) → ComparedBy part default condition default

/-- A record satisfies a condition. Identifiers are decoded, and match exactly. -/
inductive ConditionHolds (part : Section) (default : Operator) (decode : Bool) (condition : Condition) : Prop
  | plain {op : Operator} {values : List Value} :
    decode = false ∨ c.transcoder = none ∨ condition.maybeEncodedId = false →
    c.ComparedBy part default condition op → List.Forall₂ (ComparedAs op) condition.values values →
    Predicate.fieldHolds condition.field op values record = .ok true →
    ConditionHolds part default decode condition
  | decoded {transcoder : Transcoder} {op : Operator} {values : List Value} :
    decode = true → c.transcoder = some transcoder → condition.maybeEncodedId = true →
    c.ComparedBy part default condition op →
    List.Forall₂ (StandsFor transcoder c.policy) condition.values values →
    Predicate.fieldHolds condition.field (if op = .like then .eq else op) values record = .ok true →
    ConditionHolds part default decode condition

def SectionHolds (default : Operator) (decode : Bool) (part : Section) : Prop :=
  part.join.Over part.conditions (c.ConditionHolds record part default decode)

/-- The operator that a term is looked for by in a field. -/
inductive LookedForBy (f : SearchField) : Operator → Prop
  | own {op : Operator} : f.operator = some op → LookedForBy f op
  | searchable {op : Operator} : f.operator = none → GivesOperator c.searchable f.field op → LookedForBy f op
  | like : f.operator = none → (∀ op, ¬GivesOperator c.searchable f.field op) → LookedForBy f .like

/-- The fields of a search, or else the searchable ones. -/
def searched (part : Section) : List SearchField :=
  if part.fields = [] then c.searchable else part.fields

/-- A text matches in some, or all, of the fields that are searched. -/
def TextMatches (part : Section) (join : Join) (text : String) : Prop :=
  join.Over (c.searched part) fun f => ∃ op value, c.LookedForBy f op ∧ ComparedAs op text value ∧
    Predicate.fieldHolds f.field op [value] record = .ok true

def ComparisonHolds (comparison : Comparison) : Prop :=
  ∃ test, comparison.operator.comparator? = some test ∧
    Predicate.columnHolds comparison.left test comparison.right record = true

structure TermHolds (part : Section) (tokens : List SearchToken) : Prop where
  optional : (∃ t ∈ tokens, t.mode = .optional) →
    ∃ t ∈ tokens, t.mode = .optional ∧ c.TextMatches record part part.join t.text
  required : ∀ t ∈ tokens, t.mode = .required → c.TextMatches record part part.join t.text
  excluded : ∀ t ∈ tokens, t.mode = .excluded → ¬c.TextMatches record part .or t.text

/-- A record is one that a request asks for. -/
structure Admits : Prop where
  filter : ∀ part, c.request.filter = some part → c.SectionHolds record .eq c.decodeFilters part
  search : ∀ part, c.request.search = some part → part.term = none →
    c.SectionHolds record .like c.decodeSearch part
  term : ∀ part, c.request.search = some part → part.term.isSome = true →
    ∃ tokens, part.tokens = .ok tokens ∧ c.TermHolds record part tokens
  compare : ∀ comparison ∈ c.request.compare, ComparisonHolds record comparison

/-! ## Conditions -/

variable {c record} {part : Section} {default : Operator} {condition : Condition} {decode : Bool}
  {p : Predicate}

theorem comparedBy_iff {op : Operator} (implicit : condition.explicit = false → condition.operator = default) :
    c.ComparedBy part default condition op ↔ c.operatorFor condition part = op := by
  unfold operatorFor
  constructor
  · rintro (named | ⟨bare, given⟩ | ⟨bare, none, given⟩ | ⟨bare, none, none'⟩)
    · rw [if_pos named]
    · rw [if_neg (by simp [bare]), operatorOfField_eq_some.2 given]
      rfl
    · rw [if_neg (by simp [bare]), operatorOfField_eq_none.2 none, operatorOfField_eq_some.2 given]
      rfl
    · rw [if_neg (by simp [bare]), operatorOfField_eq_none.2 none, operatorOfField_eq_none.2 none']
      exact implicit bare
  · rintro rfl
    split
    · next named => exact .named named
    · next unnamed =>
      have bare : condition.explicit = false := by simpa using unnamed
      cases requested : operatorOfField? part.fields condition.field with
      | some op => exact .requested bare (operatorOfField_eq_some.1 requested)
      | none =>
        cases allowed : operatorOfField? c.searchable condition.field with
        | some op =>
          exact .searchable bare (operatorOfField_eq_none.1 requested) (operatorOfField_eq_some.1 allowed)
        | none =>
          rw [Option.or_none, Option.getD_none, implicit bare]
          exact .default bare (operatorOfField_eq_none.1 requested) (operatorOfField_eq_none.1 allowed)

theorem forall₂_comparedAs {op : Operator} {texts : List String} {values : List Value} :
    List.Forall₂ (ComparedAs op) texts values ↔
      values = if op = .like then (texts.map .str).map containsValue else texts.map .str := by
  induction texts generalizing values with
  | nil => simp
  | cons text rest ih =>
    rw [List.forall₂_cons_left_iff]
    simp only [comparedAs_iff, ih]
    split <;> simp [containsValue]

theorem leaf_plain (plain : decode = false ∨ c.transcoder = none ∨ condition.maybeEncodedId = false)
    (op : Operator) :
    c.leaf condition op decode = .ok (.field condition.field op
      (if op = .like then (condition.values.map .str).map containsValue else condition.values.map .str)) := by
  have off : ¬(decode && c.transcoder.isSome && condition.maybeEncodedId) = true := by
    rcases plain with off | none | other
    · simp [off]
    · simp [none]
    · simp [other]
  rw [leaf]
  dsimp only
  rw [if_neg off]
  rfl

theorem leaf_decoded {transcoder : Transcoder} (on : decode = true) (held : c.transcoder = some transcoder)
    (encoded : condition.maybeEncodedId = true) (op : Operator) :
    c.leaf condition op decode =
      (decodeValues condition.field (condition.values.map .str) (some transcoder) c.policy c.entity).map fun
        | none => .never
        | some values => .field condition.field (if op = .like then .eq else op) values := by
  rw [leaf]
  dsimp only
  rw [if_pos (by simp [on, held, encoded]), held]
  cases decodeValues condition.field (condition.values.map .str) (some transcoder) c.policy c.entity with
  | error e => rfl
  | ok found =>
    cases found with
    | none => rfl
    | some values => cases op <;> rfl

theorem satisfied_leaf (implicit : condition.explicit = false → condition.operator = default)
    (made : c.leaf condition (c.operatorFor condition part) decode = .ok p) :
    p.Satisfied record ↔ c.ConditionHolds record part default decode condition := by
  have compared : c.ComparedBy part default condition (c.operatorFor condition part) :=
    (comparedBy_iff implicit).2 rfl
  have only {op : Operator} (compared' : c.ComparedBy part default condition op) :
      op = c.operatorFor condition part := ((comparedBy_iff implicit).1 compared').symm
  generalize c.operatorFor condition part = op at made compared only
  by_cases plain : decode = false ∨ c.transcoder = none ∨ condition.maybeEncodedId = false
  · rw [leaf_plain plain] at made
    cases made
    constructor
    · exact .plain plain compared (forall₂_comparedAs.2 rfl)
    · rintro (⟨-, compared', as, holds⟩ | ⟨on, held, encoded, -, -, -⟩)
      · obtain rfl := only compared'
        rw [forall₂_comparedAs.1 as] at holds
        exact holds
      · simp [on, held, encoded] at plain
  · obtain ⟨on, some, encoded⟩ : decode = true ∧ c.transcoder ≠ none ∧ condition.maybeEncodedId = true := by
      simpa using plain
    obtain ⟨transcoder, held⟩ := Option.ne_none_iff_exists'.1 some
    rw [leaf_decoded on held encoded] at made
    obtain ⟨found, run, rfl⟩ := map_eq_ok.1 made
    constructor
    · intro satisfied
      cases found with
      | none => cases satisfied
      | some values => exact .decoded on held encoded compared (decodeValues_eq_some.1 run) satisfied
    · rintro (⟨plain', -, -, -⟩ | ⟨-, held', -, compared', stands, holds⟩)
      · exact absurd plain' plain
      · obtain rfl := only compared'
        cases held.symm.trans held'
        -- Where every token stands for something, decoding has found just that.
        cases run.symm.trans (decodeValues_eq_some.2 stands)
        exact holds

/-! ## Sections -/

/-- What one stage adds to a query, and what it asks of a record by that. -/
def Adds (record : Value) (q q' : QueryState) (asked : Prop) : Prop :=
  ∃ added, q'.wheres = q.wheres ++ added ∧
    ((∀ p ∈ added, p.Evaluates record) → ((∀ p ∈ added, p.Satisfied record) ↔ asked))

variable {q q' : QueryState}

theorem Adds.nothing (record : Value) {asked : Prop} (always : asked) (same : q'.wheres = q.wheres) :
    Adds record q q' asked :=
  ⟨[], by simp [same], fun _ => by simp [always]⟩

theorem Adds.one {asked : Prop} (means : p.Evaluates record → (p.Satisfied record ↔ asked)) :
    Adds record q (q.addPredicate p) asked :=
  ⟨[p], rfl, by simpa using means⟩

theorem Adds.trans {q'' : QueryState} {asked asked' : Prop} (first : Adds record q q' asked)
    (second : Adds record q' q'' asked') : Adds record q q'' (asked ∧ asked') := by
  obtain ⟨added, wheres, means⟩ := first
  obtain ⟨added', wheres', means'⟩ := second
  refine ⟨added ++ added', by rw [wheres', wheres, List.append_assoc], fun evaluates => ?_⟩
  rw [List.forall_mem_append] at evaluates
  rw [List.forall_mem_append, means evaluates.1, means' evaluates.2]

theorem Adds.congr {asked asked' : Prop} (adds : Adds record q q' asked) (same : asked ↔ asked') :
    Adds record q q' asked' := by
  rwa [← propext same]

theorem satisfied_leaves {parts : List Predicate} (conditional : part.IsConditional default)
    (made : c.leaves part decode = .ok parts) :
    part.join.Over parts (Predicate.Satisfied record) ↔ c.SectionHolds record default decode part := by
  have pairs := (List.forall₂_and_left _ _).2 ⟨conditional.conditions, mapM_eq_ok.1 made⟩
  refine (Join.over_congr pairs ?_ part.join).symm
  rintro condition p ⟨readable, made⟩
  obtain ⟨-, -, made⟩ := bind_eq_ok.1 made
  exact (satisfied_leaf (fun implicit => (readable.implicit implicit).1) made).symm

theorem adds_applySection (conditional : part.IsConditional default)
    (applied : c.applySection part decode q = .ok q') :
    Adds record q q' (c.SectionHolds record default decode part) := by
  obtain ⟨parts, made, applied⟩ := bind_eq_ok.1 applied
  cases applied
  split
  · next none =>
    -- A section that was read has conditions, and each has its predicate.
    have pairs := mapM_eq_ok.1 made
    rw [List.isEmpty_iff.1 none, List.forall₂_nil_right_iff] at pairs
    exact absurd pairs conditional.some
  · refine Adds.one fun evaluates => ?_
    rw [Predicate.satisfied_combine (Predicate.evaluates_combine.1 evaluates)]
    exact satisfied_leaves conditional made

/-! ## Terms -/

theorem lookedForBy_iff {f : SearchField} {op : Operator} :
    c.LookedForBy f op ↔ (f.operator.or (operatorOfField? c.searchable f.field)).getD .like = op := by
  constructor
  · rintro (own | ⟨none, given⟩ | ⟨none, none'⟩)
    · rw [own]
      rfl
    · rw [none, operatorOfField_eq_some.2 given]
      rfl
    · rw [none, operatorOfField_eq_none.2 none']
      rfl
  · rintro rfl
    cases own : f.operator with
    | some op => exact .own own
    | none =>
      cases allowed : operatorOfField? c.searchable f.field with
      | some op => exact .searchable own (operatorOfField_eq_some.1 allowed)
      | none => exact .like own (operatorOfField_eq_none.1 allowed)

theorem of_termFields {fields : List (String × Operator)} (found : c.termFields part = .ok fields) :
    List.Forall₂ (fun f field => field.1 = f.field ∧ c.LookedForBy f field.2) (c.searched part) fields := by
  have chosen : c.searched part = if part.fields.isEmpty then c.searchable else part.fields := by
    simp [searched, List.isEmpty_iff]
  unfold termFields at found
  dsimp only at found
  rw [← chosen] at found
  split at found
  · cases found
  · refine (mapM_eq_ok.1 found).imp fun f field made => ?_
    obtain ⟨-, -, made⟩ := bind_eq_ok.1 made
    cases made
    exact ⟨rfl, lookedForBy_iff.2 rfl⟩

theorem satisfied_across {fields : List (String × Operator)} {join : Join} {text : String}
    (found : c.termFields part = .ok fields) (evaluates : (across fields join text).Evaluates record) :
    (across fields join text).Satisfied record ↔ c.TextMatches record part join text := by
  rw [across] at evaluates ⊢
  rw [Predicate.satisfied_combine (Predicate.evaluates_combine.1 evaluates)]
  refine (Join.over_congr (R := fun f p => ∃ op, c.LookedForBy f op ∧ p = .field f.field op
    [.str (if op = .like then containsPattern text else text)]) ?_ ?_ join).symm
  · rw [List.forall₂_map_right_iff]
    refine (of_termFields found).imp ?_
    rintro f ⟨name, op⟩ ⟨rfl, looked⟩
    exact ⟨op, looked, rfl⟩
  · rintro f p ⟨op, looked, rfl⟩
    constructor
    · rintro ⟨op', value, looked', compared, holds⟩
      obtain rfl := (lookedForBy_iff.1 looked).symm.trans (lookedForBy_iff.1 looked')
      rw [comparedAs_iff.1 compared] at holds
      exact holds
    · intro holds
      exact ⟨op, _, looked, comparedAs_iff.2 rfl, holds⟩

theorem forall_texts {tokens : List SearchToken} {mode : TokenMode} {f : String → Predicate}
    {P : Predicate → Prop} :
    (∀ p ∈ ((tokens.filter fun t => t.mode == mode).map (·.text)).map f, P p) ↔
      ∀ t ∈ tokens, t.mode = mode → P (f t.text) := by
  rw [List.forall_mem_map, List.forall_mem_map]
  simp

theorem satisfied_optional {fields : List (String × Operator)} {tokens : List SearchToken}
    (found : c.termFields part = .ok fields) {optional : List Predicate}
    (held : optional =
      ((tokens.filter fun t => t.mode == .optional).map (·.text)).map (across fields part.join))
    (evaluates : ∀ p ∈ if optional.isEmpty then [] else [Predicate.combine optional .or], p.Evaluates record) :
    (∀ p ∈ if optional.isEmpty then [] else [Predicate.combine optional .or], p.Satisfied record) ↔
      ((∃ t ∈ tokens, t.mode = .optional) →
        ∃ t ∈ tokens, t.mode = .optional ∧ c.TextMatches record part part.join t.text) := by
  have member {p : Predicate} : p ∈ optional ↔
      ∃ t ∈ tokens, t.mode = .optional ∧ across fields part.join t.text = p := by
    rw [held]
    simp [and_assoc]
  -- Without an optional token there is no condition; otherwise one disjunction over all of them.
  split at evaluates
  · next none =>
    have bare : ¬∃ t ∈ tokens, t.mode = .optional := by
      rintro ⟨t, found, mode⟩
      have some := member.2 ⟨t, found, mode, rfl⟩
      rw [List.isEmpty_iff.1 none] at some
      cases some
    simp [none, bare]
  · next some =>
    obtain ⟨p, first⟩ := List.exists_mem_of_ne_nil optional (by simpa using some)
    obtain ⟨t, token, mode, -⟩ := member.1 first
    have each := Predicate.evaluates_combine.1 (evaluates (Predicate.combine optional .or) (by simp))
    have present : ∃ t ∈ tokens, t.mode = .optional := ⟨t, token, mode⟩
    simp only [some, if_false, Bool.false_eq_true, List.mem_singleton, forall_eq, present, true_imp_iff]
    rw [Predicate.satisfied_combine each]
    constructor
    · rintro ⟨p, found', satisfied⟩
      obtain ⟨t, token, mode, rfl⟩ := member.1 found'
      exact ⟨t, token, mode, (satisfied_across found (each _ found')).1 satisfied⟩
    · rintro ⟨t, token, mode, holds⟩
      have inside := member.2 ⟨t, token, mode, rfl⟩
      exact ⟨_, inside, (satisfied_across found (each _ inside)).2 holds⟩

theorem satisfied_termParts {fields : List (String × Operator)} {tokens : List SearchToken}
    (found : c.termFields part = .ok fields)
    (evaluates : ∀ p ∈ termParts fields part.join tokens, p.Evaluates record) :
    (∀ p ∈ termParts fields part.join tokens, p.Satisfied record) ↔ c.TermHolds record part tokens := by
  unfold termParts at evaluates ⊢
  simp only [List.forall_mem_append, forall_texts] at evaluates ⊢
  obtain ⟨⟨optional, required⟩, excluded⟩ := evaluates
  rw [satisfied_optional found rfl optional]
  have matching : (∀ t ∈ tokens, t.mode = .required → (across fields part.join t.text).Satisfied record) ↔
      ∀ t ∈ tokens, t.mode = .required → c.TextMatches record part part.join t.text :=
    forall₃_congr fun t member mode => satisfied_across found (required t member mode)
  have missing : (∀ t ∈ tokens, t.mode = .excluded →
        (Predicate.not (across fields .or t.text)).Satisfied record) ↔
      ∀ t ∈ tokens, t.mode = .excluded → ¬c.TextMatches record part .or t.text := by
    refine forall₃_congr fun t member mode => ?_
    have inner : (across fields .or t.text).Evaluates record := by
      have whole := excluded t member mode
      rwa [Predicate.Evaluates, Predicate.leaves_not] at whole
    rw [Predicate.satisfied_not inner, satisfied_across found inner]
  rw [matching, missing]
  constructor
  · rintro ⟨⟨optional, required⟩, excluded⟩
    exact ⟨optional, required, excluded⟩
  · intro holds
    exact ⟨⟨holds.optional, holds.required⟩, holds.excluded⟩

theorem adds_applyTerm (applied : c.applyTerm part q = .ok q') :
    ∃ tokens, part.tokens = .ok tokens ∧ Adds record q q' (c.TermHolds record part tokens) := by
  obtain ⟨fields, found, applied⟩ := bind_eq_ok.1 applied
  obtain ⟨tokens, read, applied⟩ := bind_eq_ok.1 applied
  have held : part.tokens = .ok tokens := by
    cases tokens' : part.tokens with
    | error e => rw [tokens'] at read; cases read
    | ok found => rw [tokens'] at read; cases read; rfl
  refine ⟨tokens, held, ?_⟩
  cases applied
  split
  · next none =>
    -- A term without tokens adds nothing, and asks nothing.
    have means := @satisfied_termParts c record part fields tokens found
    rw [List.isEmpty_iff.1 none] at means
    exact Adds.nothing record ((means (by simp)).1 (by simp)) rfl
  · refine Adds.one fun evaluates => ?_
    have each := Predicate.evaluates_combine.1 evaluates
    rw [Predicate.satisfied_combine each]
    exact satisfied_termParts found each

/-! ## Comparisons -/

theorem adds_applyComparison {comparison : Comparison} (applied : c.applyComparison q comparison = .ok q') :
    Adds record q q' (ComparisonHolds record comparison) := by
  obtain ⟨-, -, applied⟩ := bind_eq_ok.1 applied
  obtain ⟨-, -, applied⟩ := bind_eq_ok.1 applied
  obtain ⟨p, made, rfl⟩ := map_eq_ok.1 applied
  refine Adds.one fun _ => ?_
  unfold Predicate.compareColumns at made
  split at made
  · next test named =>
    cases made
    rw [Predicate.Satisfied, Predicate.holds, Except.ok.injEq, ComparisonHolds, named]
    simp
  · cases made

theorem adds_comparisons {comparisons : List Comparison}
    (applied : comparisons.foldlM c.applyComparison q = .ok q') :
    Adds record q q' (∀ comparison ∈ comparisons, ComparisonHolds record comparison) := by
  induction comparisons generalizing q with
  | nil =>
    cases applied
    exact Adds.nothing record (by simp) rfl
  | cons comparison rest ih =>
    rw [List.foldlM_cons, bind_eq_ok] at applied
    obtain ⟨next, first, others⟩ := applied
    exact ((adds_applyComparison first).trans (ih others)).congr List.forall_mem_cons.symm

/-! ## The whole request -/

/-- Order, relations, groups and conditions on groups ask nothing of a record. -/
theorem wheres_applyShape (request : Request) (q : QueryState) : (applyShape request q).wheres = q.wheres := by
  have shaped := congrArg QueryState.wheres (bare_applyShape request q)
  exact shaped

/-- What a search section asks: its conditions, or that its term matches. -/
def SearchHolds (c : RequestCriterion) (record : Value) (part : Section) : Prop :=
  (part.term = none → c.SectionHolds record .like c.decodeSearch part) ∧
    (part.term.isSome = true → ∃ tokens, part.tokens = .ok tokens ∧ c.TermHolds record part tokens)

theorem adds_applySearch {enhanced : Bool} (readable : part.IsSearch enhanced)
    (applied : c.applySearch part q = .ok q') : Adds record q q' (c.SearchHolds record part) := by
  unfold applySearch at applied
  split at applied
  · next term =>
    obtain ⟨tokens, read, adds⟩ := @adds_applyTerm c record part q q' applied
    refine adds.congr ⟨fun holds => ⟨fun none => ?_, fun _ => ⟨tokens, read, holds⟩⟩, fun holds => ?_⟩
    · simp [none] at term
    · obtain ⟨tokens', read', holds⟩ := holds.2 term
      cases read.symm.trans read'
      exact holds
  · next bare =>
    have none : part.term = none := by simpa using bare
    have conditional : part.IsConditional .like :=
      readable.body.resolve_right fun ⟨term, held⟩ => by simp [held.held] at bare
    have adds : Adds record q q' (c.SectionHolds record .like c.decodeSearch part) :=
      adds_applySection conditional applied
    exact adds.congr ⟨fun holds => ⟨fun _ => holds, fun term => absurd term bare⟩, fun holds => holds.1 none⟩

theorem satisfied_iff_admits {params : RequestParams} {names : ParamNames} {enhanced : Bool}
    (parsed : Request.parse params names enhanced = .ok c.request) (applied : c.apply {} = .ok q)
    (evaluates : q.predicate.Evaluates record) :
    (∃ b, q.predicate.holds record = .ok b) ∧ (q.predicate.holds record = .ok true ↔ c.Admits record) := by
  have readable := Request.readable_of_parse parsed
  obtain ⟨q₁, q₂, q₃, searched, filtered, compared, rfl⟩ := stages_of_apply applied
  have search : Adds record {} q₁ (∀ part, c.request.search = some part → c.SearchHolds record part) := by
    cases held : c.request.search with
    | none =>
      rw [held] at searched
      cases searched
      exact Adds.nothing record (by simp) rfl
    | some part =>
      rw [held] at searched
      exact (adds_applySearch (readable.search part held) searched).congr (by simp)
  have filter : Adds record q₁ q₂
      (∀ part, c.request.filter = some part → c.SectionHolds record .eq c.decodeFilters part) := by
    cases held : c.request.filter with
    | none =>
      rw [held] at filtered
      cases filtered
      exact Adds.nothing record (by simp) rfl
    | some part =>
      rw [held] at filtered
      have adds : Adds record q₁ q₂ (c.SectionHolds record .eq c.decodeFilters part) :=
        adds_applySection (readable.filter part held).body filtered
      exact adds.congr (by simp)
  obtain ⟨added, wheres, means⟩ := (search.trans filter).trans (adds_comparisons compared)
  rw [List.nil_append] at wheres
  -- The query was empty, so what was added is all of its predicate.
  have whole : (applyShape c.request q₃).predicate = .all added := by
    rw [QueryState.predicate, wheres_applyShape, wheres]
  rw [whole] at evaluates ⊢
  refine ⟨Predicate.exists_holds evaluates, ?_⟩
  rw [Predicate.Evaluates, Predicate.leaves_all, Predicate.evaluates_parts] at evaluates
  refine Predicate.satisfied_all.trans ((means evaluates).trans ?_)
  constructor
  · rintro ⟨⟨search, filter⟩, compare⟩
    exact ⟨filter, fun part held => (search part held).1, fun part held => (search part held).2, compare⟩
  · intro admits
    exact ⟨⟨fun part held => ⟨admits.search part held, admits.term part held⟩, admits.filter⟩, admits.compare⟩

theorem satisfied_iff_admits_mixed :
    let params : RequestParams := [("search", .str "ada -bob"), ("searchFields", .str "name;email:eq"),
      ("searchJoin", .str "or"), ("filter", .str "role_id:u_3;age:99"), ("filterJoin", .str "or"),
      ("compare", .str "created:lt:updated")]
    let request : Request := {
      search := some { join := .or, term := some "ada -bob", fields := [⟨"name", none⟩, ⟨"email", some .eq⟩] }
      filter := some {
        conditions := [⟨"role_id", .eq, ["u_3"], .or, false⟩, ⟨"age", .eq, ["99"], .or, false⟩]
        join := .or }
      compare := [⟨"created", .lt, "updated"⟩] }
    let c : RequestCriterion := {
      request
      transcoder := some (.marked "u_")
      searchable := [⟨"name", none⟩, ⟨"email", none⟩, ⟨"role_id", none⟩, ⟨"age", some .gte⟩,
        ⟨"created", none⟩, ⟨"updated", none⟩] }
    let record : Value := .dict [("name", .str "Ada"), ("email", .str "a@x"), ("role_id", .int 3),
      ("age", .int 36), ("created", .int 1), ("updated", .int 5)]
    ∃ q, Request.parse params = .ok c.request ∧ c.apply {} = .ok q ∧ q.predicate.Evaluates record ∧
      q.predicate.holds record = .ok true ∧ c.Admits record := by
  intro params request c record
  have parsed : Request.parse params = .ok c.request := by decide +kernel
  have run : ((c.apply {}).toOption.map fun q =>
      (q.predicate.leaves.all fun leaf => (leaf.holds record).toOption.isSome,
        (q.predicate.holds record).toOption)) = some (true, some true) := by decide +kernel
  obtain ⟨q, made, answers⟩ := Option.map_eq_some_iff.1 run
  obtain ⟨leaves, answer⟩ := Prod.mk.inj answers
  have applied : c.apply {} = .ok q := of_toOption made
  have holds : q.predicate.holds record = .ok true := of_toOption answer
  have evaluates : q.predicate.Evaluates record := by
    intro leaf member
    obtain ⟨b, found⟩ := Option.isSome_iff_exists.1 (List.all_eq_true.1 leaves leaf member)
    exact ⟨b, of_toOption found⟩
  exact ⟨q, parsed, applied, evaluates, holds, (satisfied_iff_admits parsed applied evaluates).2.1 holds⟩

end RequestCriterion

end QueryCache
