import QueryCache.Proofs.Criteria.Built

/-! Requests build well formed predicates.

A condition is read with the values of one operator and may be compared by another one, so the count
of its values is followed from the reader to the leaf. An operator that replaces another takes one
value, and it replaces only where there is one. -/

set_option autoImplicit false

namespace QueryCache

open Outcome

namespace Predicate

variable {p : Predicate}

/-- A condition with as many values as its operator takes, or a comparison by an operator of fields. -/
def IsWellFormed : Predicate → Prop
  | .field _ op values => op.accepts values.length = true
  | .column _ test _ => test.operator.comparator? = some test
  | .never => True
  | .all _ | .any _ | .not _ => False

theorem exists_render (formed : ∀ leaf ∈ p.leaves, leaf.IsWellFormed) (context : SqlContext) (n : Nat) :
    ∃ made, render context p n = (.ok made, n + p.values.length) := by
  refine ⟨_, render_eq (fun leaf member => ?_) n⟩
  cases leaf with
  | field => exact .inl (formed _ member)
  | column | never | all | any | not => trivial

theorem evaluates_of_wellFormed (formed : ∀ leaf ∈ p.leaves, leaf.IsWellFormed) (record : Value) :
    p.Evaluates record := by
  intro leaf member
  cases leaf with
  | field name op values => exact isTotal_field (formed _ member) name record
  | column | never => exact ⟨_, rfl⟩
  | all | any | not => exact (formed _ member).elim

end Predicate

/-- All that a query asks of records and of groups is well formed. -/
structure QueryState.IsWellFormed (q : QueryState) : Prop where
  wheres : ∀ leaf ∈ q.predicate.leaves, leaf.IsWellFormed
  havings : ∀ leaf ∈ q.havingPredicate.leaves, leaf.IsWellFormed

/-! ## Operators of one value -/

namespace Operator

theorem accepts_one {op : Operator} (single : (!op.isMultiValue && !op.isNullary) = true) :
    op.accepts 1 = true := by
  cases op <;> first | rfl | cases single

/-- A default operator takes nothing but one value. -/
theorem IsDefault.length_eq_one {default : Operator} {values : List String} (single : default.IsDefault)
    (accepted : default.accepts values.length = true) : values.length = 1 := by
  rcases single with rfl | rfl <;> simpa [accepts, isNullary, isRange, isMultiValue] using accepted

end Operator

namespace SearchField

/-- An operator that a field is given takes one value. -/
def TakesOne (f : SearchField) : Prop := ∀ op, f.operator = some op → op.accepts 1 = true

theorem Readable.takesOne {f : SearchField} (readable : f.Readable) : f.TakesOne :=
  fun op held => Operator.accepts_one (readable.operator op held)

theorem takesOne_of_ofEntry {entry : String × Value} {f : SearchField} (made : ofEntry entry = .ok f) :
    f.TakesOne := by
  unfold ofEntry at made
  split at made
  · cases made
    exact fun op held => nomatch held
  · obtain ⟨op, -, made⟩ := bind_eq_ok.1 made
    split at made
    · cases made
    · next single =>
      cases made
      intro op' held
      cases held
      exact Operator.accepts_one (by simpa using single)

/-- What a list of searchable fields is checked for. -/
theorem takesOne_of_ofValue {given : Value} {fields : List SearchField} (accepted : ofValue given = .ok fields) :
    ∀ f ∈ fields, f.TakesOne := by
  unfold ofValue at accepted
  split at accepted
  · exact forall_of_mapM_eq_ok accepted fun entry _ f made => takesOne_of_ofEntry made
  · cases accepted
    intro f member
    obtain ⟨name, -, rfl⟩ := List.mem_map.1 member
    exact fun op held => nomatch held
  · cases accepted
    simp

end SearchField

theorem GivesOperator.accepts_one {fields : List SearchField} {name : String} {op : Operator}
    (given : GivesOperator fields name op) (each : ∀ f ∈ fields, f.TakesOne) : op.accepts 1 = true := by
  obtain ⟨before, after, rfl, -⟩ := given
  exact each ⟨name, some op⟩ (by simp) op rfl

namespace RequestCriterion

variable {c : RequestCriterion} {part : Section} {default : Operator} {condition : Condition} {q : QueryState}

theorem accepts_of_comparedBy {op : Operator} (single : default.IsDefault)
    (readable : condition.Readable default part.join) (requested : ∀ f ∈ part.fields, f.TakesOne)
    (allowed : ∀ f ∈ c.searchable, f.TakesOne) (compared : c.ComparedBy part default condition op) :
    op.accepts condition.values.length = true := by
  have one (bare : condition.explicit = false) : condition.values.length = 1 := by
    apply single.length_eq_one
    rw [← (readable.implicit bare).1]
    exact readable.values.count
  cases compared with
  | named => exact readable.values.count
  | requested bare given =>
    rw [one bare]
    exact given.accepts_one requested
  | searchable bare _ given =>
    rw [one bare]
    exact given.accepts_one allowed
  | default bare =>
    rw [one bare]
    rcases single with rfl | rfl <;> rfl

theorem LookedForBy.accepts_one {f : SearchField} {op : Operator} (looked : c.LookedForBy f op)
    (own : f.TakesOne) (allowed : ∀ f ∈ c.searchable, f.TakesOne) : op.accepts 1 = true := by
  cases looked with
  | own given => exact own op given
  | searchable _ given => exact given.accepts_one allowed
  | like => rfl

theorem IsSection.readable {decode enhanced : Bool} (readable : c.request.Readable enhanced)
    (asked : c.IsSection part default decode) :
    default.IsDefault ∧ part.IsConditional default ∧ ∀ f ∈ part.fields, f.Readable := by
  cases asked with
  | search held bare =>
    have search := readable.search part held
    refine ⟨.inl rfl, search.body.resolve_right ?_, search.fields⟩
    rintro ⟨term, spread⟩
    cases bare.symm.trans spread.held
  | filter held =>
    have filter := readable.filter part held
    exact ⟨.inr rfl, filter.body, by simp [filter.fields]⟩

theorem LeafOf.isWellFormed {leaf : Predicate} {enhanced : Bool} (readable : c.request.Readable enhanced)
    (allowed : ∀ f ∈ c.searchable, f.TakesOne) (found : c.LeafOf leaf) : leaf.IsWellFormed := by
  cases found with
  | never => trivial
  | @condition part default op decode condition values asked member compared count =>
    obtain ⟨single, conditional, requested⟩ := asked.readable readable
    have each := conditional.conditions condition member
    have accepted : (c.operatorFor condition part).accepts condition.values.length = true :=
      accepts_of_comparedBy single each (fun f held => (requested f held).takesOne) allowed
        ((comparedBy_iff fun bare => (each.implicit bare).1).2 rfl)
    rw [Predicate.IsWellFormed, count]
    -- An identifier under LIKE is compared for equality, which takes one value as LIKE does.
    rcases compared with rfl | ⟨like, rfl⟩
    · exact accepted
    · rw [like] at accepted
      exact accepted
  | @term part f op tokens token held term searched looked =>
    have own : f.TakesOne := by
      unfold RequestCriterion.searched at searched
      split at searched
      · exact allowed f searched
      · exact ((readable.search part held).fields f searched).takesOne
    exact looked.accepts_one own allowed
  | @comparison comparison test member named => exact test.comparator?_operator

theorem LeafOf.comparison_mem {left right : String} {test : Comparator}
    (found : c.LeafOf (.column left test right)) : ⟨left, test.operator, right⟩ ∈ c.request.compare := by
  cases found with
  | @comparison comparison test member named =>
    have same : comparison.operator = test.operator := by
      cases held : comparison.operator <;> rw [held] at named <;> cases named <;> rfl
    rw [← same]
    exact member

theorem isWellFormed_of_apply {enhanced : Bool} (readable : c.request.Readable enhanced)
    (allowed : ∀ f ∈ c.searchable, f.TakesOne) (applied : c.apply {} = .ok q) : q.IsWellFormed := by
  obtain ⟨wheres, groups⟩ := leaves_of_apply applied
  constructor
  · exact fun leaf member => (wheres leaf member).isWellFormed readable allowed
  · rw [QueryState.havingPredicate, groups, Predicate.leaves_all]
    intro leaf member
    obtain ⟨part, held, condition, inside, rfl⟩ := mem_leaves_havings member
    rw [Predicate.IsWellFormed, List.length_map]
    exact ((readable.having part held).body.conditions condition inside).values.count

theorem wellFormed_of_parse {params : RequestParams} {names : ParamNames} {enhanced : Bool} {given : Value}
    (parsed : Request.parse params names enhanced = .ok c.request)
    (accepted : SearchField.ofValue given = .ok c.searchable) (applied : c.apply {} = .ok q) :
    q.IsWellFormed ∧
      (∀ left test right, .column left test right ∈ q.predicate.leaves →
        ⟨left, test.operator, right⟩ ∈ c.request.compare) ∧
      (∀ context n, ∃ made, Predicate.render context q.predicate n = (.ok made, n + q.predicate.values.length)) ∧
      (∀ context, ∃ made, q.toSql context = .ok made) ∧
      (∀ record, ∃ b, q.predicate.holds record = .ok b) ∧
      (∀ record, ∃ b, q.havingPredicate.holds record = .ok b) ∧
      ∃ pairs, c.equalities = .ok pairs := by
  have readable := Request.readable_of_parse parsed
  have formed := isWellFormed_of_apply readable (SearchField.takesOne_of_ofValue accepted) applied
  have rendered (context : SqlContext) (n : Nat) := Predicate.exists_render formed.wheres context n
  refine ⟨formed, fun left test right member => ?_, rendered, fun context => ?_, fun record => ?_,
    fun record => ?_, exists_equalities readable⟩
  · exact ((leaves_of_apply applied).1 _ member).comparison_mem
  · obtain ⟨made, run⟩ := rendered context 0
    exact ⟨made, congrArg Prod.fst run⟩
  · exact Predicate.exists_holds (Predicate.evaluates_of_wellFormed formed.wheres record)
  · exact Predicate.exists_holds (Predicate.evaluates_of_wellFormed formed.havings record)

theorem wellFormed_of_parse_mixed :
    let params : RequestParams := [("search", .str "role_id:u_3;age:36"), ("searchFields", .str "role_id:eq"),
      ("filter", .str "created:between:1,5;name:isNull"), ("having", .str "count:gt:2"),
      ("groupBy", .str "name"), ("compare", .str "created:lt:updated")]
    let given : Value := .dict [("role_id", .null), ("age", .str ">="), ("name", .null), ("created", .null),
      ("updated", .null)]
    ∃ (c : RequestCriterion) (q : QueryState), Request.parse params = .ok c.request ∧
      SearchField.ofValue given = .ok c.searchable ∧
      c.transcoder = some (.marked "u_") ∧ c.apply {} = .ok q ∧ q.IsWellFormed ∧
      ∃ made, q.toSql { table := some "users" } = .ok made := by
  intro params given
  have read : ((Request.parse params).toOption.bind fun request => (SearchField.ofValue given).toOption.bind
      fun searchable => (RequestCriterion.apply { request, searchable, transcoder := some (.marked "u_") }
        {}).toOption).isSome = true := by decide +kernel
  obtain ⟨q, made⟩ := Option.isSome_iff_exists.1 read
  obtain ⟨request, parsed, made⟩ := Option.bind_eq_some_iff.1 made
  obtain ⟨searchable, accepted, made⟩ := Option.bind_eq_some_iff.1 made
  have formed := wellFormed_of_parse (c := { request, searchable, transcoder := some (.marked "u_") })
    (of_toOption parsed) (of_toOption accepted) (of_toOption made)
  exact ⟨_, q, of_toOption parsed, of_toOption accepted, rfl, of_toOption made, formed.1, formed.2.2.2.1 _⟩

end RequestCriterion

end QueryCache
