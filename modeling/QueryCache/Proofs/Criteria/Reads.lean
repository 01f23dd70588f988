import QueryCache.Proofs.Distinct
import QueryCache.Proofs.Entity.Selection
import QueryCache.Proofs.Key.Identity
import QueryCache.Proofs.Request.Readable
import QueryCache.Tag

/-! The stages in which a request is applied, and the fields that criteria say they read. The tags of a
query name all of these. -/

set_option autoImplicit false

namespace QueryCache

open Outcome

variable {names : List String}

namespace QueryState

/-- Without the relations that its rows are to have. -/
def bare (q : QueryState) : QueryState := { q with relations := [], counts := [] }

theorem bare_addRelation (q : QueryState) (path : String) : (q.addRelation path).bare = q.bare := by
  rw [addRelation]
  split <;> rfl

theorem bare_addCount (q : QueryState) (path : String) : (q.addCount path).bare = q.bare := by
  rw [addCount]
  split <;> rfl

end QueryState

namespace QueryState.DependsOn

variable {q : QueryState}

theorem empty : ({} : QueryState).DependsOn names := by
  constructor <;> simp

theorem addPredicate (depends : q.DependsOn names) {p : Predicate} (part : p.DependsOn names) :
    (q.addPredicate p).DependsOn names := by
  refine ⟨fun p' member => ?_, depends.sort, depends.groupBy, depends.relations, depends.counts⟩
  rcases List.mem_append.1 member with member | single
  · exact depends.wheres p' member
  · rw [List.mem_singleton.1 single]
    exact part

theorem orderBy (depends : q.DependsOn names) {field : String} (read : field ∈ names)
    (direction : Direction) : (q.orderBy field direction).DependsOn names := by
  refine ⟨depends.wheres, fun s member => ?_, depends.groupBy, depends.relations, depends.counts⟩
  rcases List.mem_append.1 member with member | single
  · exact depends.sort s member
  · rw [List.mem_singleton.1 single]
    exact read

/-- Comparing two fields depends on both. -/
theorem addColumn (depends : q.DependsOn names) {left right : String} {op : Operator} {q' : QueryState}
    (first : left ∈ names) (second : right ∈ names) (added : q.addColumn left op right = .ok q') :
    q'.DependsOn names := by
  obtain ⟨p, compared, rfl⟩ := map_eq_ok.1 added
  apply depends.addPredicate
  unfold Predicate.compareColumns at compared
  cases test : op.comparator? with
  | none => simp [test] at compared
  | some test' =>
    simp only [test, Except.ok.injEq] at compared
    rw [← compared]
    exact Predicate.dependsOn_column first second test'

end QueryState.DependsOn

/-! ## Requests -/

namespace Section

theorem field_mem_fieldNames {s : Section} {c : Condition} (member : c ∈ s.conditions) :
    c.field ∈ s.fieldNames := by
  simp only [fieldNames, mem_distinct, List.mem_append]
  exact .inl (List.mem_map_of_mem member)

theorem searchField_mem_fieldNames {s : Section} {f : SearchField} (term : s.term.isSome = true)
    (member : f ∈ s.fields) : f.field ∈ s.fieldNames := by
  simp only [fieldNames, mem_distinct, List.mem_append, term, if_true]
  exact .inr (List.mem_map_of_mem member)

end Section

namespace RequestCriterion

open QueryState

variable {c : RequestCriterion} {part : Section} {q q' : QueryState}

theorem mem_fields {name : String} (read : name ∈ c.request.referencedFields) : name ∈ c.fields := by
  simp [fields, read]

theorem mem_fields_of_section {name : String}
    (held : part ∈ [c.request.search, c.request.filter, c.request.having].filterMap id)
    (read : name ∈ part.fieldNames) : name ∈ c.fields := by
  apply mem_fields
  simp only [Request.referencedFields, mem_distinct, List.mem_append]
  exact .inl (.inl (.inl (List.mem_flatMap.2 ⟨part, held, read⟩)))

/-! ## The shape of a request -/

/-- The conditions on groups, joined. -/
def onGroups (part : Section) : List Predicate :=
  let parts : List Predicate := part.conditions.map fun c => .field c.field c.operator (c.values.map .str)
  if parts.isEmpty then [] else [.combine parts part.join]

/-- The predicates on groups of a request. -/
def havings (request : Request) : List Predicate := request.having.elim [] onGroups

theorem applyHaving_eq (part : Section) (q : QueryState) :
    applyHaving part q = { q with havings := q.havings ++ onGroups part } := by
  unfold applyHaving onGroups
  dsimp only
  split <;> simp [addHaving]

theorem bare_foldl {α : Type} {f : QueryState → α → QueryState} (kept : ∀ q a, (f q a).bare = q.bare)
    (items : List α) (q : QueryState) : (items.foldl f q).bare = q.bare := by
  induction items generalizing q with
  | nil => rfl
  | cons a rest ih => rw [List.foldl_cons, ih, kept]

theorem foldl_orderBy (fields : List SortField) (q : QueryState) :
    fields.foldl (fun q f => q.orderBy f.field f.direction) q = { q with sort := q.sort ++ fields } := by
  induction fields generalizing q with
  | nil => simp
  | cons f rest ih =>
    rw [List.foldl_cons, ih]
    simp [orderBy]

/-- Relations apart, the shape of a request is an order, groups and conditions on groups. -/
theorem bare_applyShape (request : Request) (q : QueryState) :
    (applyShape request q).bare = { q.bare with
      sort := q.sort ++ request.sort.getD []
      groupBy := q.groupBy ++ request.groupBy
      havings := q.havings ++ havings request } := by
  -- Relations and counts are added one by one, and none of them touches the rest.
  have related := bare_foldl bare_addRelation
  have counted := bare_foldl bare_addCount
  have grouped (q : QueryState) : (q.addGroups request.groupBy).bare = q.bare.addGroups request.groupBy := rfl
  have onGroups (part : Section) (q : QueryState) : (applyHaving part q).bare = applyHaving part q.bare := by
    rw [applyHaving_eq, applyHaving_eq]
    rfl
  unfold applyShape
  dsimp only
  rw [foldl_orderBy]
  cases held : request.having with
  | none =>
    dsimp only
    rw [grouped, counted, related]
    simp [havings, held, bare, addGroups]
  | some part =>
    dsimp only
    rw [onGroups, grouped, counted, related, applyHaving_eq]
    simp [havings, held, bare, addGroups]

theorem apply_eq (c : RequestCriterion) (q : QueryState) : c.apply q = do
    let q ← c.request.search.elim (.ok q) (c.applySearch · q)
    let q ← c.request.filter.elim (.ok q) (c.applySection · c.decodeFilters q)
    let q ← c.request.compare.foldlM c.applyComparison q
    return applyShape c.request q := by
  unfold apply
  cases c.request.search <;> cases c.request.filter <;> rfl

theorem stages_of_apply (applied : c.apply q = .ok q') :
    ∃ q₁ q₂ q₃, c.request.search.elim (.ok q) (c.applySearch · q) = .ok q₁ ∧
      c.request.filter.elim (.ok q₁) (c.applySection · c.decodeFilters q₁) = .ok q₂ ∧
      c.request.compare.foldlM c.applyComparison q₂ = .ok q₃ ∧ applyShape c.request q₃ = q' := by
  rw [apply_eq] at applied
  obtain ⟨q₁, searched, applied⟩ := bind_eq_ok.1 applied
  obtain ⟨q₂, filtered, applied⟩ := bind_eq_ok.1 applied
  obtain ⟨q₃, compared, shaped⟩ := bind_eq_ok.1 applied
  exact ⟨q₁, q₂, q₃, searched, filtered, compared, Except.ok.inj shaped⟩

/-- A condition that is compared for equality has a value to equal. -/
theorem value_of_operatorFor_eq {condition : Condition} {default : Operator} (single : default.IsDefault)
    (readable : condition.Readable default part.join) (equal : c.operatorFor condition part = .eq) :
    condition.values ≠ [] := by
  intro none
  -- An operator without values is another one.
  have count := readable.values.count
  rw [none, List.length_nil] at count
  unfold operatorFor at equal
  cases explicit : condition.explicit with
  | true =>
    simp only [explicit, if_true] at equal
    rw [equal] at count
    cases count
  | false =>
    rw [(readable.implicit explicit).1] at count
    rcases single with rfl | rfl <;> cases count

theorem exists_pinned {default : Operator} (single : default.IsDefault)
    (readable : ∀ condition ∈ part.conditions, condition.Readable default part.join) :
    ∃ values, c.pinned part = .ok values := by
  unfold pinned
  refine (exists_mapM_eq_ok (P := fun _ => True) fun condition member => ?_).imp fun values run => run.1
  obtain ⟨member, equal⟩ := List.mem_filter.1 member
  have some := value_of_operatorFor_eq single (readable condition member) (by simpa using equal)
  obtain ⟨value, rest, values⟩ := List.exists_cons_of_ne_nil some
  exact ⟨(condition.field, .str value), by rw [values], trivial⟩

/-- What reading a request makes sure of is enough for its tags. -/
theorem exists_equalities {enhanced : Bool} (readable : c.request.Readable enhanced) :
    ∃ values, c.equalities = .ok values := by
  have each : ∀ part ∈ [c.request.filter, c.request.search].filterMap id,
      ∃ values, c.pinned part = .ok values ∧ True := by
    intro part member
    have held : c.request.filter = some part ∨ c.request.search = some part := by
      simpa [eq_comm] using member
    -- A search by a term has no conditions, so it pins nothing.
    rcases held with held | held
    · obtain ⟨values, run⟩ := exists_pinned (c := c) (.inr rfl) (readable.filter part held).body.conditions
      exact ⟨values, run, trivial⟩
    · rcases (readable.search part held).body with conditional | ⟨term, spread⟩
      · obtain ⟨values, run⟩ := exists_pinned (c := c) (.inl rfl) conditional.conditions
        exact ⟨values, run, trivial⟩
      · exact ⟨[], by rw [pinned, spread.bare]; rfl, trivial⟩
  obtain ⟨values, run, -⟩ := exists_mapM_eq_ok each
  exact ⟨values.flatten, by rw [equalities, run]; rfl⟩

end RequestCriterion

/-! ## Criteria -/

namespace Criterion

variable {c : Criterion} {q q' : QueryState}

/-- A condition with values that keys tell apart, a comparison of fields, an order, or a request
without relations. -/
def IsPlain : Criterion → Prop
  | .field _ op values => op.accepts values.length = true ∧ ∀ v ∈ values, v.isPlain = true
  | .column _ _ _ | .orderBy _ _ => True
  | .request r => r.request.includes = none ∧ ∃ enhanced, r.request.Readable enhanced
  | _ => False

theorem exists_equalities (plain : c.IsPlain) : ∃ values, c.equalities = .ok values := by
  cases c with
  | field name op values =>
    cases op with
    | eq =>
      -- Equality takes one value.
      obtain ⟨v, rfl⟩ : ∃ v, values = [v] := List.length_eq_one_iff.1 (by
        simpa [Operator.accepts, Operator.isNullary, Operator.isRange, Operator.isMultiValue] using plain.1)
      exact ⟨[(name, v)], rfl⟩
    | _ => exact ⟨[], rfl⟩
  | column | orderBy => exact ⟨[], rfl⟩
  | request r =>
    obtain ⟨-, enhanced, readable⟩ := plain
    exact RequestCriterion.exists_equalities readable
  | relation | relationCount | scope => cases plain

end Criterion

end QueryCache
