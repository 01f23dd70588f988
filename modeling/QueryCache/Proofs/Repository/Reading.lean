import QueryCache.Proofs.Key.Identity
import QueryCache.Proofs.Repository.View
import Mathlib.Data.Set.Function

/-! The reads of a repository, and what their keys tell of them. Reads of one key ask the same
questions of the same entities, as far as the texts that were hashed can be told by their hashes. -/

set_option autoImplicit false

namespace QueryCache

open Outcome

/-- A read and its arguments. -/
inductive Reading where
  | all
  | first
  | count
  | find (id : Value)
  | findByField (field : String) (value : Value)
  | findWhere (conditions : Value) (more : Record)
  | findWhereIn (field : String) (values : Value)
  | findWhereNotIn (field : String) (values : Value)
  | findWhereBetween (field : String) (low high : Value)
  | byCriterion (criterion : Criterion)
  | paginate (limit : Option Int) (page : Int)

namespace Reading

variable {σ : Type}

def run (cache : CacheStore σ) (r : Repository) : Reading → Attempt (Session σ) Value
  | .all => r.read cache .all
  | .first => r.read cache .first
  | .count => r.read cache .count
  | .find id => r.find cache id
  | .findByField field value => r.read cache (.findByField field value)
  | .findWhere conditions more => r.findWhere cache conditions more
  | .findWhereIn field values => r.findWhereIn cache field values
  | .findWhereNotIn field values => r.findWhereNotIn cache field values
  | .findWhereBetween field low high => r.read cache (.findWhereBetween field low high)
  | .byCriterion criterion => r.read cache (.byCriterion criterion)
  | .paginate limit page => r.paginate cache limit page

/-- What is to be read, or the outcome of a read that is settled without. -/
def retrieval (settings : RepositorySettings) : Reading → Except (Except Failure Value) Retrieval
  | .all => .ok .all
  | .first => .ok .first
  | .count => .ok .count
  | .find id => .ok (.find id)
  | .findByField field value => .ok (.findByField field value)
  | .findWhere conditions more =>
    match conditions with
    | .dict entries => (Retrieval.findWhere (Record.setAll entries more)).mapError .error
    | other =>
      if other.isPresent then .error (.error (.wrongType other.typeName))
      else (Retrieval.findWhere more).mapError .error
  | .findWhereIn field values =>
    if !values.isPresent then .error (.ok (.list []))
    else
      match values.parts? with
      | some parts => (Retrieval.findWhereIn field parts).mapError .error
      | none => .error (.error (.wrongType values.typeName))
  | .findWhereNotIn field values =>
    match values.parts? with
    | some parts => (Retrieval.findWhereNotIn field parts).mapError .error
    | none => .error (.error (.wrongType values.typeName))
  | .findWhereBetween field low high => .ok (.findWhereBetween field low high)
  | .byCriterion criterion => .ok (.byCriterion criterion)
  | .paginate limit page => .ok (.paginate settings limit page)

theorem readIf_eq (cache : CacheStore σ) (r : Repository) (x : Except Failure Retrieval) (s : Session σ) :
    r.readIf cache x s = match x.mapError Except.error with
      | .error outcome => (outcome, s)
      | .ok x => r.read cache x s := by
  unfold Repository.readIf
  rw [Attempt.bind_eq]
  cases x <;> rfl

/-- A read is settled at once, or reads what there is to be read. -/
theorem run_eq (cache : CacheStore σ) (r : Repository) (reading : Reading) (s : Session σ) :
    reading.run cache r s = match reading.retrieval r.settings with
      | .error outcome => (outcome, s)
      | .ok x => r.read cache x s := by
  cases reading with
  | findWhere conditions more =>
    -- What is no mapping of conditions is refused if it is anything, and else left out.
    have other (absent : ∀ entries, conditions ≠ .dict entries) :
        (if conditions.isPresent then Repository.ofExcept (.error (.wrongType conditions.typeName))
          else r.readIf cache (Retrieval.findWhere more)) s =
        match (if conditions.isPresent then .error (.error (.wrongType conditions.typeName))
          else (Retrieval.findWhere more).mapError .error) with
        | .error outcome => (outcome, s)
        | .ok x => r.read cache x s := by
      cases conditions.isPresent with
      | true => rfl
      | false => exact readIf_eq cache r _ s
    cases conditions with
    | dict entries => exact readIf_eq cache r _ s
    | _ => exact other nofun
  | findWhereIn field values =>
    simp only [run, Repository.findWhereIn, retrieval]
    cases values.isPresent with
    | false => rfl
    | true =>
      cases values.parts? with
      | none => rfl
      | some parts => exact readIf_eq cache r _ s
  | findWhereNotIn field values =>
    simp only [run, Repository.findWhereNotIn, retrieval]
    cases values.parts? with
    | none => rfl
    | some parts => exact readIf_eq cache r _ s
  | _ => rfl

/-- A read of which every criterion is one that the repository offers. -/
def IsPlain (root : Repository) (reading : Reading) : Prop :=
  ∀ x, reading.retrieval root.settings = .ok x → ∀ c ∈ x.constraints, root.Offers c

end Reading

/-! ## What the arguments tell -/

/-- The condition of each field, in the order of the fields. -/
def Retrieval.sortedConditions (conditions : Record) (constraints : List Criterion) : List Criterion :=
  ((conditions.zip constraints).mergeSort fun a b => a.1.1 ≤ b.1.1).map (·.2)

/-- The forms of what is read. -/
inductive Retrieval.Form : Retrieval → Prop where
  | all : Form .all
  | first : Form .first
  | count : Form .count
  | find (id : Value) : Form (.find id)
  | findByField (field : String) (value : Value) : Form (.findByField field value)
  | findWhere {conditions : Record} {constraints : List Criterion} :
    Criterion.ofConditions conditions = .ok constraints →
    Form ⟨"find_where",
      [.value (.list ((sortedConditions conditions constraints).map Criterion.describe))],
      constraints, .rows⟩
  | findWhereIn (field : String) (values : List Value) :
    Form ⟨"find_where_in", [.value (.str field), .value (.list values)],
      [.field field .isIn values], .rows⟩
  | findWhereNotIn (field : String) (values : List Value) :
    Form ⟨"find_where_not_in", [.value (.str field), .value (.list values)],
      [.field field .notIn values], .rows⟩
  | findWhereBetween (field : String) (low high : Value) : Form (.findWhereBetween field low high)
  | byCriterion (c : Criterion) : Form (.byCriterion c)
  | paginate (size number : Int) :
    Form ⟨"paginate", [.value (.int size), .value (.int number)], [], .page size number⟩

theorem Criterion.where?_eq_ok {field : String} {op : Operator} {values : List Value} {c : Criterion}
    (made : Criterion.where? field op values = .ok c) : c = .field field op values := by
  unfold Criterion.where? at made
  split at made
  · exact (Except.ok.inj made).symm
  · cases made

/-- A condition on a field becomes a criterion on it. -/
theorem Criterion.ofCondition_eq_ok {condition : String × Value} {c : Criterion}
    (made : Criterion.ofCondition condition = .ok c) : ∃ op values, c = .field condition.1 op values := by
  unfold Criterion.ofCondition at made
  split at made
  · obtain ⟨op, -, made⟩ := bind_eq_ok.1 made
    split at made
    · exact ⟨_, _, where?_eq_ok made⟩
    · split at made
      · split at made
        · exact ⟨_, _, where?_eq_ok made⟩
        · cases made
      · exact ⟨_, _, where?_eq_ok made⟩
  · exact ⟨_, _, where?_eq_ok made⟩

namespace Retrieval

variable {root : Repository} {x y : Retrieval}

theorem form_of_findWhere {conditions : Record} (made : findWhere conditions = .ok x) : x.Form := by
  obtain ⟨constraints, read, same⟩ := bind_eq_ok.1 made
  cases same
  have form := Form.findWhere read
  simp only [sortedConditions, List.map_map] at form
  exact form

theorem form_of_findWhereIn {field : String} {values : List Value}
    (made : findWhereIn field values = .ok x) : x.Form := by
  obtain ⟨c, read, same⟩ := bind_eq_ok.1 made
  cases same
  rw [Criterion.where?_eq_ok read]
  exact .findWhereIn field values

theorem form_of_findWhereNotIn {field : String} {values : List Value}
    (made : findWhereNotIn field values = .ok x) : x.Form := by
  obtain ⟨c, read, same⟩ := bind_eq_ok.1 made
  cases same
  rw [Criterion.where?_eq_ok read]
  exact .findWhereNotIn field values

theorem form_of_reading {settings : RepositorySettings} {reading : Reading}
    (made : reading.retrieval settings = .ok x) : x.Form := by
  cases reading with
  | findWhere conditions more =>
    simp only [Reading.retrieval] at made
    split at made
    · exact form_of_findWhere (mapError_eq_ok.1 made)
    · split at made
      · cases made
      · exact form_of_findWhere (mapError_eq_ok.1 made)
  | findWhereIn field values =>
    simp only [Reading.retrieval] at made
    split at made
    · cases made
    · split at made
      · exact form_of_findWhereIn (mapError_eq_ok.1 made)
      · cases made
  | findWhereNotIn field values =>
    simp only [Reading.retrieval] at made
    split at made
    · exact form_of_findWhereNotIn (mapError_eq_ok.1 made)
    · cases made
  | all => cases made; exact .all
  | first => cases made; exact .first
  | count => cases made; exact .count
  | find id => cases made; exact .find id
  | findByField field value => cases made; exact .findByField field value
  | findWhereBetween field low high => cases made; exact .findWhereBetween field low high
  | byCriterion c => cases made; exact .byCriterion c
  | paginate limit page => cases made; exact .paginate _ _

end Retrieval

namespace Argument

/-- An argument that a key can be derived from. -/
def Writes (a : Argument) : Prop := ∃ tree, a.json = .ok tree ∧ tree.isFinite = true

theorem writes_value {v : Value} (legible : v.isLegible = true) : (Argument.value v).Writes :=
  Value.exists_canonical legible

end Argument

/-- The canonical form of a condition is that of its parameters. -/
theorem Criterion.canonical_describe (name : String) (op : Operator) (values : List Value) :
    (Criterion.field name op values).describe.canonical =
      ((Identity.field name op values).params).map JsonTree.array := by
  simp only [describe, Value.canonical, Value.canonicals, Identity.params, Operator.json]
  cases Value.canonicals values <;> rfl

end QueryCache
