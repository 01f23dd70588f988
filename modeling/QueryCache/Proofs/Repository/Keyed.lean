import QueryCache.Proofs.Repository.Reading

/-! What the key of a read tells. Reads of one key have the same name, report and criteria, up to the
order of conditions that hold or fail whatever comes before them, so they have the same answer, as
long as none of their values stands for another in JSON. -/

set_option autoImplicit false

namespace QueryCache

open Outcome

variable {root : Repository}

namespace Criterion

/-- A condition on one field. -/
def IsCondition (c : Criterion) : Prop := ∃ name op values, c = .field name op values

theorem isCondition_of_ofConditions {conditions : Record} {constraints : List Criterion}
    (made : ofConditions conditions = .ok constraints) : ∀ c ∈ constraints, c.IsCondition :=
  forall_of_mapM_eq_ok made fun condition _ _ made => ⟨condition.1, ofCondition_eq_ok made⟩

/-- Two conditions that put one question to a field put it with values of one type. -/
def Alike (c d : Criterion) : Prop := c.identity.Alike d.identity

theorem legible_describes {criteria : List Criterion} (conditions : ∀ c ∈ criteria, c.IsCondition)
    (admits : ∀ c ∈ criteria, root.Admits c) : Value.areLegible (criteria.map describe) = true := by
  induction criteria with
  | nil => rfl
  | cons c rest ih =>
    obtain ⟨name, op, values, rfl⟩ := conditions c List.mem_cons_self
    have legible : Value.areLegible values = true := (admits _ List.mem_cons_self).2
    have others := ih (fun d member => conditions d (List.mem_cons_of_mem _ member))
      fun d member => admits d (List.mem_cons_of_mem _ member)
    rw [List.map_cons, Value.areLegible, others, describe, Value.isLegible]
    simp [Value.areLegible, Value.isLegible, legible]

theorem describe_inj {c d : Criterion} (condition : c.IsCondition) (condition' : d.IsCondition)
    (admits : root.Admits c) (admits' : root.Admits d) (alike : c.Alike d)
    (same : c.describe.canonical = d.describe.canonical) : c = d := by
  obtain ⟨name, op, values, rfl⟩ := condition
  obtain ⟨name', op', values', rfl⟩ := condition'
  have legible := admits.legible
  have legible' := admits'.legible
  obtain ⟨params, written, -⟩ := Identity.exists_params legible
  obtain ⟨params', written', -⟩ := Identity.exists_params legible'
  simp only [identity] at written written'
  rw [canonical_describe, canonical_describe, written, written'] at same
  cases same
  exact admits.eq_of_identity admits' (Identity.params_inj legible legible' alike rfl written written')

theorem describes_inj {criteria criteria' : List Criterion}
    (conditions : ∀ c ∈ criteria, c.IsCondition) (conditions' : ∀ c ∈ criteria', c.IsCondition)
    (admits : ∀ c ∈ criteria, root.Admits c) (admits' : ∀ c ∈ criteria', root.Admits c)
    (alike : ∀ c ∈ criteria, ∀ d ∈ criteria', c.Alike d)
    (same : (Value.list (criteria.map describe)).canonical = (Value.list (criteria'.map describe)).canonical) :
    criteria = criteria' := by
  obtain ⟨trees, written, -⟩ := Value.exists_canonicals (legible_describes conditions admits)
  obtain ⟨trees', written', -⟩ := Value.exists_canonicals (legible_describes conditions' admits')
  rw [Value.canonical, Value.canonical, written, written'] at same
  cases same
  rw [Value.canonicals_eq_mapM, List.mapM_map] at written written'
  apply eq_of_mapM_eq_ok _ written written'
  intro c member d member' tree left right
  exact describe_inj (conditions c member) (conditions' d member') (admits c member) (admits' d member')
    (alike c member d member') (left.trans right.symm)

end Criterion

namespace Retrieval

variable {x y : Retrieval}

theorem perm_sortedConditions {conditions : Record} {constraints : List Criterion}
    (made : Criterion.ofConditions conditions = .ok constraints) :
    (sortedConditions conditions constraints).Perm constraints := by
  have lengths : conditions.length = constraints.length := (mapM_eq_ok.1 made).length_eq
  have sorted := (List.mergeSort_perm (conditions.zip constraints) fun a b => a.1.1 ≤ b.1.1).map
    (fun entry : (String × Value) × Criterion => entry.2)
  rw [List.map_snd_zip lengths.ge] at sorted
  exact sorted

theorem legible_of_areLegible {values : List Value} {v : Value} (legible : Value.areLegible values = true)
    (member : v ∈ values) : v.isLegible = true := by
  induction values with
  | nil => cases member
  | cons w rest ih =>
    rw [Value.areLegible, Bool.and_eq_true] at legible
    rcases List.mem_cons.1 member with rfl | member
    · exact legible.1
    · exact ih legible.2 member

theorem writes_name (name : String) : (Argument.value (.str name)).Writes :=
  Argument.writes_value rfl

theorem Form.writes (form : x.Form) (admits : ∀ c ∈ x.constraints, root.Admits c) :
    List.Forall Argument.Writes x.args := by
  cases form with
  | all | first | count => trivial
  | find id =>
    have legible := (admits (.field "id" .eq [id]) (List.mem_singleton.2 rfl)).2
    exact Argument.writes_value (legible_of_areLegible legible (by simp))
  | findByField name v =>
    have legible := (admits (.field name .eq [v]) (List.mem_singleton.2 rfl)).2
    exact ⟨writes_name name, Argument.writes_value (legible_of_areLegible legible (by simp))⟩
  | @findWhere conditions constraints made =>
    have perm := perm_sortedConditions made
    apply Argument.writes_value
    apply Criterion.legible_describes
    · exact fun c member => Criterion.isCondition_of_ofConditions made c (perm.mem_iff.1 member)
    · exact fun c member => admits c (perm.mem_iff.1 member)
  | findWhereIn name values =>
    have legible := (admits (.field name .isIn values) (List.mem_singleton.2 rfl)).2
    exact ⟨writes_name name, Argument.writes_value legible⟩
  | findWhereNotIn name values =>
    have legible := (admits (.field name .notIn values) (List.mem_singleton.2 rfl)).2
    exact ⟨writes_name name, Argument.writes_value legible⟩
  | findWhereBetween name low high =>
    have legible := (admits (.field name .between [low, high]) (List.mem_singleton.2 rfl)).2
    exact ⟨writes_name name, Argument.writes_value (legible_of_areLegible legible (by simp)),
      Argument.writes_value (legible_of_areLegible legible (by simp))⟩
  | byCriterion c =>
    exact Identity.exists_json (admits c (List.mem_singleton.2 rfl)).legible
  | paginate size number => exact ⟨Argument.writes_value rfl, Argument.writes_value rfl⟩

/-- The values of a single condition can be told by their JSON. -/
theorem values_inj {name : String} {op : Operator} {values values' : List Value}
    (admits : ∀ c ∈ [Criterion.field name op values], root.Admits c)
    (admits' : ∀ c ∈ [Criterion.field name op values'], root.Admits c)
    (alike : ∀ c ∈ [Criterion.field name op values], ∀ d ∈ [Criterion.field name op values'], c.Alike d)
    (same : (Value.list values).canonical = (Value.list values').canonical) : values = values' := by
  have legible : (Value.list values).isLegible = true := (admits _ (List.mem_singleton.2 rfl)).2
  have legible' : (Value.list values').isLegible = true := (admits' _ (List.mem_singleton.2 rfl)).2
  have both : (Value.list values).alike (.list values') = true :=
    alike _ (List.mem_singleton.2 rfl) _ (List.mem_singleton.2 rfl) rfl rfl
  exact Value.list.inj (Value.canonical_inj legible legible' both same)

/-- Criteria that ask the same, conditions in whatever order. -/
def SameCriteria (cs ds : List Criterion) : Prop :=
  cs = ds ∨ cs.Perm ds ∧ ∀ c ∈ cs, c.IsCondition

/-- Reads of one name with equal arguments ask the same. -/
theorem Form.same (form : x.Form) (form' : y.Form) (admits : ∀ c ∈ x.constraints, root.Admits c)
    (admits' : ∀ c ∈ y.constraints, root.Admits c)
    (alike : ∀ c ∈ x.constraints, ∀ d ∈ y.constraints, c.Alike d) (names : x.method = y.method)
    (args : List.Forall₂ (fun a b => Argument.json a = Argument.json b) x.args y.args) :
    x.report = y.report ∧ SameCriteria x.constraints y.constraints := by
  have text {name name' : String} (same : (Argument.value (.str name)).json = (Argument.value (.str name')).json) :
      name = name' := by
    simpa [Argument.json, Value.canonical] using same
  -- Two forms have two names, so of all pairs those of one form are left.
  cases form <;> cases form' <;> simp [Retrieval.all, Retrieval.first, Retrieval.count, Retrieval.find,
    Retrieval.findByField, Retrieval.findWhereBetween, Retrieval.byCriterion] at names
  case all.all => exact ⟨rfl, .inl rfl⟩
  case first.first => exact ⟨rfl, .inl rfl⟩
  case count.count => exact ⟨rfl, .inl rfl⟩
  case find.find id id' =>
    have same : id.canonical = id'.canonical := (List.forall₂_cons.1 args).1
    cases values_inj admits admits' alike (by simp only [Value.canonical, Value.canonicals, same])
    exact ⟨rfl, .inl rfl⟩
  case findByField.findByField name v name' v' =>
    obtain ⟨fields, rest⟩ := List.forall₂_cons.1 args
    have same : v.canonical = v'.canonical := (List.forall₂_cons.1 rest).1
    cases text fields
    cases values_inj admits admits' alike (by simp only [Value.canonical, Value.canonicals, same])
    exact ⟨rfl, .inl rfl⟩
  case findWhere.findWhere conditions constraints made conditions' constraints' made' =>
    have perm := perm_sortedConditions made
    have perm' := perm_sortedConditions made'
    have all := Criterion.isCondition_of_ofConditions made
    have all' := Criterion.isCondition_of_ofConditions made'
    -- The arguments tell the conditions in the order of their fields, the criteria are in theirs.
    have sorted : sortedConditions conditions constraints = sortedConditions conditions' constraints' := by
      apply @Criterion.describes_inj root
      · exact fun c member => all c (perm.mem_iff.1 member)
      · exact fun c member => all' c (perm'.mem_iff.1 member)
      · exact fun c member => admits c (perm.mem_iff.1 member)
      · exact fun c member => admits' c (perm'.mem_iff.1 member)
      · exact fun c member d member' => alike c (perm.mem_iff.1 member) d (perm'.mem_iff.1 member')
      · exact (List.forall₂_cons.1 args).1
    refine ⟨rfl, .inr ⟨?_, all⟩⟩
    exact perm.symm.trans (sorted ▸ perm')
  case findWhereIn.findWhereIn name values name' values' =>
    obtain ⟨fields, rest⟩ := List.forall₂_cons.1 args
    cases text fields
    cases values_inj admits admits' alike (List.forall₂_cons.1 rest).1
    exact ⟨rfl, .inl rfl⟩
  case findWhereNotIn.findWhereNotIn name values name' values' =>
    obtain ⟨fields, rest⟩ := List.forall₂_cons.1 args
    cases text fields
    cases values_inj admits admits' alike (List.forall₂_cons.1 rest).1
    exact ⟨rfl, .inl rfl⟩
  case findWhereBetween.findWhereBetween name low high name' low' high' =>
    obtain ⟨fields, rest⟩ := List.forall₂_cons.1 args
    obtain ⟨lows, rest⟩ := List.forall₂_cons.1 rest
    have lows : low.canonical = low'.canonical := lows
    have highs : high.canonical = high'.canonical := (List.forall₂_cons.1 rest).1
    cases text fields
    cases values_inj admits admits' alike (by simp only [Value.canonical, Value.canonicals, lows, highs])
    exact ⟨rfl, .inl rfl⟩
  case byCriterion.byCriterion c d =>
    have own := admits c (List.mem_singleton.2 rfl)
    have own' := admits' d (List.mem_singleton.2 rfl)
    obtain ⟨tree, written, -⟩ := Identity.exists_json own.legible
    have same : c.identity.json = d.identity.json := (List.forall₂_cons.1 args).1
    have both : c.Alike d := alike c (List.mem_singleton.2 rfl) d (List.mem_singleton.2 rfl)
    cases own.eq_of_identity own' (Identity.json_inj own.legible own'.legible both written (same ▸ written))
    exact ⟨rfl, .inl rfl⟩
  case paginate.paginate size number size' number' =>
    obtain ⟨sizes, rest⟩ := List.forall₂_cons.1 args
    have numbers : (Argument.value (.int number)).json = (Argument.value (.int number')).json :=
      (List.forall₂_cons.1 rest).1
    simp only [Argument.json, Value.canonical, Except.ok.injEq, JsonTree.int.injEq] at sizes numbers
    cases sizes
    cases numbers
    exact ⟨rfl, .inl rfl⟩

end Retrieval

/-! ## Reads that ask the same -/

/-- The predicate of a condition. -/
def Criterion.predicate : Criterion → Predicate
  | .field name op values => .field name op values
  | _ => .never

theorem Criterion.foldlM_conditions {conditions : List Criterion}
    (all : ∀ c ∈ conditions, c.IsCondition) (q : QueryState) :
    conditions.foldlM (fun q c => Criterion.apply c q) q =
      .ok { q with wheres := q.wheres ++ conditions.map predicate } := by
  induction conditions generalizing q with
  | nil => simp [pure, Except.pure]
  | cons c rest ih =>
    obtain ⟨name, op, values, rfl⟩ := all c (by simp)
    rw [List.foldlM_cons]
    refine (ih (fun c member => all c (by simp [member])) (q.addField name op values)).trans ?_
    simp [QueryState.addField, QueryState.addPredicate, predicate]

/-- Conditions hold alike in any order. -/
theorem Criterion.allHold_conditions {conditions conditions' : List Criterion}
    (all : ∀ c ∈ conditions, c.IsCondition) (admits : ∀ c ∈ conditions, root.Admits c)
    (perm : conditions.Perm conditions') (wheres : List Predicate) (record : Value) :
    Predicate.allHold record (wheres ++ conditions.map predicate) =
      Predicate.allHold record (wheres ++ conditions'.map predicate) := by
  have total : ∀ p ∈ conditions.map predicate, p.IsTotal := by
    intro p member
    obtain ⟨c, held, rfl⟩ := List.mem_map.1 member
    obtain ⟨name, op, values, rfl⟩ := all c held
    exact Predicate.isTotal_field (admits _ held).1 name
  rw [Predicate.allHold_append, Predicate.allHold_append,
    Predicate.allHold_perm total (perm.map predicate)]

namespace Repository

variable {r r' : Repository} {x y : Retrieval}

/-- The key of a read. -/
def keyFor (r : Repository) (x : Retrieval) : Except Failure String := do
  r.keyOf x.method (← x.argsText)

/-- A read through the cache is a call under its key and its tags. -/
theorem read_through {σ : Type} {r : Repository} {x : Retrieval} (cache : CacheStore σ) (s : Session σ)
    {key : String} {tags : List String} (allowed : r.allowsCaching x.method = true)
    (tagged : r.tags x.constraints = .ok tags) (keyed : r.keyFor x = .ok key) :
    r.read cache x s = s.read (Backing.store cache)
      ⟨key, tags, some (.whole r.settings.cacheTtl), Tag.ofResult r.entity⟩ (r.compute x) := by
  have tagging : (ofExcept (r.tags x.constraints) : Attempt (Session σ) _) s = (.ok tags, s) :=
    congrArg (·, s) tagged
  have keying : (ofExcept (do r.keyOf x.method (← x.argsText)) : Attempt (Session σ) _) s = (.ok key, s) :=
    congrArg (·, s) keyed
  unfold Repository.read
  rw [allowed, if_pos rfl, Attempt.bind_ok tagging, Attempt.bind_ok keying]

/-- A read that cannot be tagged or has no key leaves all as it is. -/
theorem read_refused {σ : Type} {r : Repository} {x : Retrieval} (cache : CacheStore σ) (s : Session σ)
    (allowed : r.allowsCaching x.method = true)
    (refused : ∃ e, r.tags x.constraints = .error e ∨ r.keyFor x = .error e) : (r.read cache x s).2 = s := by
  unfold Repository.read
  rw [allowed, if_pos rfl]
  cases tagged : r.tags x.constraints with
  | error e =>
    have tagging : (ofExcept (.error e) : Attempt (Session σ) (List String)) s = (.error e, s) := rfl
    rw [Attempt.bind_error tagging]
  | ok tags =>
    obtain ⟨e, untagged | unkeyed⟩ := refused
    · cases tagged.symm.trans untagged
    · have tagging : (ofExcept (.ok tags) : Attempt (Session σ) _) s = (.ok tags, s) := rfl
      have keying : (ofExcept (do r.keyOf x.method (← x.argsText)) : Attempt (Session σ) _) s = (.error e, s) :=
        congrArg (·, s) unkeyed
      rw [Attempt.bind_ok tagging, Attempt.bind_error keying]

/-- The texts that the key of a read is made of the hashes of. -/
def textsOf (r : Repository) (x : Retrieval) : Set String :=
  { text | x.argsText = .ok text ∨ Key.criteriaText r.pipeline.identities = .ok text }

/-- A read under a view of the repository, with criteria that keys can be made of. -/
structure Keyed (root r : Repository) (x : Retrieval) : Prop where
  same : r = { root with pipeline := r.pipeline, skipCache := r.skipCache }
  form : x.Form
  admits : ∀ c ∈ r.criteriaOf x, root.Admits c

namespace Keyed

variable (keyed : root.Keyed r x) (keyed' : root.Keyed r' y)

include keyed

include keyed'

end Keyed

/-! ## Plain values -/

variable (view : root.IsView r) (form : x.Form) (offered : ∀ c ∈ x.constraints, root.Offers c)

include view offered

theorem IsView.offers : ∀ c ∈ r.criteriaOf x, root.Offers c := by
  intro c member
  rcases List.mem_append.1 member with member | member
  · exact view.active c member
  · exact offered c member

include form

theorem IsView.keyed : root.Keyed r x :=
  ⟨view.same, form, fun c member => (view.offers offered c member).admits⟩

end Repository

end QueryCache
