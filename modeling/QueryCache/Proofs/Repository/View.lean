import QueryCache.Proofs.Criteria.ReadSet
import QueryCache.Proofs.Entity.Report
import QueryCache.Repository.Session

/-! Views of one repository, and what they read past the cache. -/

set_option autoImplicit false

namespace QueryCache

open Outcome

namespace Repository

variable {root r : Repository} {c d : Criterion} {q : QueryState}

/-- A criterion that views of a repository are built with: plain, a request read by the repository
itself. -/
def Offers (root : Repository) (c : Criterion) : Prop :=
  match c with
  | .request request =>
    request.request.includes = none ∧ ∃ params, root.requestCriterion params = .ok request
  | c => c.IsPlain

theorem readable_of_requestCriterion {params : Record} {request : RequestCriterion}
    (made : root.requestCriterion params = .ok request) :
    request.request.Readable root.settings.enhancedSearch ∧
      request = { request with
        policy := root.settings.decodePolicy
        decodeSearch := root.settings.decodeSearch
        decodeFilters := root.settings.decodeFilters
        searchable := root.searchable
        transcoder := root.transcoder
        entity := some root.entity } := by
  obtain ⟨parsed, read, same⟩ := bind_eq_ok.1 made
  cases same
  refine ⟨?_, rfl⟩
  cases outcome : Request.parse params root.settings.params root.settings.enhancedSearch with
  | error e =>
    rw [outcome] at read
    cases read
  | ok request =>
    rw [outcome] at read
    cases read
    exact Request.readable_of_parse outcome

theorem Offers.isPlain (offered : root.Offers c) : c.IsPlain := by
  cases c with
  | request request =>
    obtain ⟨bare, params, made⟩ := offered
    exact ⟨bare, _, (readable_of_requestCriterion made).1⟩
  | field | column | orderBy | relation | relationCount | scope => exact offered

/-- A criterion that keys can be made of: its values are legible, a request is read by the repository
itself. -/
def Admits (root : Repository) : Criterion → Prop
  | .field _ op values => op.accepts values.length = true ∧ Value.areLegible values = true
  | .column _ _ _ | .orderBy _ _ => True
  | .request request => ∃ params, root.requestCriterion params = .ok request
  | _ => False

theorem Offers.admits (offered : root.Offers c) : root.Admits c := by
  cases c with
  | field name op values => exact ⟨offered.1, Value.areLegible_of_isPlain offered.2⟩
  | column | orderBy => trivial
  | request request => exact offered.2
  | relation | relationCount | scope => cases offered

theorem Admits.legible (admits : root.Admits c) : c.identity.IsLegible := by
  cases c with
  | field name op values => exact admits.2
  | column | orderBy | request => trivial
  | relation | relationCount | scope => cases admits

/-- Of what a repository admits the identity tells everything. -/
theorem Admits.eq_of_identity (admits : root.Admits c) (admits' : root.Admits d)
    (same : c.identity = d.identity) : c = d := by
  cases c with
  | field | column | orderBy => cases d <;> simp_all [Criterion.identity]
  | request request =>
    cases d with
    | request request' =>
      obtain ⟨params, made⟩ := admits
      obtain ⟨params', made'⟩ := admits'
      rw [(readable_of_requestCriterion made).2, (readable_of_requestCriterion made').2]
      simp only [Criterion.identity, Identity.request.injEq] at same
      rw [same.1]
    | field | column | orderBy | relation | relationCount | scope => simp [Criterion.identity] at same
  | relation | relationCount | scope => cases admits

/-- Views of a repository differ from it in their criteria, and in whether they use the cache. -/
structure IsView (root r : Repository) : Prop where
  same : r = { root with pipeline := r.pipeline, skipCache := r.skipCache }
  criteria : ∀ c ∈ r.pipeline.criteria, root.Offers c

theorem IsView.entity (view : root.IsView r) : r.entity = root.entity := by
  rw [view.same]

theorem IsView.settings (view : root.IsView r) : r.settings = root.settings := by
  rw [view.same]

theorem IsView.cached (view : root.IsView r) : r.cached = root.cached := by
  rw [view.same]

theorem IsView.active (view : root.IsView r) : ∀ c ∈ r.pipeline.active, root.Offers c := by
  intro c member
  unfold Pipeline.active at member
  split at member
  · cases member
  · exact view.criteria c member

theorem IsView.pushed (view : root.IsView r) {criteria : List Criterion}
    (offered : ∀ c ∈ criteria, root.Offers c) : root.IsView (r.pushed criteria) := by
  refine ⟨by rw [view.same]; rfl, fun c member => ?_⟩
  rcases List.mem_append.1 member with member | member
  · exact view.criteria c member
  · exact offered c member

theorem IsView.skippingCache (view : root.IsView r) (skip : Bool) : root.IsView (r.skippingCache skip) :=
  ⟨by rw [view.same]; rfl, view.criteria⟩

/-- Requests without relations lead from views to views. -/
theorem IsView.withRequest (view : root.IsView r) {params : Record} {request : RequestCriterion}
    {r' : Repository} (made : root.requestCriterion params = .ok request)
    (bare : request.request.includes = none) (built : r.withRequest params = .ok r') : root.IsView r' := by
  have own : r.requestCriterion params = .ok request := by
    rw [view.same]
    exact made
  obtain ⟨request', made', built⟩ := bind_eq_ok.1 built
  cases own.symm.trans made'
  have pushed : root.IsView (r.pushed [.request request]) := by
    apply view.pushed
    intro c member
    rw [List.mem_singleton.1 member]
    exact ⟨bare, params, made⟩
  cases built
  split
  · exact pushed.skippingCache true
  · exact pushed

/-! ## Reads past the cache -/

/-- What a read gives past the cache. -/
def answer (r : Repository) (x : Retrieval) (entities : EntityStore) : Except Failure Value := do
  x.report.result (← r.query x.constraints) entities

/-- Reading past the cache changes nothing but the number of queries that have been run. -/
theorem compute_eq {σ : Type} (r : Repository) (x : Retrieval) (b : Backing σ) :
    ∃ n, r.compute x b = (r.answer x b.entities, { b with entities := { b.entities with executions := n } }) := by
  unfold compute answer
  cases r.query x.constraints with
  | error e => exact ⟨b.entities.executions, rfl⟩
  | ok q =>
    obtain ⟨n, run⟩ := Report.run_answer x.report q b.entities
    refine ⟨n, ?_⟩
    change (((x.report.answer q).run b.entities).1,
      { b with entities := ((x.report.answer q).run b.entities).2 }) = _
    rw [run]
    rfl

/-- Beside the same entities the same is read. -/
theorem compute_of_entities {σ : Type} (r : Repository) (x : Retrieval) {entities : EntityStore} (b : Backing σ)
    (same : b.entities = entities) :
    ∃ n, r.compute x b = (r.answer x entities, { b with entities := { b.entities with executions := n } }) := by
  subst same
  exact r.compute_eq x b

/-- A read that does not use the cache gives what there is. -/
theorem read_past {σ : Type} (cache : CacheStore σ) (x : Retrieval) (s : Session σ)
    (past : r.allowsCaching x.method = false) : ∃ n, r.read cache x s = (r.answer x s.host.entities,
      { s with host.entities := { s.host.entities with executions := n } }) := by
  obtain ⟨n, run⟩ := r.compute_eq x s.host
  refine ⟨n, ?_⟩
  unfold Repository.read
  rw [past, if_neg Bool.false_ne_true]
  change ((r.compute x s.host).1, ({ s with host := (r.compute x s.host).2 } : Session σ)) = _
  rw [run]

/-- Past the cache a read gives what there is. -/
theorem read_skipping {σ : Type} (cache : CacheStore σ) (r : Repository) (x : Retrieval) (s : Session σ) :
    ((r.skippingCache true).read cache x s).1 = r.answer x s.host.entities := by
  have past : (r.skippingCache true).allowsCaching x.method = false := by
    simp [Repository.allowsCaching, Repository.skippingCache]
  obtain ⟨n, run⟩ := read_past cache x s past
  rw [run]
  rfl

/-- The number of queries that have been run is not what is read. -/
theorem answer_executions (r : Repository) (x : Retrieval) (entities : EntityStore) (n : Nat) :
    r.answer x { entities with executions := n } = r.answer x entities := by
  unfold answer
  cases r.query x.constraints with
  | error e => rfl
  | ok q =>
    change x.report.result q _ = x.report.result q _
    unfold Report.result
    cases x.report with
    | rows => rw [Report.run_rows, Report.run_rows]; rfl
    | firstRow => rw [Report.run_firstRow, Report.run_firstRow]; rfl
    | rowCount => rw [Report.run_rowCount, Report.run_rowCount]; rfl
    | page size number =>
      rw [Report.run_page, Report.run_page]
      have counted : EntityStore.count { entities with executions := n } q = entities.count q := rfl
      rw [counted]
      cases entities.count q with
      | error e => rfl
      | ok total =>
        dsimp only
        cases Pagination.completed ⟨number, size, some (total : Int), none⟩ with
        | error e => rfl
        | ok info => rfl

/-- The criteria of a read: those of the view and its own. -/
def criteriaOf (r : Repository) (x : Retrieval) : List Criterion :=
  r.pipeline.active ++ x.constraints

theorem query_eq (r : Repository) (constraints : List Criterion) :
    r.query constraints = (r.pipeline.active ++ constraints).foldlM (fun q c => c.apply q) {} := by
  rw [List.foldlM_append]
  rfl

end Repository

end QueryCache
