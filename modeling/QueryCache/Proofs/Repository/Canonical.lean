import QueryCache.Proofs.Repository.View

/-! What the texts that criteria are hashed by tell apart.

Two pipelines have one text exactly when their active criteria have the same identities, truth values
and numbers kept apart. Two requests on one view have one text exactly when they were read as the same,
or when the view skips its criteria, so that neither request is in its text. -/

set_option autoImplicit false

namespace QueryCache

open Outcome

namespace Pipeline

variable {p p' : Pipeline}

/-- Criteria without scopes, whose values are null, truth values, integers and texts. -/
def IsPlain (p : Pipeline) : Prop := ∀ c ∈ p.criteria, c.identity.IsPlain

theorem IsPlain.identities (plain : p.IsPlain) : ∀ i ∈ p.identities, i.IsPlain := by
  intro i member
  obtain ⟨c, held, rfl⟩ := List.mem_map.1 member
  unfold active at held
  split at held
  · cases held
  · exact plain c held

theorem IsPlain.pushed (plain : p.IsPlain) {criteria : List Criterion}
    (more : ∀ c ∈ criteria, c.identity.IsPlain) : (p.pushed criteria).IsPlain := by
  intro c member
  rcases List.mem_append.1 member with member | member
  · exact plain c member
  · exact more c member

theorem identities_pushed (p : Pipeline) (criteria : List Criterion) :
    (p.pushed criteria).identities =
      p.identities ++ if p.skip then [] else criteria.map (·.identity) := by
  unfold identities active pushed
  cases p.skip <;> simp

theorem IsPlain.criteriaText_eq_iff (plain : p.IsPlain) (plain' : p'.IsPlain) :
    ∃ text text', Key.criteriaText p.identities = .ok text ∧ Key.criteriaText p'.identities = .ok text' ∧
      (text = text' ↔ p.identities = p'.identities) := by
  have legible {p : Pipeline} (plain : p.IsPlain) : ∀ i ∈ p.identities, i.IsLegible :=
    fun i member => (plain.identities i member).legible
  obtain ⟨text, written⟩ := Key.exists_criteriaText (legible plain)
  obtain ⟨text', written'⟩ := Key.exists_criteriaText (legible plain')
  refine ⟨text, text', written, written', ?_⟩
  constructor
  · rintro rfl
    apply Key.criteriaText_inj (legible plain) (legible plain') _ written written'
    exact fun i member j member' => (plain.identities i member).alike (plain'.identities j member')
  · intro same
    rw [same] at written
    exact Except.ok.inj (written.symm.trans written')

end Pipeline

namespace Repository

variable {root : Repository} {params : Record} {request : Request}

/-- The criterion that a repository makes of a request. -/
def criterionOf (root : Repository) (request : Request) : RequestCriterion :=
  ⟨request, root.settings.decodePolicy, root.settings.decodeSearch, root.settings.decodeFilters,
    root.searchable, root.transcoder, some root.entity⟩

theorem exists_withRequest
    (parsed : Request.parse params root.settings.params root.settings.enhancedSearch = .ok request) :
    ∃ r, root.withRequest params = .ok r ∧
      r.pipeline = root.pipeline.pushed [.request (root.criterionOf request)] := by
  have made : root.requestCriterion params = .ok (root.criterionOf request) := by
    unfold requestCriterion
    dsimp only
    rw [parsed]
    rfl
  unfold withRequest
  rw [made]
  refine ⟨_, rfl, ?_⟩
  split <;> rfl

/-- The identities of two views differ in the requests, as long as those are active. -/
theorem identities_eq_iff {request' : Request} :
    (root.pipeline.pushed [.request (root.criterionOf request)]).identities =
        (root.pipeline.pushed [.request (root.criterionOf request')]).identities ↔
      root.pipeline.skip = true ∨ request = request' := by
  rw [Pipeline.identities_pushed, Pipeline.identities_pushed, List.append_right_inj]
  cases root.pipeline.skip <;> simp [Criterion.identity, criterionOf]

/-- Texts of criteria are equal exactly when identities are. In particular two requests on a view
that does not skip its criteria share a text, and so a hash unless the hash merges the two texts,
exactly when they are read as the same request. -/
theorem criteria_canonical :
    (∀ p p' : Pipeline, p.IsPlain → p'.IsPlain →
      ∃ text text', Key.criteriaText p.identities = .ok text ∧ Key.criteriaText p'.identities = .ok text' ∧
        (text = text' ↔ p.identities = p'.identities)) ∧
    ∀ (root : Repository) (params params' : Record) (request request' : Request), root.pipeline.IsPlain →
      Request.parse params root.settings.params root.settings.enhancedSearch = .ok request →
      Request.parse params' root.settings.params root.settings.enhancedSearch = .ok request' →
      ∃ r r' text text', root.withRequest params = .ok r ∧ root.withRequest params' = .ok r' ∧
        Key.criteriaText r.pipeline.identities = .ok text ∧ Key.criteriaText r'.pipeline.identities = .ok text' ∧
        (text = text' ↔ root.pipeline.skip = true ∨ request = request') ∧
        (Set.InjOn Key.textHash {text, text'} →
          (Key.textHash text = Key.textHash text' ↔ root.pipeline.skip = true ∨ request = request')) := by
  refine ⟨fun p p' plain plain' => plain.criteriaText_eq_iff plain', ?_⟩
  intro root params params' request request' plain parsed parsed'
  obtain ⟨r, made, pipeline⟩ := exists_withRequest parsed
  obtain ⟨r', made', pipeline'⟩ := exists_withRequest parsed'
  have pushed (request : Request) : (root.pipeline.pushed [.request (root.criterionOf request)]).IsPlain := by
    apply plain.pushed
    intro c member
    rw [List.mem_singleton.1 member]
    trivial
  obtain ⟨text, text', written, written', same⟩ := (pushed request).criteriaText_eq_iff (pushed request')
  rw [identities_eq_iff] at same
  refine ⟨r, r', text, text', made, made', by rw [pipeline, written], by rw [pipeline', written'], same, ?_⟩
  intro apart
  rw [apart.eq_iff (by simp) (by simp), same]

/-- A truth value beside the number it counts as, and requests that differ in one name. -/
theorem criteria_canonical_names :
    let p (v : Value) : Pipeline := { criteria := [.field "admin" .eq [v], .relation "posts", .relationCount "posts"] }
    let root : Repository := { entity := "user" }
    let params (name : String) : Record := [("groupBy", .str name)]
    let request (name : String) : Request := { groupBy := [name] }
    ((p (.bool true)).IsPlain ∧ (p (.int 1)).IsPlain ∧ ∃ text text',
      Key.criteriaText (p (.bool true)).identities = .ok text ∧ Key.criteriaText (p (.int 1)).identities = .ok text' ∧
        text ≠ text') ∧
    (root.pipeline.IsPlain ∧ Request.parse (params "a") = .ok (request "a") ∧
      Request.parse (params "b") = .ok (request "b") ∧
      ∃ r r' text text', root.withRequest (params "a") = .ok r ∧ root.withRequest (params "b") = .ok r' ∧
        Key.criteriaText r.pipeline.identities = .ok text ∧ Key.criteriaText r'.pipeline.identities = .ok text' ∧
        text ≠ text' ∧ Key.textHash text ≠ Key.textHash text') := by
  intro p root params request
  have plain (v : Value) (known : v.isPlain = true) : (p v).IsPlain := by
    simp [p, Pipeline.IsPlain, Criterion.identity, Identity.IsPlain, known]
  have bare : root.pipeline.IsPlain := by simp [root, Pipeline.IsPlain]
  have parsed : Request.parse (params "a") = .ok (request "a") := by decide +kernel
  have parsed' : Request.parse (params "b") = .ok (request "b") := by decide +kernel
  obtain ⟨text, text', written, written', same⟩ :=
    criteria_canonical.1 (p (.bool true)) (p (.int 1)) (plain _ rfl) (plain _ rfl)
  refine ⟨⟨plain _ rfl, plain _ rfl, text, text', written, written', fun merged => ?_⟩, bare, parsed, parsed', ?_⟩
  · have identities := same.1 merged
    simp [p, Pipeline.identities, Pipeline.active, Criterion.identity] at identities
  · obtain ⟨r, r', text, text', made, made', written, written', same, hashed⟩ :=
      criteria_canonical.2 root _ _ _ _ bare parsed parsed'
    have differ : ¬(root.pipeline.skip = true ∨ request "a" = request "b") := by decide
    -- The two hashes are computed, so they can be told apart without supposing anything.
    let hashOf (name : String) : String := Key.textHash <| Except.toOption (Key.criteriaText
      (root.pipeline.pushed [.request (root.criterionOf (request name))]).identities) |>.getD ""
    have hashes : hashOf "a" ≠ hashOf "b" := by
      simp only [hashOf, Key.textHash_eq]
      decide +kernel
    obtain ⟨r₁, again, pipeline⟩ := @exists_withRequest root _ _ parsed
    obtain ⟨r₂, again', pipeline'⟩ := @exists_withRequest root _ _ parsed'
    cases made.symm.trans again
    cases made'.symm.trans again'
    have first : Key.textHash text = hashOf "a" := by
      simp only [hashOf, ← pipeline, written]
      rfl
    have second : Key.textHash text' = hashOf "b" := by
      simp only [hashOf, ← pipeline', written']
      rfl
    have apart : Set.InjOn Key.textHash {text, text'} := by
      rw [Set.injOn_pair, first, second]
      exact fun merged => absurd merged hashes
    exact ⟨r, r', text, text', made, made', written, written', fun merged => differ (same.1 merged),
      fun merged => differ ((hashed apart).1 merged)⟩

/-- Under a view that skips its criteria two requests that have nothing in common share their text, and
every key. -/
theorem skipped_requests_merged :
    let root : Repository := ({ entity := "user" } : Repository).skippingCriteria
    let request (field value : String) : Request :=
      { filter := some { conditions := [⟨field, .eq, [value], .and, false⟩] } }
    Request.parse [("filter", .str "name:ada")] = .ok (request "name" "ada") ∧
      Request.parse [("filter", .str "age:36")] = .ok (request "age" "36") ∧
      request "name" "ada" ≠ request "age" "36" ∧
      ∃ r r', root.withRequest [("filter", .str "name:ada")] = .ok r ∧
        root.withRequest [("filter", .str "age:36")] = .ok r' ∧
        Key.criteriaText r.pipeline.identities = Key.criteriaText r'.pipeline.identities ∧
        ∀ method args, r.key method args = r'.key method args := by
  intro root request
  have parsed : Request.parse [("filter", .str "name:ada")] = .ok (request "name" "ada") := by decide +kernel
  have parsed' : Request.parse [("filter", .str "age:36")] = .ok (request "age" "36") := by decide +kernel
  obtain ⟨r, made, pipeline⟩ := @exists_withRequest root _ _ parsed
  obtain ⟨r', made', pipeline'⟩ := @exists_withRequest root _ _ parsed'
  have identities : r.pipeline.identities = r'.pipeline.identities := by
    rw [pipeline, pipeline', identities_eq_iff]
    exact .inl rfl
  have settings {r : Repository} {params : Record} (made : root.withRequest params = .ok r) :
      r.settings = root.settings ∧ r.entity = root.entity := by
    obtain ⟨c, -, made⟩ := bind_eq_ok.1 made
    cases made
    split <;> exact ⟨rfl, rfl⟩
  refine ⟨parsed, parsed', by decide, r, r', made, made', by rw [identities], fun method args => ?_⟩
  simp only [key, keyOf, identities, settings made, settings made']

end Repository

end QueryCache
