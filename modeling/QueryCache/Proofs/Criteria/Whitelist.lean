import QueryCache.Proofs.Criteria.Built

/-! The fields that a request can look at under a whitelist.

A field comes into the query from a condition, from the fields that a term is looked for in, or from a
comparison. Whichever way it comes, it is checked where the request names it, and is a searchable one
where the request does not. -/

set_option autoImplicit false

namespace QueryCache

open Outcome

namespace RequestCriterion

variable {c : RequestCriterion} {part : Section} {default : Operator} {decode : Bool} {condition : Condition}
  {name : String} {q q' : QueryState}

/-- The fields of its records that a request names: those of its conditions, those that it wants its term
looked for in, and those that it compares. -/
inductive Names (c : RequestCriterion) : String → Prop
  | condition {part : Section} {default : Operator} {decode : Bool} {condition : Condition} :
    c.IsSection part default decode → condition ∈ part.conditions → Names c condition.field
  | searchField {part : Section} {f : SearchField} : c.request.search = some part → part.term.isSome = true →
    f ∈ part.fields → Names c f.field
  | left {comparison : Comparison} : comparison ∈ c.request.compare → Names c comparison.left
  | right {comparison : Comparison} : comparison ∈ c.request.compare → Names c comparison.right

theorem isAllowed_iff (listed : c.searchable ≠ []) :
    c.isAllowed name = true ↔ name ∈ c.searchable.map (·.field) := by
  simp [isAllowed, listed]

theorem isAllowed_searchable {f : SearchField} (member : f ∈ c.searchable) : c.isAllowed f.field = true :=
  (isAllowed_iff (List.ne_nil_of_mem member)).2 (List.mem_map_of_mem member)

/-- A leaf looks at fields that the request names, or at searchable ones in their place. -/
theorem named_of_leafOf {leaf : Predicate} (made : c.LeafOf leaf) (own : name ∈ leaf.ownFields) :
    c.Names name ∨ c.isAllowed name = true := by
  cases made with
  | never => cases own
  | condition asked member =>
    rw [List.mem_singleton.1 own]
    exact .inl (.condition asked member)
  | term held term searched =>
    rw [List.mem_singleton.1 own]
    unfold RequestCriterion.searched at searched
    split at searched
    · exact .inr (isAllowed_searchable searched)
    · exact .inl (.searchField held term searched)
  | comparison member =>
    rcases List.mem_cons.1 own with rfl | own
    · exact .inl (.left member)
    · rw [List.mem_singleton.1 own]
      exact .inl (.right member)

/-! ## What is applied was checked -/

theorem isAllowed_of_check {u : Unit} (passed : c.check name = .ok u) : c.isAllowed name = true := by
  unfold check at passed
  split at passed
  · assumption
  · cases passed

theorem isAllowed_of_applySection (applied : c.applySection part decode q = .ok q')
    (member : condition ∈ part.conditions) : c.isAllowed condition.field = true := by
  obtain ⟨parts, made, -⟩ := bind_eq_ok.1 applied
  obtain ⟨p, -, made⟩ := exists_of_mem_mapM made member
  obtain ⟨_, passed, -⟩ := bind_eq_ok.1 made
  exact isAllowed_of_check passed

theorem isAllowed_of_applyTerm (applied : c.applyTerm part q = .ok q') {f : SearchField}
    (member : f ∈ part.fields) : c.isAllowed f.field = true := by
  obtain ⟨fields, found, -⟩ := bind_eq_ok.1 applied
  -- With fields of its own the term is looked for in no others.
  have own : part.fields.isEmpty = false := by simpa using List.ne_nil_of_mem member
  unfold termFields at found
  simp only [own, Bool.false_eq_true, if_false] at found
  obtain ⟨_, -, found⟩ := exists_of_mem_mapM found member
  obtain ⟨_, passed, -⟩ := bind_eq_ok.1 found
  exact isAllowed_of_check passed

theorem isAllowed_of_applyComparison {comparison : Comparison} (applied : c.applyComparison q comparison = .ok q') :
    c.isAllowed comparison.left = true ∧ c.isAllowed comparison.right = true := by
  obtain ⟨_, passed, applied⟩ := bind_eq_ok.1 applied
  obtain ⟨_, passed', -⟩ := bind_eq_ok.1 applied
  exact ⟨isAllowed_of_check passed, isAllowed_of_check passed'⟩

theorem isAllowed_of_apply (applied : c.apply q = .ok q') (names : c.Names name) : c.isAllowed name = true := by
  obtain ⟨q₁, q₂, q₃, searched, filtered, compared, -⟩ := stages_of_apply applied
  -- Each way of naming a field leads into one of the stages, and all of them went through.
  cases names with
  | condition asked member =>
    cases asked with
    | search held bare =>
      rw [held, Option.elim_some, applySearch, bare] at searched
      exact isAllowed_of_applySection searched member
    | filter held =>
      rw [held] at filtered
      exact isAllowed_of_applySection filtered member
  | searchField held term member =>
    rw [held, Option.elim_some, applySearch, if_pos term] at searched
    exact isAllowed_of_applyTerm searched member
  | left member =>
    obtain ⟨_, _, applied⟩ := step_of_foldlM_eq_ok compared member
    exact (isAllowed_of_applyComparison applied).1
  | right member =>
    obtain ⟨_, _, applied⟩ := step_of_foldlM_eq_ok compared member
    exact (isAllowed_of_applyComparison applied).2

/-! ## What is listed is not refused -/

section

variable {α β : Type} {x : Except Failure α} {f : α → Except Failure β}

/-- No field is refused, unless it is the transcoder that fails so. -/
def Unrefused (c : RequestCriterion) (x : Except Failure α) : Prop :=
  ∀ name entity, x = .error (.notSearchable name entity) →
    ∃ transcoder token, c.transcoder = some transcoder ∧
      transcoder.decode token = .error (.notSearchable name entity)

theorem unrefused_ok (a : α) : c.Unrefused (.ok a) := nofun

theorem Unrefused.bind (first : c.Unrefused x) (next : ∀ a, c.Unrefused (f a)) : c.Unrefused (x >>= f) := by
  intro name entity failed
  rcases bind_eq_error.1 failed with here | ⟨a, -, there⟩
  · exact first name entity here
  · exact next a name entity there

theorem Unrefused.map (first : c.Unrefused x) (g : α → β) : c.Unrefused (x.map g) :=
  fun name entity failed => first name entity (map_eq_error.1 failed)

theorem unrefused_mapM {items : List α} (each : ∀ a ∈ items, c.Unrefused (f a)) : c.Unrefused (items.mapM f) := by
  intro name entity failed
  obtain ⟨a, member, here⟩ := mapM_eq_error failed
  exact each a member name entity here

theorem unrefused_foldlM {g : β → α → Except Failure β} {items : List α} (each : ∀ a ∈ items, ∀ b, c.Unrefused (g b a))
    (start : β) : c.Unrefused (items.foldlM g start) := by
  intro name entity failed
  obtain ⟨a, member, b, here⟩ := foldlM_eq_error failed
  exact each a member b name entity here

/-- A text that is no number of a readable length fails for its length or its form. -/
theorem unrefused_ofInteger (read : Except Text.IntegerFault α) : c.Unrefused (read.mapError Failure.ofInteger) := by
  intro name entity failed
  obtain ⟨fault, -, failed⟩ := mapError_eq_error.1 failed
  cases fault <;> cases failed

end

theorem unrefused_check (allowed : c.isAllowed name = true) : c.Unrefused (c.check name) := by
  rw [check, if_pos allowed]
  exact unrefused_ok ()

theorem unrefused_decodeValue {transcoder : Transcoder} (held : c.transcoder = some transcoder) (field token : String) :
    c.Unrefused (decodeValue field (some transcoder) c.policy c.entity (.str token)) := by
  cases decimal : Text.isDecimalText token.toList with
  | true =>
    rw [decodeValue_decimal decimal]
    exact (unrefused_ofInteger _).map _
  | false =>
    -- The transcoder is asked only here; what the policy fails with is another failure.
    intro name entity failed
    rw [decodeValue_other decimal] at failed
    split at failed
    · next e decoded =>
      cases failed
      exact ⟨transcoder, token, held, decoded⟩
    · cases failed
    · split at failed <;> cases failed

theorem unrefused_decodeValues {transcoder : Transcoder} (held : c.transcoder = some transcoder) (field : String)
    (tokens : List String) :
    c.Unrefused (decodeValues field (tokens.map .str) (some transcoder) c.policy c.entity) := by
  induction tokens with
  | nil => exact unrefused_ok _
  | cons token rest ih =>
    rw [List.map_cons, decodeValues]
    apply (unrefused_decodeValue held field token).bind
    intro decoded
    cases decoded with
    | impossible => exact unrefused_ok _
    | value v => exact ih.bind fun _ => unrefused_ok _

theorem unrefused_leaf (op : Operator) : c.Unrefused (c.leaf condition op decode) := by
  by_cases plain : decode = false ∨ c.transcoder = none ∨ condition.maybeEncodedId = false
  · rw [leaf_plain plain]
    exact unrefused_ok _
  · obtain ⟨on, some, encoded⟩ : decode = true ∧ c.transcoder ≠ none ∧ condition.maybeEncodedId = true := by
      simpa using plain
    obtain ⟨transcoder, held⟩ := Option.ne_none_iff_exists'.1 some
    rw [leaf_decoded on held encoded]
    exact (unrefused_decodeValues held _ _).map _

theorem unrefused_applySection (allowed : ∀ condition ∈ part.conditions, c.isAllowed condition.field = true) :
    c.Unrefused (c.applySection part decode q) := by
  have each : c.Unrefused (c.leaves part decode) := unrefused_mapM fun condition member =>
    (unrefused_check (allowed condition member)).bind fun _ => unrefused_leaf _
  exact each.bind fun _ => unrefused_ok _

theorem unrefused_applyTerm (allowed : ∀ f ∈ part.fields, c.isAllowed f.field = true) :
    c.Unrefused (c.applyTerm part q) := by
  have searched : ∀ f ∈ (if part.fields.isEmpty then c.searchable else part.fields), c.isAllowed f.field = true := by
    split
    · exact fun f member => isAllowed_searchable member
    · exact allowed
  have fields : c.Unrefused (c.termFields part) := by
    unfold termFields
    dsimp only
    generalize (if part.fields.isEmpty then c.searchable else part.fields) = fields at searched
    split
    · rintro _ _ ⟨⟩
    · exact unrefused_mapM fun f member => (unrefused_check (searched f member)).bind fun _ => unrefused_ok _
  exact fields.bind fun _ => (unrefused_ofInteger _).bind fun _ => unrefused_ok _

theorem unrefused_applyComparison {comparison : Comparison} (left : c.isAllowed comparison.left = true)
    (right : c.isAllowed comparison.right = true) : c.Unrefused (c.applyComparison q comparison) := by
  refine (unrefused_check left).bind fun _ => (unrefused_check right).bind fun _ => ?_
  apply Unrefused.map
  unfold Predicate.compareColumns
  split
  · exact unrefused_ok _
  · rintro _ _ ⟨⟩

theorem unrefused_apply (allowed : ∀ name, c.Names name → c.isAllowed name = true) : c.Unrefused (c.apply q) := by
  rw [apply_eq]
  refine Unrefused.bind ?_ fun q₁ => Unrefused.bind ?_ fun q₂ => Unrefused.bind ?_ fun q₃ => unrefused_ok _
  · cases held : c.request.search with
    | none => exact unrefused_ok q
    | some part =>
      rw [Option.elim_some, applySearch]
      split
      · next term => exact unrefused_applyTerm fun f member => allowed _ (.searchField held term member)
      · next bare =>
        exact unrefused_applySection fun condition member =>
          allowed _ (.condition (.search held (by simpa using bare)) member)
  · cases held : c.request.filter with
    | none => exact unrefused_ok q₁
    | some part => exact unrefused_applySection fun condition member => allowed _ (.condition (.filter held) member)
  · exact unrefused_foldlM (fun comparison member _ =>
      unrefused_applyComparison (allowed _ (.left member)) (allowed _ (.right member))) q₂

/-! ## The whitelist -/

/-- A query that a request is applied to looks at listed fields only, and a request that names listed
fields only is not refused for a field. -/
theorem apply_confined (listed : c.searchable ≠ []) :
    (∀ q, c.apply {} = .ok q → ∀ leaf ∈ q.predicate.leaves, ∀ name ∈ leaf.ownFields,
      name ∈ c.searchable.map (·.field)) ∧
    ((∀ name, c.Names name → name ∈ c.searchable.map (·.field)) →
      ∀ name entity, c.apply {} = .error (.notSearchable name entity) →
        -- A transcoder is code of its own, and could fail in the same way.
        ∃ transcoder token, c.transcoder = some transcoder ∧
          transcoder.decode token = .error (.notSearchable name entity)) := by
  constructor
  · intro q applied leaf found name own
    rw [← isAllowed_iff listed]
    rcases named_of_leafOf ((leaves_of_apply applied).1 leaf found) own with names | allowed
    · exact isAllowed_of_apply applied names
    · exact allowed
  · intro names
    exact unrefused_apply fun name named => (isAllowed_iff listed).2 (names name named)

theorem apply_confined_mixed :
    let params : RequestParams := [("search", .str "ada -bob"), ("searchFields", .str "name"),
      ("filter", .str "role_id:u_3;age:gte:36"), ("compare", .str "created:lt:updated")]
    let searchable : List SearchField :=
      [⟨"name", none⟩, ⟨"role_id", none⟩, ⟨"age", none⟩, ⟨"created", none⟩, ⟨"updated", none⟩]
    searchable ≠ [] ∧ ∃ (c : RequestCriterion) (q : QueryState), Request.parse params = .ok c.request ∧
      c.searchable = searchable ∧ c.transcoder = some (.marked "u_") ∧ c.apply {} = .ok q ∧
      q.predicate.leaves.length = 5 ∧
      ∀ leaf ∈ q.predicate.leaves, ∀ name ∈ leaf.ownFields, name ∈ searchable.map (·.field) := by
  intro params searchable
  have listed : searchable ≠ [] := List.cons_ne_nil _ _
  have run : ((Request.parse params).toOption.bind fun request =>
      (RequestCriterion.apply { request, searchable, transcoder := some (.marked "u_") } {}).toOption.map
        fun q => q.predicate.leaves.length) = some 5 := by decide +kernel
  obtain ⟨request, parsed, run⟩ := Option.bind_eq_some_iff.1 run
  obtain ⟨q, applied, count⟩ := Option.map_eq_some_iff.1 run
  let c : RequestCriterion := { request, searchable, transcoder := some (.marked "u_") }
  have confined : ∀ q, c.apply {} = .ok q → _ := (apply_confined (c := c) listed).1
  exact ⟨listed, c, q, of_toOption parsed, rfl, rfl, of_toOption applied, count, confined q (of_toOption applied)⟩

end RequestCriterion

end QueryCache
