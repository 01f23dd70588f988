import QueryCache.Criteria.Pipeline
import QueryCache.Proofs.Criteria.Built

/-! The fields of criteria are all that a query of them looks at.

Records that agree on those fields are found, counted, grouped and put in order alike. Relations are
looked up for the rows of the answer, after these have been chosen. -/

set_option autoImplicit false

namespace QueryCache

open Outcome

variable {names : List String} {q q' : QueryState}

/-- A predicate depends on the fields of its leaves. -/
theorem Predicate.dependsOn_of_leaves {p : Predicate}
    (read : ∀ leaf ∈ p.leaves, ∀ name ∈ leaf.ownFields, name ∈ names) : p.DependsOn names := by
  induction p using byParts with
  | field name op values =>
    exact dependsOn_field (read (.field name op values) (by simp [leaves]) name (by simp [ownFields])) op values
  | column left test right =>
    have own := read (.column left test right) (by simp [leaves])
    exact dependsOn_column (own left (by simp [ownFields])) (own right (by simp [ownFields])) test
  | never => exact dependsOn_never
  | not part ih =>
    rw [leaves_not] at read
    exact dependsOn_not (ih read)
  | all parts ih =>
    rw [leaves_all] at read
    exact dependsOn_all fun part member => ih part member (leaves_of_parts read part member)
  | any parts ih =>
    rw [leaves_any] at read
    exact dependsOn_any fun part member => ih part member (leaves_of_parts read part member)

namespace RequestCriterion

variable {c : RequestCriterion} {part : Section}

theorem LeafOf.mem_fields {leaf : Predicate} (found : c.LeafOf leaf) : ∀ name ∈ leaf.ownFields, name ∈ c.fields := by
  cases found with
  | never => simp [Predicate.ownFields]
  | @condition part default op decode condition values asked member =>
    have held : part ∈ [c.request.search, c.request.filter, c.request.having].filterMap id := by
      cases asked with
      | search held | filter held => simp [held]
    have read : condition.field ∈ c.fields := mem_fields_of_section held (Section.field_mem_fieldNames member)
    simpa [Predicate.ownFields] using read
  | @term part f op tokens token held term searched =>
    have read : f.field ∈ c.fields := by
      unfold RequestCriterion.searched at searched
      split at searched
      · next spread =>
        simp only [fields, mem_distinct, List.mem_append, held, term, spread, List.isEmpty_nil, Bool.and_self, if_true]
        exact .inr (List.mem_map_of_mem searched)
      · exact mem_fields_of_section (by simp [held]) (Section.searchField_mem_fieldNames term searched)
    simpa [Predicate.ownFields] using read
  | @comparison comparison test member =>
    have read {name : String} (side : name ∈ [comparison.left, comparison.right]) : name ∈ c.fields := by
      apply RequestCriterion.mem_fields
      simp only [Request.referencedFields, mem_distinct, List.mem_append]
      exact .inr (List.mem_flatMap.2 ⟨comparison, member, side⟩)
    simp [Predicate.ownFields, read]

theorem dependsOn_bare (depends : q.bare.DependsOn names) (read : ∀ name ∈ c.fields, name ∈ names)
    (applied : c.apply q = .ok q') : q'.bare.DependsOn names := by
  have referenced {name : String} (member : name ∈ c.request.referencedFields) : name ∈ names :=
    read name (mem_fields member)
  obtain ⟨added, each, rfl⟩ := of_apply applied
  rw [bare_applyShape]
  -- What is searched, filtered and compared came in as leaves; sort and groups are read off the request.
  refine ⟨fun p member => ?_, fun s member => ?_, fun name member => ?_, rfl, rfl⟩
  · rcases List.mem_append.1 member with old | new
    · exact depends.wheres p old
    · apply Predicate.dependsOn_of_leaves
      intro leaf found name own
      exact read name ((each leaf (List.mem_flatMap.2 ⟨p, new, found⟩)).mem_fields name own)
  · rcases List.mem_append.1 member with old | new
    · exact depends.sort s old
    · apply referenced
      simp only [Request.referencedFields, mem_distinct, List.mem_append]
      exact .inl (.inl (.inr (List.mem_map_of_mem new)))
  · rcases List.mem_append.1 member with old | new
    · exact depends.groupBy name old
    · apply referenced
      simp only [Request.referencedFields, mem_distinct, List.mem_append]
      exact .inl (.inr new)

end RequestCriterion

namespace Criterion

variable {c : Criterion}

/-- A criterion that says itself what it reads; a scope says what it was told. -/
def IsDeclared : Criterion → Prop
  | .scope _ => False
  | _ => True

theorem dependsOn_bare (declared : c.IsDeclared) (depends : q.bare.DependsOn names)
    (read : ∀ name ∈ c.fields, name ∈ names) (applied : c.apply q = .ok q') : q'.bare.DependsOn names := by
  cases c with
  | field name op values =>
    cases applied
    exact depends.addPredicate (Predicate.dependsOn_field (read name (by simp [fields])) op values)
  | column left op right =>
    obtain ⟨p, compared, rfl⟩ := map_eq_ok.1 applied
    have added : q.bare.addColumn left op right = .ok (q.bare.addPredicate p) := map_eq_ok.2 ⟨p, compared, rfl⟩
    exact depends.addColumn (read left (by simp [fields])) (read right (by simp [fields])) added
  | orderBy name direction =>
    cases applied
    exact depends.orderBy (read name (by simp [fields])) direction
  | relation path =>
    cases applied
    rwa [q.bare_addRelation]
  | relationCount path =>
    cases applied
    rwa [q.bare_addCount]
  | request r => exact RequestCriterion.dependsOn_bare depends read applied
  | scope => cases declared

theorem IsPlain.declared (plain : c.IsPlain) : c.IsDeclared := by
  cases c with
  | scope => cases plain
  | _ => trivial

end Criterion

/-- Whatever criteria are applied one after the other, their fields are all that is read. -/
theorem Pipeline.dependsOn_bare {p : Pipeline} (declared : ∀ c ∈ p.active, c.IsDeclared)
    (applied : p.applyAll {} = .ok q) : q.bare.DependsOn (p.active.flatMap Criterion.fields) := by
  apply of_foldlM_eq_ok (P := fun q => q.bare.DependsOn (p.active.flatMap Criterion.fields)) applied .empty
  intro c member q q' depends applied
  apply Criterion.dependsOn_bare (declared c member) depends _ applied
  exact fun name read => List.mem_flatMap.2 ⟨c, member, read⟩

namespace EntityStore

variable {s s' : EntityStore}

/-- Two stores whose records, place by place, agree on some fields. -/
structure Agree (names : List String) (s s' : EntityStore) : Prop where
  lengths : s.records.length = s'.records.length
  fields : ∀ (i : Fin s.records.length), ∀ name ∈ names, Value.field (.dict (s.records.get i)) name =
    Value.field (.dict (s'.records.get (i.cast lengths))) name

/-- The rows of a query are chosen as if it had no relations, and then given theirs. -/
theorem select_eq_bind (s : EntityStore) (q : QueryState) :
    s.select q = s.select q.bare >>= fun rows => rows.mapM (s.withRelations q) := by
  rw [select_bare s (q := q.bare) rfl rfl]
  simp only [select, bind_assoc, pure_bind]
  rfl

theorem count_bare (s : EntityStore) (q : QueryState) : s.count q.bare = s.count q := rfl

/-- A query reads nothing of records but the fields of its criteria. It counts as many rows in both stores,
and chooses the same places in the same order, or the same groups, before relations are looked up. -/
theorem chosen_by_fields {p : Pipeline} (declared : ∀ c ∈ p.active, c.IsDeclared)
    (applied : p.applyAll {} = .ok q) (agree : Agree (p.active.flatMap Criterion.fields) s s') :
    s.count q = s'.count q ∧
      (q.groupBy = [] → ∃ chosen : Except Failure (List (Fin s.records.length)),
        s.select q.bare = chosen.map (List.map s.records.get) ∧
        s'.select q.bare = chosen.map (List.map fun i => s'.records.get (i.cast agree.lengths))) ∧
      (q.groupBy ≠ [] → s.select q.bare = s'.select q.bare) ∧
      ∀ store : EntityStore,
        store.select q = (do (← store.select q.bare).mapM fun row => store.withRelations q row) := by
  have depends := Pipeline.dependsOn_bare declared applied
  have before : s.records = (List.finRange s.records.length).map s.records.get :=
    List.ext_getElem (by simp) (by simp)
  have after : s'.records = (List.finRange s.records.length).map fun i => s'.records.get (i.cast agree.lengths) :=
    List.ext_getElem (by simp [agree.lengths]) (by simp)
  refine ⟨?_, ?_, ?_, fun store => store.select_eq_bind q⟩
  · rw [← count_bare s, ← count_bare s']
    exact count_eq depends before after agree.fields
  · exact fun single => select_alike depends before after agree.fields single
  · exact fun groups => select_eq depends before after agree.fields groups

theorem chosen_by_fields_related :
    let params : RequestParams := [("search", .str "ada"), ("filter", .str "age:gte:18"), ("orderBy", .str "age"),
      ("sortedBy", .str "desc"), ("include", .str "posts_count")]
    let record (id age : Int) (name note : String) (posts : Value) : Record := [("id", .int id), ("age", .int age),
      ("name", .str name), ("live", .bool true), ("note", .str note), ("posts", posts)]
    let s : EntityStore := {
      entity := "user", relations := [("posts", .ofField "posts")]
      records := [record 1 20 "Ada" "a" .null, record 2 30 "Bob" "b" .null, record 3 40 "Nada" "c" (.str "xy")] }
    let s' : EntityStore := {
      entity := "user", relations := [("posts", .ofField "posts")]
      records := [record 7 20 "Ada" "" (.str "z"), record 8 30 "Bob" "ada" .null, record 9 40 "Nada" "" .null] }
    ∃ (c : RequestCriterion) (q : QueryState), Request.parse params = .ok c.request ∧
      c.searchable = [⟨"name", none⟩, ⟨"age", none⟩] ∧
      ({ criteria := [.field "live" .eq [.bool true], .request c] } : Pipeline).applyAll {} = .ok q ∧
      s.count q = s'.count q ∧
      ∃ chosen : List (Fin 3), s.select q.bare = .ok (chosen.map s.records.get) ∧
        s'.select q.bare = .ok (chosen.map s'.records.get) ∧ chosen.length = 2 := by
  intro params record s s'
  have run : ((Request.parse params).toOption.bind fun request =>
      let c : RequestCriterion := { request, searchable := [⟨"name", none⟩, ⟨"age", none⟩] }
      let p : Pipeline := { criteria := [.field "live" .eq [.bool true], .request c] }
      (p.applyAll {}).toOption.map fun q => (p.active.flatMap Criterion.fields, q.groupBy,
        (s.select q.bare).toOption.map List.length)) = some (["live", "age", "name"], [], some 2) := by
    decide +kernel
  obtain ⟨request, parsed, run⟩ := Option.bind_eq_some_iff.1 run
  obtain ⟨q, applied, run⟩ := Option.map_eq_some_iff.1 run
  obtain ⟨fields, run⟩ := Prod.mk.inj run
  obtain ⟨single, run⟩ := Prod.mk.inj run
  obtain ⟨rows, selected, size⟩ := Option.map_eq_some_iff.1 run
  have agree : Agree ["live", "age", "name"] s s' := by
    refine ⟨rfl, fun i => ?_⟩
    simp only [List.forall_mem_cons]
    match i with
    | 0 | 1 | 2 => exact ⟨rfl, rfl, rfl, by simp⟩
  rw [← fields] at agree
  have same := chosen_by_fields (p := { criteria := [.field "live" .eq [.bool true],
      .request { request, searchable := [⟨"name", none⟩, ⟨"age", none⟩] }] })
    (by simp [Pipeline.active, Criterion.IsDeclared]) (of_toOption applied) agree
  obtain ⟨chosen, first, second⟩ := same.2.1 single
  cases chosen with
  | error e => cases (of_toOption selected).symm.trans first
  | ok places =>
    cases (of_toOption selected).symm.trans first
    exact ⟨_, q, of_toOption parsed, rfl, of_toOption applied, same.1, places, first, second, by simpa using size⟩

end EntityStore

end QueryCache
