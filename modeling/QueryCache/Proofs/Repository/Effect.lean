import QueryCache.Proofs.Entity.Store
import QueryCache.Proofs.Repository.Alone
import QueryCache.Proofs.Repository.Keyed
import QueryCache.Proofs.Value.Field
import QueryCache.Repository.Write

/-! What writes do to the entities and to the cache. A write changes nothing, drops every cached read
of the entity type, or changes one record and drops the cached reads that contain it or read one of
the fields that it names. -/

set_option autoImplicit false

namespace QueryCache

open Outcome

/-- A write and its arguments. -/
inductive Writing where
  | create (attributes : Record)
  | update (id : Value) (changes : Record)
  | updateOrCreate (conditions values : Record)
  | delete (id : Value)
  | deleteWhere (conditions : Record)

namespace Writing

variable {σ : Type}

/-- The session after a write, whatever the write gives. -/
def run (cache : CacheStore σ) (r : Repository) (s : Session σ) : Writing → Session σ
  | .create attributes => (r.create cache attributes s).2
  | .update id changes => (r.update cache id changes s).2
  | .updateOrCreate conditions values => (r.updateOrCreate cache conditions values s).2
  | .delete id => (r.delete cache id s).2
  | .deleteWhere conditions => (r.deleteWhere cache conditions s).2

end Writing

namespace EntityStore

/-- A record after changes, its identifier apart. -/
def changed (record changes : Record) : Record := record.setAll (changes.filter (·.1 != "id"))

/-- Each of the fields keeps its value, or the changes name it. -/
def Announced (names : Set String) (record changes : Record) : Prop :=
  ∀ name ∈ names, name ∈ changes.map (·.1) ∨
    Value.field (.dict (changed record changes)) name = Value.field (.dict record) name

variable {α : Type} {s : EntityStore} {q : QueryState} {fields : List String}

/-- The rows of a query that does not group are records. -/
theorem mem_of_select (depends : q.DependsOn fields) (single : q.groupBy = []) {rows : List Record}
    (selected : s.select q = .ok rows) : ∀ record ∈ rows, record ∈ s.records := by
  have pairs : s.records = s.records.attach.map Subtype.val := s.records.attach_map_subtype_val.symm
  obtain ⟨chosen, first, -⟩ := select_alike depends pairs pairs (fun _ _ _ => rfl) single
  obtain ⟨kept, rfl, rfl⟩ := map_eq_ok.1 (first.symm.trans selected)
  intro record member
  obtain ⟨held, -, rfl⟩ := List.mem_map.1 member
  exact held.2

end EntityStore

namespace Repository

open EntityStore Session

/-- The query of conditions depends on their fields, and attaches nothing. -/
theorem dependsOn_queryOf {conditions : Record} {q : QueryState} (built : queryOf conditions = .ok q) :
    ∃ fields, q.DependsOn fields ∧ q.groupBy = [] := by
  obtain ⟨criteria, made, built⟩ := bind_eq_ok.1 built
  have all := Criterion.isCondition_of_ofConditions made
  rw [Criterion.foldlM_conditions all] at built
  cases built
  refine ⟨criteria.flatMap Criterion.fields, ⟨?_, by simp, by simp, rfl, rfl⟩, rfl⟩
  intro p member
  obtain ⟨c, held, rfl⟩ := List.mem_map.1 (by simpa using member)
  obtain ⟨name, op, values, rfl⟩ := all c held
  exact Predicate.dependsOn_field (List.mem_flatMap.2 ⟨_, held, by simp [Criterion.fields]⟩) op values

section

variable {σ : Type} {s : Session σ}

theorem ofExcept_eq {α : Type} (result : Except Failure α) (s : Session σ) :
    ofExcept result s = (result, s) := rfl

theorem fetch_eq (q : QueryState) (s : Session σ) :
    inEntities (EntityStore.fetch q) s =
      (s.host.entities.select q, { s with host.entities := s.host.entities.counted }) := rfl

theorem change_ok {α : Type} {f : EntityStore → Except Failure (α × EntityStore)} {answer : α}
    {entities : EntityStore} (run : f s.host.entities = .ok (answer, entities)) :
    inEntities (EntityStore.change f) s = (.ok answer, { s with host.entities := entities }) := by
  have changed : EntityStore.change f s.host.entities = (.ok answer, entities) := by
    unfold EntityStore.change
    rw [run]
  change ((EntityStore.change f s.host.entities).1,
    ({ s with host.entities := (EntityStore.change f s.host.entities).2 } : Session σ)) = _
  rw [changed]

theorem change_error {α : Type} {f : EntityStore → Except Failure (α × EntityStore)} {e : Failure}
    (run : f s.host.entities = .error e) :
    (inEntities (EntityStore.change f) : Attempt (Session σ) α) s = (.error e, s) := by
  have failed : EntityStore.change f s.host.entities = (.error e, s.host.entities) := by
    unfold EntityStore.change
    rw [run]
  change ((EntityStore.change f s.host.entities).1,
    ({ s with host.entities := (EntityStore.change f s.host.entities).2 } : Session σ)) = _
  rw [failed]

end

/-- What a write can do. -/
inductive Effect (r : Repository) (names : Set String) (s s' : Session CacheHost) : Prop where
  | nothing {n : Nat} : Keeps s s' → s'.host.entities = { s.host.entities with executions := n } →
      Effect r names s s'
  | whole : Keeps s s' → Sound s'.host.entities.records →
      (∀ key entry, s'.kept key = some entry → Tag.entity r.entity ∉ entry.tags) → Effect r names s s'
  | one {before after : List Record} {record changes : Record} : Keeps s s' →
      s.host.entities.records = before ++ record :: after →
      s'.host.entities.records = before ++ changed record changes :: after →
      Sound s'.host.entities.records →
      (∀ key entry, s'.kept key = some entry → Tag.id r.entity (idOf record) ∉ entry.tags ∧
        ∀ name ∈ changes.map (·.1), Tag.field r.entity name ∉ entry.tags) →
      Announced names record changes → Effect r names s s'

variable {r : Repository} {names : Set String} {s t s' : Session CacheHost}

theorem Effect.keeps (effect : Effect r names s s') : Keeps s s' := by
  cases effect with
  | nothing keeps => exact keeps
  | whole keeps => exact keeps
  | one keeps => exact keeps

/-- Counting queries before a write is no effect. -/
theorem Effect.before {n : Nat} (keeps : Keeps s t)
    (same : t.host.entities = { s.host.entities with executions := n }) (effect : Effect r names t s') :
    Effect r names s s' := by
  cases effect with
  | nothing keeps' same' => exact .nothing (keeps.trans keeps') (by rw [same', same])
  | whole keeps' sound gone => exact .whole (keeps.trans keeps') sound gone
  | one keeps' form form' sound gone announced =>
    exact .one (keeps.trans keeps') (by rw [← form, same]) form' sound gone announced

/-- Reporting after a write is no effect. -/
theorem Effect.after (effect : Effect r names s t) (keeps : Keeps t s')
    (same : s'.host.entities = t.host.entities) : Effect r names s s' := by
  have older {key : String} {entry : CacheEntry} (held : s'.kept key = some entry) :
      ∃ old, t.kept key = some old ∧ old.tags = entry.tags := by
    obtain ⟨⟨⟩⟩ | ⟨old, before, tags, -⟩ := keeps.contents key entry held
    exact ⟨old, before, tags⟩
  cases effect with
  | nothing keeps' same' => exact .nothing (keeps'.trans keeps) (same.trans same')
  | whole keeps' sound gone =>
    refine .whole (keeps'.trans keeps) (same ▸ sound) fun key entry held => ?_
    obtain ⟨old, before, tags⟩ := older held
    exact tags ▸ gone key old before
  | one keeps' form form' sound gone announced =>
    refine .one (keeps'.trans keeps) form (same ▸ form') (same ▸ sound) (fun key entry held => ?_) announced
    obtain ⟨old, before, tags⟩ := older held
    exact tags ▸ gone key old before

variable (cached : r.cached = true)

include cached

/-- Cached reads are dropped without fail. -/
theorem clean_alone (rests : s.Rests) (tags : List String) :
    ∃ s' : Session CacheHost, r.clean store true tags s = (.ok (), s') ∧ Keeps s s' ∧
      s'.host.entities = s.host.entities ∧
      ∀ key entry, s'.kept key = some entry → ∀ tag ∈ tags, tag ∉ entry.tags := by
  obtain ⟨s', run, keeps, beside, gone⟩ := invalidate_alone rests tags
  refine ⟨s', ?_, keeps, beside, gone⟩
  unfold clean
  simp only [if_true]
  rw [Attempt.bind_eq, invalidate, if_pos cached, run]
  rfl

/-- What is written is reported, and cached reads are dropped. -/
theorem log_clean_alone (rests : s.Rests) (text : String) (tags : List String) {α : Type} (answer : α) :
    ∃ s' : Session CacheHost, (do
        log store text
        r.clean store true tags
        return answer : Attempt (Session CacheHost) α) s = (.ok answer, s') ∧ Keeps s s' ∧
      s'.host.entities = s.host.entities ∧
      ∀ key entry, s'.kept key = some entry → ∀ tag ∈ tags, tag ∉ entry.tags := by
  obtain ⟨keeps, beside⟩ := report_alone rests [⟨.debug, "core", text⟩]
  obtain ⟨s', run, keeps', beside', gone⟩ := clean_alone cached keeps.rests tags
  refine ⟨s', ?_, keeps.trans keeps', beside'.trans beside, gone⟩
  have logged : log store text s =
      (.ok (), s.report (Backing.store store) [⟨.debug, "core", text⟩]) := rfl
  rw [Attempt.bind_ok logged, Attempt.bind_ok run]
  rfl

omit cached in
theorem effect_refl (rests : s.Rests) : Effect r names s s :=
  .nothing rests.follows_refl (n := s.host.entities.executions) rfl

theorem effect_create (rests : s.Rests) (sound : Sound s.host.entities.records)
    (wanted : r.settings.cleanOnCreate = true) (attributes : Record) :
    Effect r names s (r.create store attributes s).2 := by
  cases run : s.host.entities.insert attributes with
  | error e =>
    have failed : r.create store attributes s = (.error e, s) := by
      unfold create
      exact Attempt.bind_error (change_error run)
    rw [failed]
    exact effect_refl rests
  | ok stored =>
    obtain ⟨entity, entities⟩ := stored
    have beside := rests.keeps_entities entities
    obtain ⟨s', dropped, keeps, same, gone⟩ := log_clean_alone cached beside.rests
      ("Created " ++ r.entity ++ " " ++ (idOf entity).text)
      (Tag.ofEntity r.entity (idOf entity) (attributes.map (·.1))) entity
    have created : r.create store attributes s = (.ok entity, s') := by
      unfold create
      rw [Attempt.bind_ok (change_ok run), wanted]
      exact dropped
    rw [created]
    refine .whole (beside.trans keeps) ?_ fun key entry held => gone key entry held _ ?_
    · rw [same]
      exact sound.insert run
    · simp [Tag.ofEntity]

omit cached in
theorem id_ne_entity (type : String) (ident : Value) : Tag.id type ident ≠ Tag.entity type := by
  intro same
  have lengths := congrArg String.length same
  simp only [Tag.id, Tag.entity, String.length_append] at lengths
  have mark : ":id:".length = 4 := rfl
  omega

omit cached in
theorem field_ne_entity (type name : String) : Tag.field type name ≠ Tag.entity type := by
  intro same
  have lengths := congrArg String.length same
  simp only [Tag.field, Tag.entity, String.length_append] at lengths
  have mark : ":field:".length = 7 := rfl
  omega

/-- The tags of an update name the record as it was asked for, and the fields that are named. -/
theorem effect_update (rests : s.Rests) (sound : Sound s.host.entities.records)
    (wanted : r.settings.cleanOnUpdate = true) (id : Value) (changes : Record)
    (announced : ∀ record ∈ s.host.entities.records, hasId id record = true →
      Tag.valueText (idOf record) = Tag.valueText id ∧ Announced names record changes) :
    Effect r names s (r.update store id changes s).2 := by
  cases run : s.host.entities.update id changes with
  | error e =>
    have failed : r.update store id changes s = (.error e, s) := by
      unfold update
      exact Attempt.bind_error (change_error run)
    rw [failed]
    exact effect_refl rests
  | ok stored =>
    obtain ⟨updated, entities⟩ := stored
    have beside := rests.keeps_entities entities
    obtain ⟨s', dropped, keeps, same, gone⟩ := log_clean_alone cached beside.rests
      ("Updated " ++ r.entity ++ " " ++ id.text ++ ": " ++
        Coordinator.tagList ((changes.map (·.1)).mergeSort fun a b => a ≤ b))
      ((Tag.ofEntity r.entity id (changes.map (·.1))).filter (· != Tag.entity r.entity)) updated
    have written : r.update store id changes s = (.ok updated, s') := by
      unfold update
      rw [Attempt.bind_ok (change_ok run), wanted]
      exact dropped
    rw [written]
    have next := sound.update run
    obtain ⟨before, record, after, form, own, rfl, rfl⟩ := sound.of_update run
    -- The tags are made from the identifier that the caller gave, the records of the cache were tagged with the
    -- one in the row: the two have to be printed alike.
    obtain ⟨printed, announced⟩ := announced record (by simp [form]) own
    refine .one (beside.trans keeps) form (by rw [same]; rfl) (by rw [same]; exact next)
      (fun key entry held => ⟨?_, ?_⟩) announced
    · have named : Tag.id r.entity (idOf record) = Tag.id r.entity id := by rw [Tag.id, Tag.id, printed]
      rw [named]
      apply gone key entry held
      simp [Tag.ofEntity, id_ne_entity]
    · intro name member
      apply gone key entry held
      simp only [Tag.ofEntity, List.mem_filter, mem_distinct, List.mem_cons, bne_iff_ne]
      exact ⟨.inr (.inr (List.mem_map_of_mem member)), field_ne_entity r.entity name⟩

theorem effect_updateOrCreate (rests : s.Rests) (sound : Sound s.host.entities.records)
    (wanted : r.settings.cleanOnCreate = true) (wanted' : r.settings.cleanOnUpdate = true)
    (conditions values : Record)
    (announced : ∀ q found, queryOf conditions = .ok q → s.host.entities.first q = .ok (some found) →
      Announced names found values) :
    Effect r names s (r.updateOrCreate store conditions values s).2 := by
  unfold updateOrCreate
  cases built : queryOf conditions with
  | error e =>
    rw [Attempt.bind_error (ofExcept_eq _ s)]
    exact effect_refl rests
  | ok q =>
    rw [Attempt.bind_ok (ofExcept_eq _ s)]
    have keeps := rests.keeps_entities s.host.entities.counted
    cases selected : s.host.entities.select (q.setLimit (some 1)) with
    | error e =>
      have failed := fetch_eq (q.setLimit (some 1)) s
      rw [selected] at failed
      rw [Attempt.bind_error failed]
      exact .nothing keeps rfl
    | ok rows =>
      have found := fetch_eq (q.setLimit (some 1)) s
      rw [selected] at found
      rw [Attempt.bind_ok found]
      cases rows with
      | nil => exact (effect_create cached keeps.rests sound wanted _).before keeps rfl
      -- The row that was found is the one that is updated, since identifiers are different from row to row.
      | cons record rest =>
        obtain ⟨fields, depends, single⟩ := dependsOn_queryOf built
        have member : record ∈ s.host.entities.records :=
          mem_of_select (depends.setLimit (some 1)) single selected record (by simp)
        refine (effect_update cached keeps.rests sound wanted' _ _ ?_).before keeps rfl
        intro other held own
        cases sound.eq_of_same held member own
        exact ⟨rfl, announced q record built (by simp [EntityStore.first, selected, Except.map])⟩

theorem effect_delete (rests : s.Rests) (sound : Sound s.host.entities.records)
    (wanted : r.settings.cleanOnDelete = true) (id : Value) :
    Effect r names s (r.delete store id s).2 := by
  cases run : s.host.entities.delete id with
  | error e =>
    have failed : r.delete store id s = (.error e, s) := by
      unfold delete
      exact Attempt.bind_error (change_error run)
    rw [failed]
    exact effect_refl rests
  | ok answer =>
    obtain ⟨deleted, entities⟩ := answer
    have beside := rests.keeps_entities entities
    unfold delete
    rw [Attempt.bind_ok (change_ok run)]
    cases deleted with
    | false =>
      obtain ⟨kept, rfl, -, all⟩ := delete_eq_ok run
      rw [all rfl]
      exact .nothing (n := s.host.entities.executions) (rests.keeps_entities _) rfl
    | true =>
      obtain ⟨s', dropped, keeps, same, gone⟩ := log_clean_alone cached beside.rests
        ("Deleted " ++ r.entity ++ " " ++ id.text) (Tag.ofEntity r.entity id) true
      simp only [wanted, if_true]
      have whole : Effect r names s s' := by
        refine .whole (beside.trans keeps) ?_ fun key entry held => gone key entry held _ ?_
        · rw [same]
          exact sound.delete run
        · simp [Tag.ofEntity]
      exact (congrArg Prod.snd dropped) ▸ whole

omit cached in
/-- Identifiers are deleted one by one without fail, and none means no change. -/
theorem delete_each (sound : Sound s.host.entities.records) {ids : List Value}
    (hashable : ∀ id ∈ ids, id.hashable = true) (deleted : List Value) :
    ∃ more records, List.filterAuxM
        (fun id => (inEntities (EntityStore.change fun s => s.delete id) : Attempt (Session CacheHost) Bool))
        ids deleted s =
        (.ok (more ++ deleted), { s with host.entities := { s.host.entities with records := records } }) ∧
      Sound records ∧ (more = [] → records = s.host.entities.records) := by
  induction ids generalizing s deleted with
  | nil => exact ⟨[], s.host.entities.records, rfl, sound, fun _ => rfl⟩
  | cons id rest ih =>
    obtain ⟨b, entities, run⟩ := exists_delete s.host.entities (hashable id (by simp))
    obtain ⟨kept, rfl, within, all⟩ := delete_eq_ok run
    have next : Sound kept := sound.delete run
    have others : ∀ id ∈ rest, id.hashable = true := fun id member => hashable id (by simp [member])
    rw [List.filterAuxM, Attempt.bind_ok (change_ok run)]
    cases b with
    | true =>
      obtain ⟨more, records, went, left, -⟩ := ih
        (s := { s with host.entities := { s.host.entities with records := kept } }) next others (id :: deleted)
      refine ⟨more ++ [id], records, ?_, left, by simp⟩
      rw [List.append_assoc]
      exact went
    | false =>
      obtain ⟨more, records, went, left, same⟩ := ih
        (s := { s with host.entities := { s.host.entities with records := kept } }) next others deleted
      exact ⟨more, records, went, left, fun none => (same none).trans (all rfl)⟩

theorem effect_deleteWhere (rests : s.Rests) (sound : Sound s.host.entities.records)
    (wanted : r.settings.cleanOnDelete = true) (conditions : Record) :
    Effect r names s (r.deleteWhere store conditions s).2 := by
  unfold deleteWhere
  cases built : queryOf conditions with
  | error e =>
    rw [Attempt.bind_error (ofExcept_eq _ s)]
    exact effect_refl rests
  | ok q =>
    rw [Attempt.bind_ok (ofExcept_eq _ s)]
    have counted := rests.keeps_entities s.host.entities.counted
    have found := fetch_eq q s
    cases selected : s.host.entities.select q with
    | error e =>
      rw [selected] at found
      rw [Attempt.bind_error found]
      exact .nothing counted rfl
    | ok rows =>
      rw [selected] at found
      rw [Attempt.bind_ok found]
      obtain ⟨fields, depends, single⟩ := dependsOn_queryOf built
      have hashable : ∀ id ∈ rows.map idOf, id.hashable = true := by
        intro id member
        obtain ⟨record, held, rfl⟩ := List.mem_map.1 member
        exact sound.hashable record (mem_of_select depends single selected record held)
      obtain ⟨more, records, went, left, same⟩ := delete_each
        (s := { s with host.entities := s.host.entities.counted }) sound hashable []
      have deletes : ((rows.map idOf).filterM fun id =>
          (inEntities (EntityStore.change fun s => s.delete id) : Attempt (Session CacheHost) Bool))
          { s with host.entities := s.host.entities.counted } =
          (.ok more.reverse,
            { s with host.entities := { s.host.entities.counted with records := records } }) := by
        rw [List.filterM, Attempt.bind_ok went, List.append_nil]
        rfl
      rw [Attempt.bind_ok deletes, wanted]
      have beside := rests.keeps_entities { s.host.entities.counted with records := records }
      -- Where nothing was deleted nothing is dropped, and the records are what they were.
      cases more with
      | nil =>
        rw [same rfl] at beside ⊢
        obtain ⟨keeps, entities⟩ := report_alone beside.rests [⟨.debug, "core",
          "Deleted " ++ toString ([] : List Value).length ++ " " ++ r.entity ++ " entities"⟩]
        exact .nothing (beside.trans keeps) entities
      | cons id rest =>
        obtain ⟨t, dropped, keeps, entities, gone⟩ := clean_alone cached beside.rests
          (((id :: rest).reverse).map (Tag.ofEntity r.entity ·)).flatten
        have some : ((id :: rest).reverse).isEmpty = false := by simp
        simp only [some, Bool.not_false, Bool.and_self]
        rw [Attempt.bind_ok dropped]
        have whole : Effect r names s t := by
          refine .whole (beside.trans keeps) (by rw [entities]; exact left) fun key entry held => ?_
          apply gone key entry held
          simp [Tag.ofEntity]
        obtain ⟨keeps', entities'⟩ := report_alone keeps.rests [⟨.debug, "core",
          "Deleted " ++ toString ((id :: rest).reverse).length ++ " " ++ r.entity ++ " entities"⟩]
        exact whole.after keeps' entities'

end Repository

/-- An update names the dotted fields that it changes, and its record as that is told by tags. -/
def Writing.Announces (names : Set String) (entities : EntityStore) : Writing → Prop
  | .update id changes => ∀ record ∈ entities.records, EntityStore.hasId id record = true →
    Tag.valueText (EntityStore.idOf record) = Tag.valueText id ∧
      EntityStore.Announced names record changes
  | .updateOrCreate conditions values => ∀ q found, Repository.queryOf conditions = .ok q →
    entities.first q = .ok (some found) → EntityStore.Announced names found values
  | _ => True

/-- The settings drop cached reads on every kind of write. -/
structure RepositorySettings.Cleans (settings : RepositorySettings) : Prop where
  create : settings.cleanOnCreate = true
  update : settings.cleanOnUpdate = true
  delete : settings.cleanOnDelete = true

open Session in
theorem Repository.effect_run {r : Repository} {names : Set String} {s : Session CacheHost}
    (cached : r.cached = true) (cleans : r.settings.Cleans) (rests : s.Rests)
    (sound : EntityStore.Sound s.host.entities.records) (writing : Writing)
    (announced : writing.Announces names s.host.entities) :
    Effect r names s (writing.run store r s) := by
  cases writing with
  | create attributes => exact effect_create cached rests sound cleans.create attributes
  | update id changes => exact effect_update cached rests sound cleans.update id changes announced
  | updateOrCreate conditions values =>
    exact effect_updateOrCreate cached rests sound cleans.create cleans.update conditions values announced
  | delete id => exact effect_delete cached rests sound cleans.delete id
  | deleteWhere conditions => exact effect_deleteWhere cached rests sound cleans.delete conditions

end QueryCache
