import QueryCache.Proofs.Entity.Paging
import QueryCache.Proofs.Predicate.Agreement
import QueryCache.Proofs.Repository.Effect

/-! Changing or creating an entity twice with the same arguments.

The first call leaves what the second one looks for: a record that was changed keeps the fields it was
found by, and one that was created has them. Null is the exception. Nothing compares with null, so with a
null among the conditions no record is ever found, and each call creates one, in the place of the one
before if an identifier is given, and beside it otherwise. -/

set_option autoImplicit false

namespace QueryCache

open Outcome

namespace Value

theorem same_self_of_isPlain {v : Value} (plain : v.isPlain = true) : v.same v = true := by
  cases v with
  | null | bool | int | str => exact (same_iff_atom rfl).2 ⟨_, rfl, rfl⟩
  | _ => cases plain

/-- A value is read as one of its own type as it is. -/
theorem equal_coerced_self {v : Value} (plain : v.isPlain = true) : v.equal (v.coercedLike v) = true := by
  have alike : v.coercedLike v = v := by
    unfold coercedLike
    split <;> rfl
  have equal_eq : v.equal v = v.same v := by
    unfold equal
    split
    · cases plain
    · rfl
  rw [alike, equal_eq, same_self_of_isPlain plain]

theorem equal_null {v : Value} (present : v.isNull = false) : v.equal .null = false := by
  cases v with
  | null => cases present
  | _ => simp [equal, same, number?]

end Value

namespace EntityStore

variable {s s' : EntityStore} {conditions values record entity : Record}

/-! ## Conditions -/

/-- Whether a record has the value of a condition; null is no value to have. -/
def meets (record : Record) (condition : String × Value) : Bool :=
  let actual := (record.get? condition.1).getD .null
  !actual.isNull && actual.equal (actual.coercedLike condition.2)

def meetsAll (conditions record : Record) : Bool := conditions.all (meets record)

/-- Conditions on fields of the record itself, with values that are compared as they are. -/
def ArePlain (conditions : Record) : Prop :=
  ∀ condition ∈ conditions, '.' ∉ condition.1.toList ∧ condition.2.isPlain = true

theorem holds_condition {condition : String × Value} (plain : '.' ∉ condition.1.toList) (record : Record) :
    (Predicate.field condition.1 .eq [condition.2]).holds (.dict record) = .ok (meets record condition) := by
  have actual : Value.field (.dict record) condition.1 = (record.get? condition.1).getD .null :=
    Value.field_of_plain _ plain
  rw [Predicate.holds, Predicate.fieldHolds, actual, meets]
  cases null : ((record.get? condition.1).getD .null).isNull with
  | true => simp [Predicate.holdsOf, Predicate.holdsOfAny?, null]
  | false => simp [Predicate.holdsOf_eq null]

theorem allHold_conditions (plain : ArePlain conditions) (record : Record) :
    Predicate.allHold (.dict record) (conditions.map fun c => .field c.1 .eq [c.2]) =
      .ok (meetsAll conditions record) := by
  induction conditions with
  | nil => rfl
  | cons condition rest ih =>
    obtain ⟨first, others⟩ := List.forall_mem_cons.1 plain
    rw [List.map_cons, Predicate.allHold, holds_condition first.1, ih others]
    cases met : meets record condition <;> simp [meetsAll, met, bind, Except.bind, pure, Except.pure]

/-- A record that has the values of the conditions meets them. -/
theorem meetsAll_of_get? (plain : ArePlain conditions) (present : ∀ condition ∈ conditions, condition.2.isNull = false)
    (held : ∀ condition ∈ conditions, record.get? condition.1 = some condition.2) :
    meetsAll conditions record = true := by
  refine List.all_eq_true.2 fun condition member => ?_
  simp [meets, held condition member, present condition member, Value.equal_coerced_self (plain condition member).2]

/-- Whether a record meets conditions is told by their fields. -/
theorem meetsAll_congr {other : Record}
    (same : ∀ condition ∈ conditions, record.get? condition.1 = other.get? condition.1) :
    meetsAll conditions record = meetsAll conditions other := by
  rw [meetsAll, meetsAll, Bool.eq_iff_iff, List.all_eq_true, List.all_eq_true]
  refine forall₂_congr fun condition member => ?_
  rw [meets, meets, same condition member]

/-- No record meets a condition of null. -/
theorem meetsAll_of_null {condition : String × Value} (member : condition ∈ conditions)
    (null : condition.2.isNull = true) (record : Record) : meetsAll conditions record = false := by
  refine List.all_eq_false.2 ⟨condition, member, ?_⟩
  obtain ⟨name, v⟩ := condition
  cases v with
  | null =>
    -- Whatever type it is read as, null stays null.
    unfold meets
    cases absent : ((record.get? name).getD .null).isNull with
    | true => simp [absent]
    | false => simp [Value.coercedLike, Value.equal_null absent]
  | _ => cases null

/-! ## Storing -/

/-- Changes the first record that meets conditions, or stores one that does. -/
def upsert (s : EntityStore) (conditions values : Record) : Except Failure (Record × EntityStore) :=
  match s.records.find? (meetsAll conditions) with
  | some found => s.counted.update (idOf found) values
  | none => s.counted.insert (conditions.setAll values)

/-- What stands before a stored record was there before. -/
theorem exists_place (record : Record) (records : List Record) :
    ∃ before after, place record records = before ++ record :: after ∧ ∀ other ∈ before, other ∈ records := by
  rcases place_cases record records with ⟨before, other, after, rfl, -, -, placed⟩ | ⟨-, placed⟩
  · exact ⟨before, after, placed, fun other member => by simp [member]⟩
  · exact ⟨records, [], placed, fun _ member => member⟩

/-- A record that has been stored is what the same call finds again, and leaves as it is. -/
theorem upsert_of_found {before after : List Record} (sound : Sound s.records)
    (form : s.records = before ++ record :: after) (skipped : ∀ other ∈ before, meetsAll conditions other = false)
    (met : meetsAll conditions record = true) (own : hasId (idOf record) record = true)
    (shown : ∀ change ∈ values.filter (·.1 != "id"), record.get? change.1 = some change.2) :
    s.upsert conditions values = .ok (record, s.counted) := by
  have search : s.records.find? (meetsAll conditions) = some record := by
    rw [form, List.find?_append, List.find?_eq_none.2 (by simpa using skipped), List.find?_cons_of_pos met]
    rfl
  rw [upsert, search]
  exact Sound.update_of_mem (s := s.counted) sound (by simp [counted, form]) own shown

/-- A call that finds a record changes it, and finds it again. -/
theorem upsert_changed {found : Record} (sound : Sound s.records)
    (distinct : ((conditions ++ values).map Prod.fst).Nodup)
    (search : s.records.find? (meetsAll conditions) = some found)
    (written : s.counted.update (idOf found) values = .ok (entity, s')) :
    s'.upsert conditions values = .ok (entity, s'.counted) := by
  have sound' : Sound s'.records := Sound.update (s := s.counted) sound written
  obtain ⟨before, record, after, form, own, rfl, rfl⟩ := Sound.of_update (s := s.counted) sound written
  change s.records = _ at form
  rw [form] at search sound
  cases sound.eq_of_same (by simp) (List.mem_of_find?_eq_some search) own
  rw [List.map_append, List.nodup_append] at distinct
  obtain ⟨-, unique, apart⟩ := distinct
  refine upsert_of_found sound' rfl (fun other member => ?_) ?_ ?_ fun change member => ?_
  · -- A record that is met earlier would have been found in place of this one.
    by_contra earlier
    rw [List.find?_append] at search
    cases first : before.find? (meetsAll conditions) with
    | none => exact earlier (by simpa using List.find?_eq_none.1 first other member)
    | some met =>
      rw [first] at search
      cases search
      have apart := (List.pairwise_append.1 sound.apart).2.2 found (List.mem_of_find?_eq_some first) found (by simp)
      cases own.symm.trans apart.1
  · rw [← List.find?_some search]
    refine meetsAll_congr fun condition member => Record.get?_setAll_of_not_mem found fun named => ?_
    obtain ⟨change, held, same⟩ := List.mem_map.1 named
    exact apart _ (List.mem_map_of_mem member) _ (List.mem_map_of_mem (List.mem_filter.1 held).1) same.symm
  · rw [hasId, idOf_setAll]
    exact own
  · refine Record.get?_setAll_of_mem found ?_ member
    exact unique.sublist (List.filter_sublist.map Prod.fst)

/-- What is stored of conditions and values has all of them. -/
theorem get?_merged (distinct : ((conditions ++ values).map Prod.fst).Nodup) :
    ∀ field ∈ conditions ++ values, (conditions.setAll values).get? field.1 = some field.2 := by
  rw [List.map_append, List.nodup_append] at distinct
  obtain ⟨unique, unique', apart⟩ := distinct
  intro field member
  rcases List.mem_append.1 member with asked | set
  · rw [Record.get?_setAll_of_not_mem _ fun named => apart _ (List.mem_map_of_mem asked) _ named rfl]
    exact lookup_of_mem unique asked
  · exact Record.get?_setAll_of_mem conditions unique' set

/-- A call that finds nothing creates a record, and finds it. -/
theorem upsert_created (sound : Sound s.records) (plain : ArePlain conditions)
    (distinct : ((conditions ++ values).map Prod.fst).Nodup)
    (own : hasId (idOf (conditions.setAll values)) (conditions.setAll values) = true)
    (present : ∀ condition ∈ conditions, condition.2.isNull = false)
    (missed : ∀ record ∈ s.records, meetsAll conditions record = false)
    (written : s.counted.insert (conditions.setAll values) = .ok (entity, s')) :
    s'.upsert conditions values = .ok (entity, s'.counted) := by
  have sound' : Sound s'.records := Sound.insert (s := s.counted) sound written
  have merged := get?_merged distinct
  rcases insert_cases written with ⟨absent, rfl, stored⟩ | ⟨-, -, rfl, stored⟩
  · -- No condition is on the identifier, for then there would be one.
    have elsewhere (condition) (member : condition ∈ conditions) : condition.1 ≠ "id" := by
      intro same
      have held := merged condition (by simp [member])
      rw [same] at held
      rw [idOf, held] at absent
      cases absent.symm.trans (present condition member)
    refine upsert_of_found sound' stored missed ?_ ?_ fun change member => ?_
    · refine meetsAll_of_get? plain present fun condition member => ?_
      rw [Record.get?_set, if_neg (elsewhere condition member)]
      exact merged condition (by simp [member])
    · rw [hasId, idOf_set]
      exact Value.same_self_of_isPlain rfl
    · obtain ⟨held, other⟩ := List.mem_filter.1 member
      rw [Record.get?_set, if_neg (by simpa using other)]
      exact merged change (by simp [held])
  · -- It may stand in the place of another record with its identifier.
    obtain ⟨before, after, placed, within⟩ := exists_place (conditions.setAll values) s.counted.records
    refine upsert_of_found sound' (stored.trans placed) (fun other member => missed other (within other member))
      ?_ own fun change member => ?_
    · exact meetsAll_of_get? plain present fun condition member => merged condition (by simp [member])
    · exact merged change (by simp [(List.mem_filter.1 member).1])

/-- Whether calls create at most one record: every condition can be met, or the identifier is given. -/
def Settles (conditions values : Record) : Prop :=
  (∀ condition ∈ conditions, condition.2.isNull = false) ∨ (idOf (conditions.setAll values)).isNull = false

/-- What a call gives and leaves after one that gave `entity` and left `records`. -/
structure Repeats (conditions values entity : Record) (records : List Record) (again : Record)
    (records' : List Record) : Prop where
  settled : Settles conditions values → again = entity ∧ records' = records
  unsettled : ¬Settles conditions values → again = entity.set "id" (idOf again) ∧ records' = records ++ [again] ∧
    ∀ record ∈ records, hasId (idOf again) record = false

/-- Where nothing can be found, what has no identifier is created each time, under another number. -/
theorem upsert_repeated (sound : Sound s'.records) {condition : String × Value} (member : condition ∈ conditions)
    (null : condition.2.isNull = true)
    (own : hasId (idOf (conditions.setAll values)) (conditions.setAll values) = true)
    (written : s.insert (conditions.setAll values) = .ok (entity, s')) :
    ∃ again s'', s'.upsert conditions values = .ok (again, s'') ∧
      Repeats conditions values entity s'.records again s''.records := by
  have search : s'.records.find? (meetsAll conditions) = none := by
    simpa using fun record _ => meetsAll_of_null member null record
  have unmet : ¬∀ condition ∈ conditions, condition.2.isNull = false :=
    fun present => by cases null.symm.trans (present condition member)
  rw [upsert, search]
  rcases insert_cases written with ⟨absent, rfl, -⟩ | ⟨given, hashable, rfl, stored⟩
  · have hashable : (idOf (conditions.setAll values)).hashable = true := by
      cases id : idOf (conditions.setAll values) with
      | null => rfl
      | _ => rw [id] at absent; cases absent
    obtain ⟨again, s'', second⟩ := exists_insert s'.counted hashable
    refine ⟨again, s'', second, ⟨fun settles => ?_, fun _ => ?_⟩⟩
    · cases absent.symm.trans (settles.resolve_left unmet)
    · rcases insert_cases second with ⟨-, rfl, stored⟩ | ⟨given, -⟩
      · refine ⟨by rw [idOf_set, Record.set_set], stored, ?_⟩
        rw [idOf_set]
        exact Sound.freeId (s := s'.counted) sound
      · cases absent.symm.trans given
  · -- What was stored under its identifier is stored over itself.
    obtain ⟨again, s'', second⟩ := exists_insert s'.counted hashable
    refine ⟨again, s'', second, ⟨fun _ => ?_, fun unsettled => absurd (.inr given) unsettled⟩⟩
    rcases insert_cases second with ⟨absent, -⟩ | ⟨-, -, rfl, stored'⟩
    · cases absent.symm.trans given
    · obtain ⟨before, after, placed, -⟩ := exists_place (conditions.setAll values) s.records
      refine ⟨rfl, stored'.trans (sound.place_of_mem ?_ own)⟩
      rw [stored, placed]
      simp

/-- A call that is made twice stores one record, or one each time. -/
theorem upsert_again (sound : Sound s.records) (plain : ArePlain conditions)
    (distinct : ((conditions ++ values).map Prod.fst).Nodup)
    (own : hasId (idOf (conditions.setAll values)) (conditions.setAll values) = true)
    (written : s.upsert conditions values = .ok (entity, s')) :
    ∃ again s'', s'.upsert conditions values = .ok (again, s'') ∧
      Repeats conditions values entity s'.records again s''.records := by
  unfold upsert at written
  by_cases present : ∀ condition ∈ conditions, condition.2.isNull = false
  · refine ⟨entity, s'.counted, ?_, ⟨fun _ => ⟨rfl, rfl⟩, fun unsettled => absurd (.inl present) unsettled⟩⟩
    cases search : s.records.find? (meetsAll conditions) with
    | some found =>
      rw [search] at written
      exact upsert_changed sound distinct search written
    | none =>
      rw [search] at written
      exact upsert_created sound plain distinct own present (by simpa using search) written
  · obtain ⟨condition, member, null⟩ : ∃ condition ∈ conditions, condition.2.isNull = true := by simpa using present
    have search : s.records.find? (meetsAll conditions) = none := by
      simpa using fun record _ => meetsAll_of_null member null record
    rw [search] at written
    exact upsert_repeated (Sound.insert (s := s.counted) sound written) member null own written

end EntityStore

namespace Repository

open EntityStore

section

variable {σ : Type} {cache : CacheStore σ} {r : Repository} {s s' : Session σ} {conditions values entity : Record}
  {entities : EntityStore}

/-! ## Writes that store -/

/-- The query of plain conditions asks for their values one by one. -/
theorem queryOf_plain (plain : ArePlain conditions) :
    queryOf conditions = .ok { wheres := conditions.map fun c => .field c.1 .eq [c.2] } := by
  have each : ∀ condition ∈ conditions,
      Criterion.ofCondition condition = .ok (.field condition.1 .eq [condition.2]) := by
    rintro ⟨name, v⟩ member
    have known := (plain _ member).2
    cases v with
    | tuple => cases known
    | _ => rfl
  have made : Criterion.ofConditions conditions = .ok (conditions.map fun c => .field c.1 .eq [c.2]) :=
    mapM_eq_ok.2 (List.forall₂_map_right_iff.2 (List.forall₂_same.2 each))
  rw [queryOf, made]
  refine (Criterion.foldlM_conditions (Criterion.isCondition_of_ofConditions made) {}).trans ?_
  simp [Criterion.predicate, Function.comp_def]

/-- The first record that meets plain conditions is what their query answers with. -/
theorem select_plain (plain : ArePlain conditions) {q : QueryState} (built : queryOf conditions = .ok q) :
    entities.select (q.setLimit (some 1)) = .ok (entities.records.find? (meetsAll conditions)).toList := by
  cases (queryOf_plain plain).symm.trans built
  have matching : Rows.matching (.all (conditions.map fun c => .field c.1 .eq [c.2])) entities.records =
      .ok (entities.records.filter (meetsAll conditions)) :=
    filterM_of_decided fun record _ => allHold_conditions plain record
  have rows : entities.rows (QueryState.setLimit { wheres := conditions.map fun c => .field c.1 .eq [c.2] } (some 1)) =
      .ok (entities.records.filter (meetsAll conditions)) := by
    unfold EntityStore.rows
    exact (congrArg (· >>= _) matching).trans rfl
  rw [select_bare _ rfl rfl, rows]
  change Except.ok (Rows.cut (some (0 : Nat)) (some (1 : Nat)) (entities.records.filter (meetsAll conditions))) = _
  rw [Rows.cut_eq, List.drop_zero, List.take_one, List.head?_filter]

/-- A session after a write to its entities that is reported. -/
def wrote (cache : CacheStore σ) (s : Session σ) (entities : EntityStore) (text : String) : Session σ :=
  ({ s with host.entities := entities } : Session σ).report (Backing.store cache) [⟨.debug, "core", text⟩]

/-- What dropping cached reads after some write fails with. -/
def FailsToDrop (cache : CacheStore σ) (r : Repository) (s : Session σ) (e : Failure) : Prop :=
  ∃ entities text tags, (r.invalidate cache tags (wrote cache s entities text)).1 = .error e

/-- A run that leaves these entities, and answers with one of them unless cached reads cannot be dropped. -/
structure Stores (cache : CacheStore σ) (r : Repository) (s : Session σ) (entity : Record) (entities : EntityStore)
    (run : Except Failure Record × Session σ) : Prop where
  entities : run.2.host.entities = entities
  answer : run.1 = .ok entity ∨ ∃ e, run.1 = .error e ∧ FailsToDrop cache r s e

theorem entities_invalidate (tags : List String) (s : Session σ) :
    (r.invalidate cache tags s).2.host.entities = s.host.entities := by
  unfold invalidate
  split
  · rw [Session.invalidate_front]
    rfl
  · rfl

/-- A write stays done whatever comes of the cached reads that are to be dropped after it. -/
theorem stores_logged (entities : EntityStore) (text : String) (wanted : Bool) (tags : List String) :
    Stores cache r s entity entities ((do
      log cache text
      r.clean cache wanted tags
      return entity : Attempt (Session σ) Record) { s with host.entities := entities }) := by
  have logged : log cache text { s with host.entities := entities } = (.ok (), wrote cache s entities text) := rfl
  have kept : (wrote cache s entities text).host.entities = entities := by
    rw [wrote, Session.report_front]
    rfl
  rw [Attempt.bind_ok logged]
  cases wanted with
  | false => exact ⟨kept, .inl rfl⟩
  | true =>
    have dropped : (r.invalidate cache tags (wrote cache s entities text)).2.host.entities = _ :=
      entities_invalidate tags (wrote cache s entities text)
    cases run : r.invalidate cache tags (wrote cache s entities text) with
    | mk outcome after =>
      rw [run] at dropped
      -- The entities are those of the write in either case; a reply that failed is the one of the cache.
      cases outcome with
      | ok done =>
        have cleaned : r.clean cache true tags (wrote cache s entities text) = (.ok (), after) := by
          unfold clean
          simp only [if_true]
          rw [Attempt.bind_ok run]
          rfl
        rw [Attempt.bind_ok cleaned]
        exact ⟨dropped.trans kept, .inl rfl⟩
      | error e =>
        have failed : r.clean cache true tags (wrote cache s entities text) = (.error e, after) := by
          unfold clean
          simp only [if_true]
          exact Attempt.bind_error run
        rw [Attempt.bind_error failed]
        exact ⟨dropped.trans kept, .inr ⟨e, rfl, entities, text, tags, congrArg Prod.fst run⟩⟩

theorem stores_create {attributes : Record} (run : s.host.entities.insert attributes = .ok (entity, entities)) :
    Stores cache r s entity entities (r.create cache attributes s) := by
  unfold create
  rw [Attempt.bind_ok (change_ok run)]
  exact stores_logged entities _ _ _

theorem stores_update {id : Value} {changes : Record}
    (run : s.host.entities.update id changes = .ok (entity, entities)) :
    Stores cache r s entity entities (r.update cache id changes s) := by
  unfold update
  rw [Attempt.bind_ok (change_ok run)]
  exact stores_logged entities _ _ _

/-- Reports and the cache aside, a call is one on the entities. -/
theorem updateOrCreate_upsert (plain : ArePlain conditions) :
    (∀ entity entities, s.host.entities.upsert conditions values = .ok (entity, entities) →
      Stores cache r s entity entities (r.updateOrCreate cache conditions values s)) ∧
    ∀ e, s.host.entities.upsert conditions values = .error e →
      (r.updateOrCreate cache conditions values s).1 = .error e := by
  obtain ⟨q, built⟩ : ∃ q, queryOf conditions = .ok q := ⟨_, queryOf_plain plain⟩
  have found := fetch_eq (q.setLimit (some 1)) s
  rw [select_plain plain built] at found
  let next : Session σ := { s with host.entities := s.host.entities.counted }
  unfold updateOrCreate upsert
  rw [built, Attempt.bind_ok (ofExcept_eq _ s), Attempt.bind_ok found]
  cases s.host.entities.records.find? (meetsAll conditions) with
  | some record =>
    refine ⟨fun entity entities run => ?_, fun e run => ?_⟩
    · have stores : Stores cache r next entity entities _ := stores_update run
      exact ⟨stores.entities, stores.answer⟩
    · exact congrArg Prod.fst (Attempt.bind_error (change_error (s := next) run))
  | none =>
    refine ⟨fun entity entities run => ?_, fun e run => ?_⟩
    · have stores : Stores cache r next entity entities _ := stores_create run
      exact ⟨stores.entities, stores.answer⟩
    · exact congrArg Prod.fst (Attempt.bind_error (change_error (s := next) run))

/-- A second call with the same arguments gives the same entity and leaves the others as they are, if every
condition can be met or the identifier is given. Otherwise it creates one more, like the first but for a
number of its own. It comes back where cached reads can be dropped. -/
theorem updateOrCreate_again (sound : Sound s.host.entities.records) (plain : ArePlain conditions)
    (distinct : ((conditions ++ values).map Prod.fst).Nodup)
    (own : hasId (idOf (conditions.setAll values)) (conditions.setAll values) = true)
    (written : r.updateOrCreate cache conditions values s = (.ok entity, s')) :
    ∃ again entities, Stores cache r s' again entities (r.updateOrCreate cache conditions values s') ∧
      Repeats conditions values entity s'.host.entities.records again entities.records := by
  cases stored : s.host.entities.upsert conditions values with
  | error e =>
    have failed : (r.updateOrCreate cache conditions values s).1 = .error e := (updateOrCreate_upsert plain).2 e stored
    rw [written] at failed
    cases failed
  | ok result =>
    obtain ⟨created, entities⟩ := result
    have stores : Stores cache r s created entities (r.updateOrCreate cache conditions values s) :=
      (updateOrCreate_upsert plain).1 created entities stored
    rw [written] at stores
    obtain ⟨rfl, ⟨⟨⟩⟩ | ⟨e, ⟨⟩, -⟩⟩ := stores
    obtain ⟨again, entities', second, repeats⟩ := upsert_again sound plain distinct own stored
    exact ⟨again, entities', (updateOrCreate_upsert plain).1 again entities' second, repeats⟩

end

/-- Cached reads in memory can be dropped between two calls. -/
theorem drops_alone {r : Repository} {s : Session CacheHost} (rests : s.Rests) (e : Failure) :
    ¬FailsToDrop Session.store r s e := by
  rintro ⟨entities, text, tags, failed⟩
  have logged := (Session.report_alone (rests.keeps_entities entities).rests [⟨.debug, "core", text⟩]).1
  unfold invalidate at failed
  split at failed
  · obtain ⟨s', run, -⟩ := Session.invalidate_alone logged.rests tags
    rw [wrote, run] at failed
    cases failed
  · cases failed

/-- A new user is created once. -/
theorem updateOrCreate_again_new :
    let r : Repository := { entity := "user" }
    let s : Session CacheHost := { host := ⟨{}, {
      entity := "user", records := [[("id", .int 1), ("email", .str "ada@example.com")]] }⟩ }
    let conditions : Record := [("email", .str "new@example.com"), ("age", .int 40)]
    let values : Record := [("name", .str "New")]
    let entity : Record := [("email", .str "new@example.com"), ("age", .int 40), ("name", .str "New"), ("id", .int 2)]
    ∃ s' s'', r.updateOrCreate Session.store conditions values s = (.ok entity, s') ∧
      s'.host.entities.records = s.host.entities.records ++ [entity] ∧
      r.updateOrCreate Session.store conditions values s' = (.ok entity, s'') ∧
      s''.host.entities.records = s'.host.entities.records := by
  intro r s conditions values entity
  have filled : ofRecords "user" [] s.host.entities.records = .ok s.host.entities := rfl
  have sound := sound_ofRecords filled
  have rests : s.Rests := ⟨rfl, nofun, rfl⟩
  have plain : ArePlain conditions := by
    simp [ArePlain, conditions, Value.isPlain]
  have missed : s.host.entities.records.find? (meetsAll conditions) = none :=
    Option.isNone_iff_eq_none.1 (by decide +kernel)
  have free : s.host.entities.counted.freeId = 2 := by decide +kernel
  have hashable : (idOf (conditions.setAll values)).hashable = true := rfl
  obtain ⟨created, entities, stored⟩ := exists_insert s.host.entities.counted hashable
  have once : Stores Session.store r s created entities (r.updateOrCreate Session.store conditions values s) := by
    refine (updateOrCreate_upsert plain).1 created entities ?_
    rw [upsert, missed]
    exact stored
  rcases insert_cases stored with ⟨-, rfl, placed⟩ | ⟨⟨⟩, -⟩
  rw [free] at once placed
  have written : r.updateOrCreate Session.store conditions values s = (.ok entity, _) :=
    Prod.ext (once.answer.resolve_right fun ⟨e, _, fails⟩ => drops_alone rests e fails) rfl
  have effect : Effect r ∅ s (r.updateOrCreate Session.store conditions values s).2 :=
    effect_run rfl ⟨rfl, rfl, rfl⟩ rests sound (.updateOrCreate conditions values) fun _ _ _ _ _ => nofun
  obtain ⟨again, entities', twice, repeats⟩ := updateOrCreate_again sound plain (by decide) (by decide +kernel) written
  obtain ⟨rfl, same⟩ := repeats.settled (.inl (by simp [conditions, Value.isNull]))
  have answered := twice.answer.resolve_right fun ⟨e, _, fails⟩ => drops_alone effect.keeps.rests e fails
  refine ⟨_, _, written, ?_, Prod.ext answered rfl, ?_⟩
  · exact (congrArg EntityStore.records once.entities).trans placed
  · rw [twice.entities, same]

/-- No record has an absent address, so two users without one are created. -/
theorem updateOrCreate_creates_twice :
    let r : Repository := { entity := "user" }
    let s : Session CacheHost := { host := ⟨{}, { entity := "user" }⟩ }
    let first := r.updateOrCreate Session.store [("email", .null)] [] s
    let second := r.updateOrCreate Session.store [("email", .null)] [] first.2
    let gives (outcome : Except Failure Record) (entity : Record) : Bool :=
      outcome.toOption.any fun record => (Value.dict record).same (.dict entity)
    gives first.1 [("email", .null), ("id", .int 1)] = true ∧ first.2.host.entities.records.length = 1 ∧
      gives second.1 [("email", .null), ("id", .int 2)] = true ∧ second.2.host.entities.records.length = 2 := by
  decide +kernel

end Repository

end QueryCache
