import QueryCache.Proofs.Entity.Keys
import QueryCache.Proofs.Repository.Repetition

/-! Deleting the entities that meet conditions, from a store after any changes.

The identifiers to delete are read off the rows of a query. They take away these rows and no others because
each of them is the key of its record, and no key is there twice. -/

set_option autoImplicit false

namespace QueryCache

open Outcome EntityStore

/-- Whether a record satisfies the conditions of a query. -/
def QueryState.accepts (q : QueryState) (record : Record) : Bool :=
  (q.predicate.holds (.dict record)).toOption = some true

namespace Repository

variable {σ : Type} {cache : CacheStore σ} {r : Repository} {s s' : Session σ} {conditions : Record}

/-- The rows of conditions are the records that satisfy them, in order. -/
theorem select_queryOf {q : QueryState} (built : queryOf conditions = .ok q) {entities : EntityStore}
    {rows : List Record} (selected : entities.select q = .ok rows) :
    (∀ record ∈ entities.records, ∃ answer, q.predicate.holds (.dict record) = .ok answer) ∧
      rows = entities.records.filter q.accepts := by
  obtain ⟨criteria, made, built⟩ := bind_eq_ok.1 built
  rw [Criterion.foldlM_conditions (Criterion.isCondition_of_ofConditions made)] at built
  cases built
  rw [select_bare _ rfl rfl] at selected
  obtain ⟨found, listed, selected⟩ := bind_eq_ok.1 selected
  obtain ⟨matching, matched, listed⟩ := bind_eq_ok.1 listed
  cases listed
  obtain ⟨answered, chosen⟩ := filterM_eq_ok matched
  refine ⟨answered, ?_⟩
  cases selected
  rw [Rows.cut_none]
  exact chosen

/-- Records that are there are deleted by their identifiers, one after the other. -/
theorem filterM_delete (sound : Sound s.host.entities.records)
    (own : ∀ record ∈ s.host.entities.records, hasId (idOf record) record = true) {gone : List Record}
    (held : gone ⊆ s.host.entities.records) (apart : gone.Pairwise Apart) :
    (gone.map idOf).filterM
        (fun id => (inEntities (EntityStore.change fun s => s.delete id) : Attempt (Session σ) Bool)) s =
      (.ok (gone.map idOf), { s with host.entities := { s.host.entities with
        records := s.host.entities.records.filter fun record => !gone.any fun g => hasId (idOf g) record } }) := by
  suffices ∀ acc, List.filterAuxM
      (fun id => (inEntities (EntityStore.change fun s => s.delete id) : Attempt (Session σ) Bool))
      (gone.map idOf) acc s = (.ok ((gone.map idOf).reverse ++ acc), { s with host.entities := { s.host.entities with
        records := s.host.entities.records.filter fun record => !gone.any fun g => hasId (idOf g) record } }) by
    rw [List.filterM, Attempt.bind_ok (this [])]
    rw [List.append_nil]
    change (Except.ok (gone.map idOf).reverse.reverse, _) = _
    rw [List.reverse_reverse]
  induction gone generalizing s with
  | nil =>
    intro acc
    have all : (s.host.entities.records.filter fun _ => true) = s.host.entities.records := by simp
    simp only [List.any_nil, Bool.not_false, all]
    rfl
  | cons first rest ih =>
    intro acc
    obtain ⟨member, others⟩ := List.cons_subset.1 held
    obtain ⟨unlike, apart⟩ := List.pairwise_cons.1 apart
    have there : s.host.entities.records.any (hasId (idOf first)) = true :=
      List.any_eq_true.2 ⟨first, member, own first member⟩
    have deleted := delete_of_hashable (s := s.host.entities) (sound.hashable first member)
    rw [there] at deleted
    -- The other records to be deleted are still there.
    have left {record : Record} (other : record ∈ rest) : record ∈
        s.host.entities.records.filter fun record => !hasId (idOf first) record :=
      List.mem_filter.2 ⟨others other, by simp [hasId, (unlike record other).2]⟩
    have next := ih
      (s := { s with host.entities := { s.host.entities with
        records := s.host.entities.records.filter fun record => !hasId (idOf first) record } })
      (sound.delete deleted) (fun record inside => own record (List.mem_filter.1 inside).1)
      (fun record other => left other) apart (idOf first :: acc)
    rw [List.map_cons, List.filterAuxM, Attempt.bind_ok (change_ok deleted)]
    refine next.trans ?_
    simp only [List.filter_filter, List.any_cons, Bool.not_or, Bool.and_comm, List.reverse_cons,
      List.append_assoc, List.singleton_append]

/-- Records that are deleted by their identifiers are those that were chosen. -/
theorem filter_not_any (sound : Sound s.host.entities.records)
    (own : ∀ record ∈ s.host.entities.records, hasId (idOf record) record = true) (chosen : Record → Bool) :
    (s.host.entities.records.filter fun record =>
      !(s.host.entities.records.filter chosen).any fun g => hasId (idOf g) record) =
      s.host.entities.records.filter fun record => !chosen record := by
  refine List.filter_congr fun record member => congrArg _ (Bool.eq_iff_iff.2 ?_)
  rw [List.any_eq_true]
  constructor
  · rintro ⟨g, inside, found⟩
    obtain ⟨held, chose⟩ := List.mem_filter.1 inside
    rwa [sound.eq_of_same member held found]
  · exact fun chose => ⟨record, List.mem_filter.2 ⟨member, chose⟩, own record member⟩

/-- Cached reads are dropped without regard to the entities. -/
theorem entities_clean {wanted : Bool} {tags : List String} {u : Unit}
    (run : r.clean cache wanted tags s = (.ok u, s')) : s'.host.entities = s.host.entities := by
  unfold clean at run
  cases wanted with
  | false =>
    cases run
    rfl
  | true =>
    obtain ⟨done, t, dropped, same⟩ := Attempt.bind_eq_ok.1 run
    cases same
    rw [← entities_invalidate (r := r) tags s, dropped]

/-- When it returns, the records that satisfy the conditions are gone, and it has counted them. -/
theorem deleteWhere_eq_ok (sound : Sound s.host.entities.records)
    (own : ∀ record ∈ s.host.entities.records, hasId (idOf record) record = true) {n : Int}
    (run : r.deleteWhere cache conditions s = (.ok n, s')) :
    ∃ q, queryOf conditions = .ok q ∧
      (∀ record ∈ s.host.entities.records, ∃ answer, q.predicate.holds (.dict record) = .ok answer) ∧
      s'.host.entities = { s.host.entities.counted with
        records := s.host.entities.records.filter fun record => !q.accepts record } ∧
      n = (s.host.entities.records.filter q.accepts).length := by
  unfold deleteWhere at run
  obtain ⟨q, t, asked, run⟩ := Attempt.bind_eq_ok.1 run
  obtain ⟨built, rfl⟩ : queryOf conditions = .ok q ∧ s = t := Prod.mk.inj asked
  obtain ⟨rows, t, found, run⟩ := Attempt.bind_eq_ok.1 run
  rw [fetch_eq] at found
  obtain ⟨selected, rfl⟩ := Prod.mk.inj found
  obtain ⟨answered, rfl⟩ := select_queryOf built selected
  obtain ⟨gone, t, deleted, run⟩ := Attempt.bind_eq_ok.1 run
  have kept : (s.host.entities.records.filter q.accepts).Sublist s.host.entities.records := List.filter_sublist
  have all := filterM_delete (s := { s with host.entities := s.host.entities.counted }) sound own
    kept.subset (sound.apart.sublist kept)
  rw [all] at deleted
  obtain ⟨⟨⟩, rfl⟩ := Prod.mk.inj deleted
  obtain ⟨u, t, cleaned, run⟩ := Attempt.bind_eq_ok.1 run
  obtain ⟨u, t', logged, run⟩ := Attempt.bind_eq_ok.1 run
  cases run
  refine ⟨q, built, answered, ?_, by simp⟩
  cases logged
  rw [Session.report_front]
  refine (entities_clean cleaned).trans ?_
  exact congrArg (fun records => ({ s.host.entities.counted with records := records } : EntityStore))
    (filter_not_any sound own q.accepts)

/-- In a dictionary that is in order, the entries of the records that satisfy the conditions are gone. -/
theorem deleteWhere_keyed {d : KeyedStore} (intact : KeyedStore.Intact d.entries)
    (shown : KeyedStore.Shows s.host.entities d) {n : Int} (run : r.deleteWhere cache conditions s = (.ok n, s')) :
    ∃ q, queryOf conditions = .ok q ∧
      (∀ entry ∈ d.entries, ∃ answer, q.predicate.holds (.dict entry.2) = .ok answer) ∧
      KeyedStore.Shows s'.host.entities { d with entries := d.entries.filter fun entry => !q.accepts entry.2 } ∧
      n = (d.entries.filter fun entry => q.accepts entry.2).length := by
  have own : ∀ record ∈ d.entries.map Prod.snd, hasId (idOf record) record = true :=
    List.forall_mem_map.2 fun entry held => (intact.filed entry held).own
  rw [← shown.records] at own
  obtain ⟨q, built, answered, left, counted⟩ := deleteWhere_eq_ok (shown.records ▸ intact.sound) own run
  rw [shown.records] at answered left counted
  refine ⟨q, built, fun entry member => answered entry.2 (List.mem_map_of_mem member), ?_, ?_⟩
  · rw [left]
    exact ⟨shown.entity, List.filter_map, shown.counter⟩
  · rw [counted, List.filter_map, List.length_map]
    rfl

/-- Every run of changes comes to an end. A store of records is then what the dictionary is, in which each
record is under its identifier, no key is there twice, and a change touches the entry it is addressed to; and
when the records that satisfy some conditions are deleted, the others are what is left. -/
theorem store_integrity (entity : String) (relations : List (String × Relation)) (records : List Record)
    (changes : List Change) (given : ∀ record ∈ records, (idOf record).IsKey)
    (addressed : ∀ change ∈ changes, change.address.IsKey) :
    (∃ placed start answers d, KeyedStore.Runs { entity := entity } (records.map .insert) placed start ∧
      KeyedStore.Runs start changes answers d) ∧
    ∃ filled, ofRecords entity relations records = .ok filled ∧
      ∀ placed start answers d, KeyedStore.Runs { entity := entity } (records.map .insert) placed start →
        KeyedStore.Runs start changes answers d →
        (Change.performAll filled changes).1 = answers ∧ KeyedStore.Shows (Change.performAll filled changes).2 d ∧
        d.Integral ∧
        ∀ (σ : Type) (cache : CacheStore σ) (r : Repository) (s s' : Session σ) (conditions : Record) (n : Int),
          KeyedStore.Shows s.host.entities d → r.deleteWhere cache conditions s = (.ok n, s') →
          ∃ q, queryOf conditions = .ok q ∧
            (∀ entry ∈ d.entries, ∃ answer, q.predicate.holds (.dict entry.2) = .ok answer) ∧
            KeyedStore.Shows s'.host.entities { d with entries := d.entries.filter fun entry => !q.accepts entry.2 } ∧
            n = (d.entries.filter fun entry => q.accepts entry.2).length := by
  have empty : KeyedStore.Intact [] := ⟨by simp, by simp⟩
  have inserted : ∀ change ∈ records.map Change.insert, change.address.IsKey := List.forall_mem_map.2 given
  have blank : KeyedStore.Shows ⟨entity, relations, [], 1, 0⟩ { entity := entity } := ⟨rfl, rfl, rfl⟩
  refine ⟨?_, _, ofRecords_eq entity relations fun record member => (given record member).hashable, ?_⟩
  · obtain ⟨placed, start, fills⟩ := KeyedStore.Intact.exists_runs (d := { entity := entity }) empty inserted
    obtain ⟨intact, -, -⟩ := empty.runs inserted blank fills
    obtain ⟨answers, d, runs⟩ := intact.exists_runs addressed
    exact ⟨placed, start, answers, d, fills, runs⟩
  · intro placed start answers d fills runs
    obtain ⟨intact, -, shows⟩ := empty.runs inserted blank fills
    obtain ⟨intact, answered, shows⟩ := intact.runs addressed shows runs
    exact ⟨answered, shows, intact.integral, fun _ _ _ _ _ _ _ shown run => deleteWhere_keyed intact shown run⟩

/-- `True` and `1` are one key, and neither is given to a record without identifier. -/
theorem store_integrity_true :
    let records : List Record := [[("id", .bool true)], [("name", .str "Ada")]]
    let changes : List Change := [.update (.int 1) [("id", .int 7), ("name", .str "Bob")], .insert [],
      .delete (.int 1)]
    ∃ filled d, ofRecords "user" [] records = .ok filled ∧
      KeyedStore.Shows (Change.performAll filled changes).2 d ∧ d.Integral ∧
      Value.sameAll (d.entries.map fun entry => idOf entry.2) [.int 2, .int 3] = true := by
  intro records changes
  have key (id : Value) (atomic : id.isAtomic = true) (known : id.atom?.isSome = true)
      (hashable : id.hashable = true) : id.IsKey := by
    obtain ⟨atom, found⟩ := Option.isSome_iff_exists.1 known
    exact ⟨hashable, (Value.same_iff_atom atomic).2 ⟨atom, found, found⟩⟩
  obtain ⟨⟨placed, start, answers, d, places, runs⟩, filled, fills, after⟩ :=
    store_integrity "user" [] records changes
      (by simp only [records, List.forall_mem_cons]; exact ⟨key _ rfl rfl rfl, key _ rfl rfl rfl, by simp⟩)
      (by simp only [changes, List.forall_mem_cons]
          exact ⟨key _ rfl rfl rfl, key _ rfl rfl rfl, key _ rfl rfl rfl, by simp⟩)
  obtain ⟨-, shows, integral, -⟩ := after placed start answers d places runs
  refine ⟨filled, d, fills, shows, integral, ?_⟩
  have left : ((ofRecords "user" [] records).toOption.any fun filled =>
      Value.sameAll ((Change.performAll filled changes).2.records.map idOf) [.int 2, .int 3]) = true := by
    decide +kernel
  simpa [fills, Except.toOption, shows.records, Function.comp_def] using left

end Repository

end QueryCache
