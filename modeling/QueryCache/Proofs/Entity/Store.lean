import QueryCache.Entity.Store
import QueryCache.Proofs.Outcome
import QueryCache.Proofs.Value.Same
import Mathlib.Data.Fintype.Pigeonhole
import Mathlib.Data.List.Pairwise

/-! What a store of entities keeps: every record has an identifier to be found by, and no two
records have the same one. A change touches the one record it is addressed to. -/

set_option autoImplicit false

namespace QueryCache

open Outcome

/-! ## Records -/

namespace Record

theorem get?_set (record : Record) (name : String) (value : Value) (other : String) :
    (set record name value).get? other = if other = name then some value else record.get? other := by
  unfold get?
  induction record with
  | nil =>
    by_cases same : other = name
    · simp [set, same]
    · have differ : (other == name) = false := by simpa using same
      simp [set, List.lookup_cons, same, differ]
  | cons field rest ih =>
    obtain ⟨key, old⟩ := field
    by_cases here : key = name
    · subst here
      by_cases same : other = key
      · simp [set, same]
      · have differ : (other == key) = false := by simpa using same
        simp [set, List.lookup_cons, same, differ]
    · by_cases same : other = key
      · simp [set, here, same]
      · have differ : (other == key) = false := by simpa using same
        simp [set, here, List.lookup_cons, differ, ih]

theorem get?_setAll_of_not_mem (record : Record) {changes : Record} {name : String}
    (absent : name ∉ changes.map (·.1)) : (setAll record changes).get? name = record.get? name := by
  induction changes generalizing record with
  | nil => rfl
  | cons change rest ih =>
    simp only [List.map_cons, List.mem_cons, not_or] at absent
    rw [setAll, List.foldl_cons]
    exact (ih (set record change.1 change.2) absent.2).trans (by simp [get?_set, absent.1])

theorem get?_setAll_of_mem (record : Record) {changes : Record} (unique : (changes.map Prod.fst).Nodup)
    {change : String × Value} (member : change ∈ changes) :
    (setAll record changes).get? change.1 = some change.2 := by
  induction changes generalizing record with
  | nil => cases member
  | cons first rest ih =>
    rw [List.map_cons, List.nodup_cons] at unique
    rw [setAll, List.foldl_cons]
    rcases List.mem_cons.1 member with rfl | member
    · exact (get?_setAll_of_not_mem (set record change.1 change.2) unique.1).trans (by simp [get?_set])
    · exact ih (set record first.1 first.2) unique.2 member

theorem set_eq_self {record : Record} {name : String} {value : Value} (held : record.get? name = some value) :
    record.set name value = record := by
  unfold get? at held
  induction record with
  | nil => cases held
  | cons field rest ih =>
    obtain ⟨key, old⟩ := field
    by_cases here : key = name
    · subst here
      rw [List.lookup_cons_self] at held
      cases held
      simp [set]
    · have differ : (name == key) = false := by simpa using fun same => here same.symm
      rw [List.lookup_cons, differ] at held
      simp [set, here, ih held]

theorem set_set (record : Record) (name : String) (old new : Value) :
    (record.set name old).set name new = record.set name new := by
  induction record with
  | nil => simp [set]
  | cons field rest ih =>
    obtain ⟨key, value⟩ := field
    by_cases here : key = name <;> simp [set, here, ih]

/-- Changes that a record already shows are none. -/
theorem setAll_eq_self {record changes : Record} (held : ∀ change ∈ changes, record.get? change.1 = some change.2) :
    record.setAll changes = record := by
  induction changes with
  | nil => rfl
  | cons change rest ih =>
    rw [setAll, List.foldl_cons, set_eq_self (held change (by simp))]
    exact ih fun other member => held other (by simp [member])

end Record

namespace EntityStore

variable {s s' : EntityStore} {record : Record} {id : Value}

/-- Two records that no identifier finds both. -/
def Apart (a b : Record) : Prop :=
  (idOf a).same (idOf b) = false ∧ (idOf b).same (idOf a) = false

theorem Apart.symm {a b : Record} (apart : Apart a b) : Apart b a := ⟨apart.2, apart.1⟩

instance : Std.Symm Apart := ⟨fun _ _ => Apart.symm⟩

/-- What the records of a store are like. -/
structure Sound (records : List Record) : Prop where
  hashable : ∀ record ∈ records, (idOf record).hashable = true
  present : ∀ record ∈ records, (idOf record).isNull = false
  apart : records.Pairwise Apart

/-- Records that one identifier finds are the same record. -/
theorem Sound.eq_of_same {records : List Record} (sound : Sound records) {a b : Record}
    (first : a ∈ records) (second : b ∈ records) (same : (idOf a).same (idOf b) = true) : a = b := by
  by_contra differ
  have apart := sound.apart.forall first second differ
  cases same.symm.trans apart.1

theorem idOf_setAll (record : Record) (changes : Record) :
    idOf (record.setAll (changes.filter (·.1 != "id"))) = idOf record := by
  rw [idOf, idOf, Record.get?_setAll_of_not_mem]
  simp

/-! ## Placing -/

/-- A record takes the place of the first one with its identifier, or stands last. -/
theorem place_cases (record : Record) (records : List Record) :
    (∃ before other after, records = before ++ other :: after ∧
      hasId (idOf record) other = true ∧ (∀ r ∈ before, hasId (idOf record) r = false) ∧
      place record records = before ++ record :: after) ∨
    ((∀ r ∈ records, hasId (idOf record) r = false) ∧ place record records = records ++ [record]) := by
  induction records with
  | nil => exact .inr ⟨by simp, rfl⟩
  | cons other rest ih =>
    cases found : hasId (idOf record) other with
    | true => exact .inl ⟨[], other, rest, rfl, found, by simp, by simp [place, found]⟩
    | false =>
      rcases ih with ⟨before, replaced, after, rfl, same, skipped, placed⟩ | ⟨skipped, placed⟩
      · refine .inl ⟨other :: before, replaced, after, rfl, same, ?_, by simp [place, found, placed]⟩
        simpa [found] using skipped
      · exact .inr ⟨by simpa [found] using skipped, by simp [place, found, placed]⟩

/-- A record is as far from the others as the one whose place it takes. -/
theorem Apart.of_same {a b record : Record} (apart : Apart a b) (hashable : (idOf b).hashable = true)
    (others : (idOf a).hashable = true) (same : (idOf b).same (idOf record) = true) :
    Apart a record := by
  constructor
  · by_contra found
    have back := Value.same_symm hashable same
    have := Value.same_trans others (by simpa using found) back
    cases this.symm.trans apart.1
  · by_contra found
    have := Value.same_trans hashable same (by simpa using found)
    cases this.symm.trans apart.2

/-- Replacing a record by one of the same identifier keeps a store sound. -/
theorem Sound.replace {before after : List Record} {other : Record}
    (sound : Sound (before ++ other :: after))
    (hashable : (idOf record).hashable = true) (present : (idOf record).isNull = false)
    (same : (idOf other).same (idOf record) = true) :
    Sound (before ++ record :: after) := by
  obtain ⟨hashables, presents, apart⟩ := sound
  rw [List.pairwise_append, List.pairwise_cons] at apart
  obtain ⟨firsts, ⟨next, lasts⟩, across⟩ := apart
  have away {r : Record} (member : r ∈ before ++ other :: after) (far : Apart r other) :
      Apart r record :=
    far.of_same (hashables other (by simp)) (hashables r member) same
  refine ⟨?_, ?_, ?_⟩
  · intro r member
    rcases List.mem_append.1 member with first | rest
    · exact hashables r (by simp [first])
    · rcases List.mem_cons.1 rest with rfl | last
      · exact hashable
      · exact hashables r (by simp [last])
  · intro r member
    rcases List.mem_append.1 member with first | rest
    · exact presents r (by simp [first])
    · rcases List.mem_cons.1 rest with rfl | last
      · exact present
      · exact presents r (by simp [last])
  · refine List.pairwise_append.2 ⟨firsts, List.pairwise_cons.2 ⟨fun r last => ?_, lasts⟩, ?_⟩
    · exact (away (by simp [last]) (next r last).symm).symm
    · intro a first b member
      rcases List.mem_cons.1 member with rfl | last
      · exact away (by simp [first]) (across a first other (by simp))
      · exact across a first b (by simp [last])

/-- A record with an identifier of its own may stand last. -/
theorem Sound.append {records : List Record} (sound : Sound records) (hashable : (idOf record).hashable = true)
    (present : (idOf record).isNull = false) (fresh : ∀ r ∈ records, Apart r record) :
    Sound (records ++ [record]) := by
  refine ⟨?_, ?_, ?_⟩
  · intro r member
    rcases List.mem_append.1 member with old | new
    · exact sound.hashable r old
    · cases List.mem_singleton.1 new
      exact hashable
  · intro r member
    rcases List.mem_append.1 member with old | new
    · exact sound.present r old
    · cases List.mem_singleton.1 new
      exact present
  · refine List.pairwise_append.2 ⟨sound.apart, by simp, fun a old b new => ?_⟩
    cases List.mem_singleton.1 new
    exact fresh a old

/-- A record that is there is in its place. -/
theorem Sound.place_of_mem {records : List Record} (sound : Sound records) (member : record ∈ records)
    (own : hasId (idOf record) record = true) : EntityStore.place record records = records := by
  rcases place_cases record records with ⟨before, other, after, form, same, -, placed⟩ | ⟨skipped, -⟩
  · cases sound.eq_of_same (by simp [form]) member same
    rw [placed, form]
  · cases own.symm.trans (skipped record member)

theorem Sound.place {records : List Record} (sound : Sound records)
    (hashable : (idOf record).hashable = true) (present : (idOf record).isNull = false) :
    Sound (place record records) := by
  rcases place_cases record records with
    ⟨before, other, after, rfl, same, -, placed⟩ | ⟨skipped, placed⟩
  · rw [placed]
    exact sound.replace hashable present same
  · rw [placed]
    refine sound.append hashable present fun r member => ⟨skipped r member, ?_⟩
    by_contra found
    have back := Value.same_symm hashable (by simpa using found)
    cases back.symm.trans (skipped r member)

/-! ## Free identifiers -/

theorem power_pos (exponent : Nat) : 0 < power 2 exponent := Nat.pow_pos (by omega)

theorem eq_of_same_int {m n : Int} (same : (Value.int m).same (.int n) = true) : m = n := by
  rw [Value.same_of_numbers rfl rfl (by simp)] at same
  have places : (Extent.at (m * Binary64.unitsPerOne) == .at (n * Binary64.unitsPerOne)) = true := same
  have units : 0 < Binary64.unitsPerOne := by
    unfold Binary64.unitsPerOne
    apply power_pos
  exact Int.eq_of_mul_eq_mul_right (by omega) (Extent.at.inj (beq_iff_eq.1 places))

/-- A record that two numbers find has only one of them. -/
theorem Sound.eq_of_hasId (sound : Sound s.records) (member : record ∈ s.records) {m n : Int}
    (first : hasId (.int m) record = true) (second : hasId (.int n) record = true) : m = n :=
  eq_of_same_int
    (Value.same_trans rfl (Value.same_symm (sound.hashable record member) first) second)

/-- Of one number more than there are records one is free, so the search for one succeeds. -/
theorem Sound.freeId (sound : Sound s.records) : ∀ r ∈ s.records, hasId (.int s.freeId) r = false := by
  unfold EntityStore.freeId
  dsimp only
  cases search : ((List.range (s.records.length + 1)).map (s.nextId + ·)).find?
      fun (n : Nat) => !s.records.any (hasId (.int n)) with
  | some n =>
    have free := List.find?_some search
    simpa using free
  | none =>
    exfalso
    -- Were all taken, two of the numbers would find the same record.
    have taken (n : Nat) (small : n < s.records.length + 1) :
        ∃ r ∈ s.records, hasId (.int ((s.nextId + n : Nat) : Int)) r = true := by
      have := List.find?_eq_none.1 search (s.nextId + n)
        (List.mem_map.2 ⟨n, List.mem_range.2 small, rfl⟩)
      simpa using this
    obtain ⟨m, inside, n, inside', differ, together⟩ :=
      Finset.exists_ne_map_eq_of_card_lt_of_maps_to
        (s := Finset.range (s.records.length + 1)) (t := Finset.range s.records.length)
        (f := fun n => s.records.findIdx (hasId (.int ((s.nextId + n : Nat) : Int))))
        (by simp) (fun n inside => by
          simpa [List.findIdx_lt_length] using taken n (by simpa using inside))
    have place (n : Nat) (inside : n ∈ Finset.range (s.records.length + 1)) :
        s.records.findIdx (hasId (.int ((s.nextId + n : Nat) : Int))) < s.records.length :=
      List.findIdx_lt_length.2 (taken n (by simpa using inside))
    have first := List.findIdx_getElem (w := place m inside)
    have second := List.findIdx_getElem (w := place n inside')
    simp only [← together] at second
    have := sound.eq_of_hasId (List.getElem_mem _) first second
    omega

/-! ## Changes -/

theorem checkId_eq_ok {u : Unit} : checkId id = .ok u ↔ id.hashable = true := by
  unfold checkId
  by_cases hashable : id.hashable <;> simp [hashable]

/-- A record is stored under the next free number, or under the identifier that it has. -/
theorem insert_cases {attributes : Record} (run : s.insert attributes = .ok (record, s')) :
    ((idOf attributes).isNull = true ∧ record = attributes.set "id" (.int s.freeId) ∧
        s'.records = s.records ++ [record]) ∨
      ((idOf attributes).isNull = false ∧ (idOf attributes).hashable = true ∧ record = attributes ∧
        s'.records = EntityStore.place record s.records) := by
  unfold EntityStore.insert at run
  by_cases absent : (idOf attributes).isNull = true
  · rw [if_pos absent] at run
    cases run
    exact .inl ⟨absent, rfl, rfl⟩
  · rw [if_neg absent] at run
    obtain ⟨u, checked, stored⟩ := bind_eq_ok.1 run
    cases stored
    exact .inr ⟨by simpa using absent, checkId_eq_ok.1 checked, rfl, rfl⟩

theorem exists_insert (s : EntityStore) {attributes : Record} (hashable : (idOf attributes).hashable = true) :
    ∃ record s', s.insert attributes = .ok (record, s') := by
  unfold EntityStore.insert
  by_cases absent : (idOf attributes).isNull = true
  · rw [if_pos absent]
    exact ⟨_, _, rfl⟩
  · rw [if_neg absent, checkId, if_pos hashable]
    exact ⟨_, _, rfl⟩

theorem idOf_set (record : Record) (id : Value) : idOf (record.set "id" id) = id := by
  simp [idOf, Record.get?_set]

theorem Sound.insert (sound : Sound s.records) {attributes : Record}
    (run : s.insert attributes = .ok (record, s')) : Sound s'.records := by
  rcases insert_cases run with ⟨-, rfl, stored⟩ | ⟨present, hashable, rfl, stored⟩
  · have free := sound.freeId
    rw [stored]
    refine sound.append (by rw [idOf_set]; rfl) (by rw [idOf_set]; rfl) fun r member => ?_
    rw [Apart, idOf_set]
    refine ⟨free r member, ?_⟩
    by_contra found
    have back := Value.same_symm rfl (by simpa using found)
    cases back.symm.trans (free r member)
  · rw [stored]
    exact sound.place hashable present

/-- The one record that an update changes keeps its place and its identifier. -/
theorem Sound.of_update (sound : Sound s.records) {changes updated : Record}
    (run : s.update id changes = .ok (updated, s')) :
    ∃ before record after, s.records = before ++ record :: after ∧ hasId id record = true ∧
      updated = record.setAll (changes.filter (·.1 != "id")) ∧
      s' = { s with records := before ++ updated :: after } := by
  obtain ⟨found, looked, run⟩ := bind_eq_ok.1 run
  obtain ⟨u, checked, looked⟩ := bind_eq_ok.1 looked
  cases looked
  have hashable := checkId_eq_ok.1 checked
  cases search : s.records.find? (hasId id) with
  | none => rw [search] at run; cases run
  | some record =>
    rw [search] at run
    cases run
    have member := List.mem_of_find?_eq_some search
    have own := List.find?_some search
    have stays := idOf_setAll record changes
    have self : (idOf record).same (idOf record) = true :=
      Value.same_trans (sound.hashable record member) own
        (Value.same_symm (sound.hashable record member) own)
    rcases place_cases (record.setAll (changes.filter (·.1 != "id"))) s.records with
      ⟨before, other, after, form, same, -, placed⟩ | ⟨skipped, -⟩
    · rw [stays] at same
      cases sound.eq_of_same (by simp [form]) member same
      exact ⟨before, record, after, form, own, rfl, by rw [placed]⟩
    · rw [stays] at skipped
      cases self.symm.trans (skipped record member)

/-- Changes that a record already shows leave it and the others as they are. -/
theorem Sound.update_of_mem (sound : Sound s.records) (member : record ∈ s.records)
    (own : hasId (idOf record) record = true) {changes : Record}
    (shown : ∀ change ∈ changes.filter (·.1 != "id"), record.get? change.1 = some change.2) :
    s.update (idOf record) changes = .ok (record, s) := by
  have found : s.records.find? (hasId (idOf record)) = some record := by
    cases search : s.records.find? (hasId (idOf record)) with
    | none => exact absurd own (by simpa using List.find?_eq_none.1 search record member)
    | some other =>
      have finds : hasId (idOf record) other = true := List.find?_some search
      rw [sound.eq_of_same (List.mem_of_find?_eq_some search) member finds]
  have looked : s.get? (idOf record) = .ok (some record) := by
    rw [EntityStore.get?, checkId, if_pos (sound.hashable record member), found]
    rfl
  rw [EntityStore.update, looked]
  change Except.ok (record.setAll _, { s with records := EntityStore.place (record.setAll _) s.records }) = _
  rw [Record.setAll_eq_self shown, sound.place_of_mem member own]

theorem Sound.update (sound : Sound s.records) {changes updated : Record}
    (run : s.update id changes = .ok (updated, s')) : Sound s'.records := by
  obtain ⟨before, record, after, form, own, rfl, rfl⟩ := sound.of_update run
  rw [form] at sound
  have member : record ∈ before ++ record :: after := by simp
  have hashable := sound.hashable record member
  apply sound.replace
  · rw [idOf_setAll]
    exact hashable
  · rw [idOf_setAll]
    exact sound.present record member
  · rw [idOf_setAll]
    exact Value.same_trans hashable own (Value.same_symm hashable own)

/-- A deletion leaves the other records as they were. -/
theorem delete_eq_ok {deleted : Bool} (run : s.delete id = .ok (deleted, s')) :
    ∃ kept, s' = { s with records := kept } ∧ kept.Sublist s.records ∧
      (deleted = false → kept = s.records) := by
  unfold EntityStore.delete at run
  by_cases empty : s.records.isEmpty = true
  · rw [if_pos empty] at run
    cases run
    exact ⟨s.records, rfl, List.Sublist.refl _, fun _ => rfl⟩
  · rw [if_neg empty] at run
    obtain ⟨u, -, dropped⟩ := bind_eq_ok.1 run
    cases dropped
    refine ⟨_, rfl, List.filter_sublist, fun none => List.filter_eq_self.2 fun r member => ?_⟩
    simp only [List.any_eq_false] at none
    simpa using none r member

theorem Sound.delete (sound : Sound s.records) {deleted : Bool}
    (run : s.delete id = .ok (deleted, s')) : Sound s'.records := by
  obtain ⟨kept, rfl, within, -⟩ := delete_eq_ok run
  exact ⟨fun r member => sound.hashable r (within.subset member),
    fun r member => sound.present r (within.subset member), sound.apart.sublist within⟩

theorem exists_delete (s : EntityStore) (hashable : id.hashable = true) :
    ∃ deleted s', s.delete id = .ok (deleted, s') := by
  unfold EntityStore.delete
  by_cases empty : s.records.isEmpty = true
  · rw [if_pos empty]
    exact ⟨_, _, rfl⟩
  · rw [if_neg empty, checkId, if_pos hashable]
    exact ⟨_, _, rfl⟩

/-- A store that was filled record by record is sound. -/
theorem sound_ofRecords {entity : String} {relations : List (String × Relation)}
    {records : List Record} (run : ofRecords entity relations records = .ok s) : Sound s.records := by
  have filled (records : List Record) (s s' : EntityStore) (sound : Sound s.records)
      (run : records.foldlM (fun s record => (s.insert record).map (·.2)) s = .ok s') : Sound s'.records := by
    induction records generalizing s with
    | nil =>
      cases run
      exact sound
    | cons record rest ih =>
      rw [List.foldlM_cons] at run
      obtain ⟨next, inserted, rest⟩ := bind_eq_ok.1 run
      obtain ⟨both, stored, rfl⟩ := map_eq_ok.1 inserted
      have kept : Sound both.2.records := sound.insert stored
      exact ih both.2 kept rest
  exact filled records _ s ⟨by simp, by simp, List.Pairwise.nil⟩ run

end EntityStore

end QueryCache
