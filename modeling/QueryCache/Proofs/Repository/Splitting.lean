import QueryCache.Cache.Host
import QueryCache.Proofs.Entity.Splitting
import QueryCache.Proofs.Repository.Paging
import QueryCache.Proofs.Repository.Reading

/-! Reads of the entities with a value among given ones, and of all others.

Every value is among the given ones or is not, so the two reads share out what a view has. Reading those
among no values is settled at once; reading all others than none is refused, as a condition that takes
values is made of it all the same. -/

set_option autoImplicit false

namespace QueryCache

open Outcome

theorem Value.isPresent_of_parts {given : Value} {values : List Value} (sequence : given.parts? = some values) :
    given.isPresent = !values.isEmpty := by
  cases given with
  | list | tuple | set | page =>
    cases sequence
    cases values <;> rfl
  | dict entries =>
    cases sequence
    cases entries <;> rfl
  | bytes b =>
    cases sequence
    cases b <;> rfl
  | str text =>
    cases sequence
    change (text.length != 0) = _
    rw [← String.length_toList]
    cases text.toList <;> rfl
  | _ => cases sequence

/-- The two conditions on membership: being among the values, and not being among them. -/
def Operator.membership (among : Bool) : Operator := if among then .isIn else .notIn

namespace Predicate

/-- Every record meets one of the two conditions. -/
theorem holds_membership (among : Bool) (name : String) (values : List Value) (record : Value) :
    (Predicate.field name (.membership among) values).holds record =
      .ok ((record.field name).isIn (values.map (Value.coercedLike (record.field name))) == among) := by
  cases among with
  | true => simp only [beq_true]; rfl
  | false => simp only [beq_false]; rfl

end Predicate

namespace Repository

variable {σ : Type} {r : Repository} {s : Session σ} {q : QueryState} {items values : List Value}

theorem query_singleton (built : r.query [] = .ok q) (c : Criterion) : r.query [c] = c.apply q := by
  rw [query_eq, List.append_nil] at built
  rw [query_eq, List.foldlM_append, built]
  simp only [List.foldlM_cons, List.foldlM_nil, bind_pure]
  rfl

theorem answer_rows {x : Retrieval} {entities : EntityStore} (listed : x.report = .rows)
    (built : r.query x.constraints = .ok q) :
    r.answer x entities = (entities.select q).map fun rows => .list (rows.map .dict) := by
  rw [answer, built, listed]
  exact congrArg Prod.fst (Report.run_rows q entities)

/-- Looking for nothing is settled at once. -/
theorem findWhereIn_eq (cache : CacheStore σ) (field : String) {given : Value} (sequence : given.parts? = some values)
    (s : Session σ) : r.findWhereIn cache field given s =
      if values = [] then (.ok (.list []), s)
      else r.read cache ⟨"find_where_in", [.value (.str field), .value (.list values)],
        [.field field .isIn values], .rows⟩ s := by
  unfold Repository.findWhereIn
  rw [Value.isPresent_of_parts sequence, sequence]
  cases values <;> rfl

/-- A condition that takes values refuses to be made of none. -/
theorem findWhereNotIn_eq (cache : CacheStore σ) (field : String) {given : Value}
    (sequence : given.parts? = some values) (s : Session σ) : r.findWhereNotIn cache field given s =
      if values = [] then (.error (.arity .notIn 0), s)
      else r.read cache ⟨"find_where_not_in", [.value (.str field), .value (.list values)],
        [.field field .notIn values], .rows⟩ s := by
  unfold Repository.findWhereNotIn
  rw [sequence]
  cases values <;> rfl

/-- Past the cache, the entities with one of the values in a field and all others are what the view has,
each in the order in which the view has them, exactly if there are values to be looked for. -/
theorem in_notIn_split_iff (cache : CacheStore σ) (field : String) (given : Value)
    (scopeless : ∀ scope, .scope scope ∉ r.pipeline.active) (built : r.query [] = .ok q) (ungrouped : q.groupBy = [])
    (ordered : ∀ found, Rows.matching q.predicate s.host.entities.records = .ok found →
      ∀ key ∈ q.sort, key.Orders found)
    (sequence : given.parts? = some values)
    (succeeds : ((r.skippingCache true).read cache .all s).1 = .ok (.list items)) :
    (∃ marked : List (Value × Bool), items = marked.map Prod.fst ∧
      ((r.skippingCache true).findWhereIn cache field given s).1 = .ok (.list ((marked.filter (·.2)).map Prod.fst)) ∧
      ((r.skippingCache true).findWhereNotIn cache field given s).1 =
        .ok (.list ((marked.filter (!·.2)).map Prod.fst))) ↔ values ≠ [] := by
  rw [findWhereIn_eq cache field sequence, findWhereNotIn_eq cache field sequence]
  by_cases none : values = []
  · simp [none]
  · rw [if_neg none, if_neg none]
    refine iff_of_true ?_ none
    obtain ⟨unlimited, fromStart⟩ := unbounded_query scopeless built
    rw [read_skipping] at succeeds
    obtain ⟨q', rows, built', selected, listed⟩ := answer_all succeeds
    cases built.symm.trans built'
    cases listed
    obtain ⟨placed, related, chosen⟩ := EntityStore.select_addPredicate ordered ungrouped unlimited fromStart selected
    obtain ⟨marked, rfl, shared⟩ := exists_marked related fun record =>
      (Value.field (.dict record) field).isIn
        (values.map (Value.coercedLike (Value.field (.dict record) field)))
    -- Both reads put the same rows in the same order, and each keeps those of its own mark.
    have told (among : Bool) (method : String) (args : List Argument) :
        ((r.skippingCache true).read cache ⟨method, args, [.field field (.membership among) values], .rows⟩ s).1 =
          .ok (.list (((marked.filter (·.2 == among)).map Prod.fst).map .dict)) := by
      have added : r.query [.field field (.membership among) values] =
          .ok (q.addPredicate (.field field (.membership among) values)) := query_singleton built _
      have selected' := chosen _ _ fun record _ => Predicate.holds_membership among field values (.dict record)
      rw [read_skipping, answer_rows rfl added, selected', shared among]
      rfl
    refine ⟨marked.map fun entry => (.dict entry.1, entry.2), ?_, ?_, ?_⟩
    · simp only [List.map_map, Function.comp_def]
    · refine (told true _ _).trans ?_
      simp only [beq_true, List.filter_map, List.map_map, Function.comp_def]
    · refine (told false _ _).trans ?_
      simp only [beq_false, List.filter_map, List.map_map, Function.comp_def]

theorem in_notIn_split_iff_adults :
    let record (id age : Int) (name : String) : Record := [("id", .int id), ("age", .int age), ("name", .str name)]
    let r : Repository := {
      entity := "user", pipeline := { criteria := [.field "age" .gte [.int 18], .orderBy "name" .desc] } }
    let s : Session CacheHost := { host := ⟨{}, {
      entity := "user", records := [record 1 20 "b", record 2 17 "d", record 3 40 "a", record 4 30 "c"] }⟩ }
    ∃ (items : List Value) (marked : List (Value × Bool)),
      ((r.skippingCache true).read CacheHost.store .all s).1 = .ok (.list items) ∧ items.length = 3 ∧
      items = marked.map Prod.fst ∧
      ((r.skippingCache true).findWhereIn CacheHost.store "id" (.tuple [.str " 3", .int 2, .null]) s).1 =
        .ok (.list ((marked.filter (·.2)).map Prod.fst)) ∧
      ((r.skippingCache true).findWhereNotIn CacheHost.store "id" (.tuple [.str " 3", .int 2, .null]) s).1 =
        .ok (.list ((marked.filter (!·.2)).map Prod.fst)) := by
  intro record r s
  have built : r.query [] = .ok { wheres := [.field "age" .gte [.int 18]], sort := [⟨"name", .desc⟩] } := rfl
  have scopeless : ∀ scope, .scope scope ∉ r.pipeline.active := by simp [r, Pipeline.active]
  have texts (found : List Record) (sub : found ⊆ s.host.entities.records) :
      SortField.Orders ⟨"name", .desc⟩ found := by
    apply Value.totallyOrdered_str.subset
    rintro v ⟨-, row, member, rfl⟩
    have member := sub member
    simp only [s, List.mem_cons, List.not_mem_nil, or_false] at member
    rcases member with rfl | rfl | rfl | rfl
    · exact ⟨"b", rfl⟩
    · exact ⟨"d", rfl⟩
    · exact ⟨"a", rfl⟩
    · exact ⟨"c", rfl⟩
  have run : ((r.skippingCache true).read CacheHost.store .all s).1.toOption.map Value.length? = some (some 3) := by
    decide +kernel
  obtain ⟨v, told, length⟩ := Option.map_eq_some_iff.1 run
  replace told := of_toOption told
  obtain ⟨q, rows, -, -, rfl⟩ := answer_all ((read_skipping CacheHost.store r .all s).symm.trans told)
  obtain ⟨marked, all, among, others⟩ := (in_notIn_split_iff CacheHost.store "id" (.tuple [.str " 3", .int 2, .null])
    scopeless built rfl (fun found matched => by simpa using texts found (Rows.subset_of_matching matched)) rfl told).2
    (by simp)
  exact ⟨_, marked, told, Option.some.inj length, all, among, others⟩

/-- Nothing to look for is nothing found, but is no reason to find everything; and a number that is none
puts other numbers out of order in one read and not in another. -/
theorem notIn_refuses_none :
    let record (id : Int) (age : Value) : Record := [("id", .int id), ("age", age)]
    let r : Repository := { entity := "user" }
    let s : Session CacheHost := { host := ⟨{}, {
      entity := "user", records := [record 1 (.int 2), record 2 (.nan 0), record 3 (.int 1)] }⟩ }
    (((r.skippingCache true).findWhereIn CacheHost.store "id" (.list []) s).1 = .ok (.list []) ∧
      ((r.skippingCache true).findWhereNotIn CacheHost.store "id" (.list []) s).1 = .error (.arity .notIn 0)) ∧
    let ids (outcome : Except Failure Value) : Option (List Value) :=
      (outcome.toOption.bind Value.parts?).map (List.map fun row => row.field "id")
    let sorted := (r.pushed [.orderBy "age" .asc]).skippingCache true
    (ids (sorted.read CacheHost.store .all s).1).map (Value.sameAll [.int 1, .int 2, .int 3]) = some true ∧
      (ids (sorted.findWhereIn CacheHost.store "id" (.list [.int 1, .int 3]) s).1).map
        (Value.sameAll [.int 3, .int 1]) = some true := by
  refine ⟨⟨rfl, rfl⟩, ?_, ?_⟩ <;> decide +kernel

end Repository

end QueryCache
