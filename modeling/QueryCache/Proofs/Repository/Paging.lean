import QueryCache.Proofs.Criteria.Built
import QueryCache.Proofs.Entity.Paging
import QueryCache.Proofs.Repository.View
import QueryCache.Proofs.Settings.Loaded

/-! Reads of a repository page by page.

The size of a page is bounded from above only, so a negative number of items is taken as it is, and
the page then is cut off from the end. -/

set_option autoImplicit false

namespace QueryCache

open Outcome

namespace Retrieval

variable {settings : RepositorySettings} {limit : Option Int}

theorem one_le_pageSize (loaded : settings.IsLoaded) (natural : ∀ n, limit = some n → 0 ≤ n) :
    1 ≤ pageSize settings limit := by
  refine le_min ?_ loaded.one_le_maxPageSize
  cases limit with
  | none => exact loaded.one_le_pageSize
  | some n =>
    by_cases zero : n = 0
    · subst zero
      exact loaded.one_le_pageSize
    · have := natural n rfl
      simp [Option.filter, zero]
      omega

theorem pageSize_of_neg {n : Int} (negative : n < 0) (loaded : settings.IsLoaded) :
    pageSize settings (some n) = n := by
  have := loaded.one_le_maxPageSize
  have nonzero : n ≠ 0 := by omega
  simp [pageSize, Option.filter, nonzero]
  omega

theorem pageSize_ne_zero (loaded : settings.IsLoaded) (limit : Option Int) : pageSize settings limit ≠ 0 := by
  by_cases natural : ∀ n, limit = some n → 0 ≤ n
  · have := one_le_pageSize loaded natural
    omega
  · push Not at natural
    obtain ⟨n, rfl, negative⟩ := natural
    rw [pageSize_of_neg negative loaded]
    omega

end Retrieval

/-! ## Queries without bounds -/

theorem QueryState.bounds_of_bare {q q' : QueryState} (same : q'.bare = q.bare) :
    q'.limit = q.limit ∧ q'.offset = q.offset := by
  have limit := congrArg QueryState.limit same
  have offset := congrArg QueryState.offset same
  exact ⟨limit, offset⟩

theorem Criterion.unbounded_apply {c : Criterion} {q q' : QueryState} (scopeless : ∀ scope, c ≠ .scope scope)
    (applied : c.apply q = .ok q') : q'.limit = q.limit ∧ q'.offset = q.offset := by
  cases c with
  | field | orderBy =>
    cases applied
    exact ⟨rfl, rfl⟩
  | column =>
    obtain ⟨p, -, rfl⟩ := map_eq_ok.1 applied
    exact ⟨rfl, rfl⟩
  | relation path =>
    cases applied
    exact QueryState.bounds_of_bare (q.bare_addRelation path)
  | relationCount path =>
    cases applied
    exact QueryState.bounds_of_bare (q.bare_addCount path)
  | scope scope => exact absurd rfl (scopeless scope)
  | request c =>
    obtain ⟨added, -, rfl⟩ := RequestCriterion.of_apply applied
    have shaped := RequestCriterion.bare_applyShape c.request { q with wheres := q.wheres ++ added }
    have limit := congrArg QueryState.limit shaped
    have offset := congrArg QueryState.offset shaped
    exact ⟨limit, offset⟩

namespace Pagination

theorem completed_eq (number : Int) {size : Int} (nonzero : size ≠ 0) (total : Nat) :
    completed ⟨number, size, some total, none⟩ =
      .ok ⟨number, size, some total, some ((total + size - 1).fdiv size)⟩ := by
  simp only [completed, if_neg nonzero]

theorem fdiv_eq_ceilDiv {size : Nat} (positive : 0 < size) (total : Nat) :
    ((total : Int) + size - 1).fdiv size = (total ⌈/⌉ size : Nat) := by
  have whole : (total : Int) + size - 1 = (total + size - 1 : Nat) := by omega
  rw [whole, Int.fdiv_eq_ediv_of_nonneg _ (by omega), ← Int.natCast_ediv, Nat.ceilDiv_eq_add_pred_div]

end Pagination

namespace Repository

variable {σ : Type} {r : Repository} {limit : Option Int} {k : Int} {b : Backing σ} {q : QueryState} {v : Value}

theorem unbounded_query (scopeless : ∀ scope, .scope scope ∉ r.pipeline.active) (built : r.query [] = .ok q) :
    q.limit = none ∧ q.offset = none := by
  rw [query_eq, List.append_nil] at built
  apply of_foldlM_eq_ok (P := fun q => q.limit = none ∧ q.offset = none) built ⟨rfl, rfl⟩
  intro c member q q' unbounded applied
  obtain ⟨limit, offset⟩ := Criterion.unbounded_apply
    (fun scope same => scopeless scope (same ▸ member)) applied
  exact ⟨limit.trans unbounded.1, offset.trans unbounded.2⟩

theorem compute_fst (r : Repository) (x : Retrieval) (b : Backing σ) (n : Nat) :
    (r.compute x { b with entities := { b.entities with executions := n } }).1 = r.answer x b.entities := by
  obtain ⟨_, run⟩ := r.compute_eq x { b with entities := { b.entities with executions := n } }
  rw [run]
  exact answer_executions r x b.entities n

theorem answer_all {entities : EntityStore} (told : r.answer .all entities = .ok v) :
    ∃ q rows, r.query [] = .ok q ∧ entities.select q = .ok rows ∧ v = .list (rows.map .dict) := by
  obtain ⟨q, built, told⟩ := bind_eq_ok.1 told
  have listed : (entities.select q).map (fun rows => Value.list (rows.map .dict)) = .ok v :=
    (congrArg Prod.fst (Report.run_rows q entities)).symm.trans told
  obtain ⟨rows, selected, rfl⟩ := map_eq_ok.1 listed
  exact ⟨q, rows, built, selected, rfl⟩

/-- A page is counted, and then fetched. -/
theorem answer_paginate (loaded : r.settings.IsLoaded) (limit : Option Int) (k : Int) (entities : EntityStore) :
    r.answer (.paginate r.settings limit k) entities = (do
      let size := Retrieval.pageSize r.settings limit
      let q ← r.query []
      let total ← entities.count q
      let info : Pagination := ⟨max k 1, size, some (total : Int), some ((total + size - 1).fdiv size)⟩
      (entities.select (Report.pageQuery size q info)).map fun rows => .page (rows.map .dict) info) := by
  change (r.query [] >>= fun q => (Report.page (Retrieval.pageSize r.settings limit) (max k 1)).result q entities) = _
  congr 1
  funext q
  rw [Report.result, Report.run_page]
  cases entities.count q with
  | error e => rfl
  | ok total =>
    dsimp only
    rw [Pagination.completed_eq _ (Retrieval.pageSize_ne_zero loaded limit)]
    rfl

/-- A page of a query without bounds is the stretch of its rows that is due. -/
theorem answer_paginate_unbounded {entities : EntityStore} {rows : List Record} {size : Nat}
    (loaded : r.settings.IsLoaded) (bounded : Retrieval.pageSize r.settings limit = size) (positive : 0 < size)
    (built : r.query [] = .ok q) (unlimited : q.limit = none) (fromStart : q.offset = none)
    (selected : entities.select q = .ok rows) (k : Int) :
    r.answer (.paginate r.settings limit k) entities = .ok (.page (Pagination.pageOf size (rows.map .dict) k)
      ⟨max k 1, size, some rows.length, some ((rows.length ⌈/⌉ size : Nat) : Int)⟩) := by
  obtain ⟨counted, stretch⟩ := EntityStore.select_stretch unlimited fromStart selected
  have items := stretch ((max k 1 - 1).toNat * size) size
  rw [Int.natCast_mul, Int.toNat_of_nonneg (by omega)] at items
  rw [answer_paginate loaded, built, bounded]
  simp only [bind, Except.bind, counted, Report.pageQuery, Pagination.offset, Pagination.fdiv_eq_ceilDiv positive]
  rw [items, ← Pagination.pageOf_map]
  rfl

/-- The pages of a view, taken one after the other, are what it has altogether. -/
theorem pages_partition (loaded : r.settings.IsLoaded) (scopeless : ∀ scope, .scope scope ∉ r.pipeline.active)
    (natural : ∀ n, limit = some n → 0 ≤ n) (succeeds : (r.compute .all b).1 = .ok v) :
    ∃ (items : List Value) (size : Nat) (page : Int → List Value), v = .list items ∧
      size = Retrieval.pageSize r.settings limit ∧ 0 < size ∧ Pagination.Paged size items page ∧
      -- Counting and fetching are queries too, so the pages are read from stores with more and more of them.
      ∀ (k : Int) (n : Nat), ∃ info : Pagination,
        (r.compute (.paginate r.settings limit k) { b with entities := { b.entities with executions := n } }).1 =
          .ok (.page (page k) info) ∧
        info.page = max k 1 ∧ info.pageSize = size ∧ info.totalItems = some (items.length : Int) ∧
        info.totalPages = some ((items.length ⌈/⌉ size : Nat) : Int) ∧
        (info.hasNext = true ↔ ∃ later, info.page < later ∧ page later ≠ []) := by
  have least := Retrieval.one_le_pageSize loaded natural
  obtain ⟨size, bounded⟩ := Int.eq_ofNat_of_zero_le (Int.le_trans (by decide) least)
  have positive : 0 < size := by omega
  obtain ⟨q, rows, built, selected, rfl⟩ := answer_all ((r.compute_fst .all b b.entities.executions).symm.trans succeeds)
  obtain ⟨unlimited, fromStart⟩ := unbounded_query scopeless built
  have paged := Pagination.paged positive (rows.map Value.dict)
  refine ⟨rows.map .dict, size, _, rfl, bounded.symm, positive, paged, fun k n => ?_⟩
  have told := answer_paginate_unbounded loaded bounded positive built unlimited fromStart selected k
  refine ⟨_, (compute_fst ..).trans told, rfl, rfl, ?_, ?_, ?_⟩
  · rw [List.length_map]
  · rw [List.length_map]
  · rw [← paged.next_iff (le_max_right k 1), List.length_map]
    exact decide_eq_true_iff

theorem pages_partition_adults :
    let record (id age : Int) : Record := [("id", .int id), ("age", .int age)]
    let b : Backing Unit := ⟨(), {
      entity := "user", records := [record 1 20, record 2 17, record 3 40, record 4 30, record 5 12] }⟩
    ∃ (r : Repository) (items : List Value) (page : Int → List Value), r.settings.IsLoaded ∧
      r.pipeline.criteria.length = 2 ∧ (∀ scope, .scope scope ∉ r.pipeline.active) ∧
      (r.compute .all b).1 = .ok (.list items) ∧ items.length = 3 ∧ Pagination.Paged 2 items page ∧
      ∀ k, ∃ info, (r.compute (.paginate r.settings (some 0) k) b).1 = .ok (.page (page k) info) := by
  intro record b
  let view (settings : RepositorySettings) : Repository := {
    entity := "user", settings
    pipeline := { criteria := [.field "age" .gte [.int 18], .orderBy "age" .desc] } }
  have run : (RepositorySettings.load [("page_size", .int 2)]).toOption.bind (fun settings =>
      ((view settings).compute .all b).1.toOption.map fun v =>
        (v.length?, Retrieval.pageSize settings (some 0))) = some (some 3, 2) := by decide +kernel
  obtain ⟨settings, loaded, run⟩ := Option.bind_eq_some_iff.1 run
  obtain ⟨v, succeeds, run⟩ := Option.map_eq_some_iff.1 run
  obtain ⟨count, two⟩ := Prod.mk.inj run
  replace loaded := RepositorySettings.isLoaded_of_load (of_toOption loaded)
  have scopeless : ∀ scope, .scope scope ∉ (view settings).pipeline.active := by simp [view, Pipeline.active]
  have natural : ∀ n : Int, some 0 = some n → 0 ≤ n := by simp
  obtain ⟨items, size, page, rfl, sized, -, paged, pages⟩ :=
    pages_partition (r := view settings) loaded scopeless natural (of_toOption succeeds)
  obtain rfl : size = 2 := Int.ofNat.inj (sized.trans two)
  refine ⟨view settings, items, page, loaded, rfl, scopeless, of_toOption succeeds, ?_, paged, fun k => ?_⟩
  · exact Option.some.inj count
  · obtain ⟨info, told, -⟩ := pages k b.entities.executions
    exact ⟨info, told⟩

theorem page_of_told (loaded : r.settings.IsLoaded) (told : (r.compute (.paginate r.settings limit k) b).1 = .ok v) :
    ∃ (q : QueryState) (rows : List Record) (total : Nat),
      let size := Retrieval.pageSize r.settings limit
      let info : Pagination := ⟨max k 1, size, some (total : Int), some ((total + size - 1).fdiv size)⟩
      b.entities.select (Report.pageQuery size q info) = .ok rows ∧ v = .page (rows.map .dict) info := by
  replace told := (r.compute_fst _ b b.entities.executions).symm.trans told
  rw [answer_paginate loaded] at told
  obtain ⟨q, -, told⟩ := bind_eq_ok.1 told
  obtain ⟨total, -, told⟩ := bind_eq_ok.1 told
  obtain ⟨rows, selected, shown⟩ := map_eq_ok.1 told
  exact ⟨q, rows, total, selected, shown.symm⟩

/-- The bounds of a page hold exactly if a number of items to show that is given is not negative. -/
theorem page_bounded_iff (loaded : r.settings.IsLoaded)
    (told : (r.compute (.paginate r.settings limit k) b).1 = .ok v) :
    ∃ (items : List Value) (info : Pagination) (pages : Int), v = .page items info ∧ info.totalPages = some pages ∧
      ((items.length ≤ r.settings.maxPageSize ∧ (1 ≤ info.pageSize ∧ info.pageSize ≤ r.settings.maxPageSize) ∧
        0 ≤ pages) ↔ ∀ n, limit = some n → 0 ≤ n) := by
  obtain ⟨q, rows, total, selected, rfl⟩ := page_of_told loaded told
  refine ⟨rows.map .dict, _, _, rfl, rfl, ?_, ?_⟩
  · -- A negative number is below every cap, so the page gets it for its size.
    rintro ⟨-, ⟨least, -⟩, -⟩ n rfl
    by_contra negative
    dsimp only at least
    rw [Retrieval.pageSize_of_neg (by omega) loaded] at least
    omega
  · intro natural
    have least := Retrieval.one_le_pageSize loaded natural
    have most : Retrieval.pageSize r.settings limit ≤ r.settings.maxPageSize := min_le_right _ _
    have start : 0 ≤ (max k 1 - 1) * Retrieval.pageSize r.settings limit := mul_nonneg (by omega) (by omega)
    have short := EntityStore.length_select_le start (by omega) selected
    refine ⟨?_, ⟨least, most⟩, ?_⟩
    · rw [List.length_map]
      exact short.trans most
    · exact Int.fdiv_nonneg (by omega) (by omega)

theorem page_bounded_iff_above :
    let b : Backing Unit := ⟨(), {
      entity := "user", records := [[("id", .int 1)], [("id", .int 2)], [("id", .int 3)], [("id", .int 4)]] }⟩
    ∃ (r : Repository) (items : List Value) (info : Pagination), r.settings.IsLoaded ∧ r.settings.maxPageSize = 2 ∧
      (r.compute (.paginate r.settings (some 50) 2) b).1 = .ok (.page items info) ∧
      items.length ≤ r.settings.maxPageSize ∧ 1 ≤ info.pageSize ∧ info.pageSize ≤ r.settings.maxPageSize := by
  intro b
  let view (settings : RepositorySettings) : Repository := { entity := "user", settings }
  have run : (RepositorySettings.load [("max_page_size", .int 2), ("page_size", .int 2)]).toOption.bind
      (fun settings => ((view settings).compute (.paginate settings (some 50) 2) b).1.toOption.map
        fun _ => settings.maxPageSize) = some 2 := by decide +kernel
  obtain ⟨settings, loaded, run⟩ := Option.bind_eq_some_iff.1 run
  obtain ⟨v, told, most⟩ := Option.map_eq_some_iff.1 run
  replace loaded := RepositorySettings.isLoaded_of_load (of_toOption loaded)
  obtain ⟨items, info, pages, rfl, -, bounds⟩ := page_bounded_iff (r := view settings) loaded (of_toOption told)
  obtain ⟨short, sized, -⟩ := bounds.2 (by simp)
  exact ⟨view settings, items, info, loaded, most, of_toOption told, short, sized⟩

/-- A negative number of items to show leaves out as many from the end. -/
theorem negative_limit_exceeds :
    let b : Backing Unit := ⟨(), {
      entity := "user", records := [[("id", .int 1)], [("id", .int 2)], [("id", .int 3)]] }⟩
    ∃ (r : Repository) (items : List Value) (info : Pagination), r.settings.IsLoaded ∧ r.settings.maxPageSize = 1 ∧
      (r.compute (.paginate r.settings (some (-1)) 1) b).1 = .ok (.page items info) ∧
      items.length = 2 ∧ info.pageSize = -1 ∧ info.totalPages = some (-1) := by
  intro b
  let view (settings : RepositorySettings) : Repository := { entity := "user", settings }
  have run : (RepositorySettings.load [("max_page_size", .int 1), ("page_size", .int 1)]).toOption.bind
      (fun settings => ((view settings).compute (.paginate settings (some (-1)) 1) b).1.toOption.map
        fun v => (settings.maxPageSize, v.same (.page [.dict [("id", .int 1)], .dict [("id", .int 2)]]
          ⟨1, -1, some 3, some (-1)⟩), v.length?)) = some (1, true, some 2) := by decide +kernel
  obtain ⟨settings, loaded, run⟩ := Option.bind_eq_some_iff.1 run
  obtain ⟨v, told, run⟩ := Option.map_eq_some_iff.1 run
  obtain ⟨most, run⟩ := Prod.mk.inj run
  obtain ⟨same, count⟩ := Prod.mk.inj run
  replace loaded := RepositorySettings.isLoaded_of_load (of_toOption loaded)
  obtain ⟨q, rows, total, -, rfl⟩ := page_of_told (r := view settings) loaded (of_toOption told)
  rw [Value.same, Bool.and_eq_true, beq_iff_eq] at same
  exact ⟨view settings, _, _, loaded, most, of_toOption told, Option.some.inj count,
    congrArg Pagination.pageSize same.2, congrArg Pagination.totalPages same.2⟩

end Repository

end QueryCache
