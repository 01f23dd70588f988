import QueryCache.Proofs.Criteria.Conjuncts
import QueryCache.Proofs.Repository.Transparency

/-! Cached reads that are forgotten by the values they pin fields to.

Only reads bring entries into a cache. So each entry is from the read that was computed last under its key,
and has the tags of that read; forgetting a value drops the entries that have its tag. -/

set_option autoImplicit false

namespace QueryCache

open Outcome Session

/-! ## Work that only drops entries -/

namespace Repository

variable {α β : Type} {r : Repository}

/-- Nothing comes into the cache, whatever the work gives. -/
def Keeping (work : Attempt (Session CacheHost) α) : Prop :=
  ∀ s : Session CacheHost, s.Rests → Keeps s (work s).2

theorem keeping_pure (a : α) : Keeping (pure a) := fun _ rests => rests.follows_refl

theorem Keeping.bind {work : Attempt (Session CacheHost) α} {next : α → Attempt (Session CacheHost) β}
    (first : Keeping work) (rest : ∀ a, Keeping (next a)) : Keeping (work >>= next) := by
  intro s rests
  have kept := first s rests
  rw [Attempt.bind_eq]
  rcases run : work s with ⟨_ | a, t⟩
  · rw [run] at kept
    exact kept
  · rw [run] at kept
    exact kept.trans (rest a t kept.rests)

theorem keeping_ofExcept (result : Except Failure α) : Keeping (ofExcept result) :=
  fun _ rests => rests.follows_refl

theorem keeping_inEntities (work : Attempt EntityStore α) : Keeping (inEntities work) :=
  fun _ rests => rests.keeps_entities _

theorem keeping_log (text : String) : Keeping (log store text) :=
  fun _ rests => (report_alone rests _).1

theorem keeping_invalidate (r : Repository) (tags : List String) : Keeping (r.invalidate store tags) := by
  intro s rests
  unfold invalidate
  split
  · obtain ⟨s', run, keeps, -⟩ := invalidate_alone rests tags
    rw [run]
    exact keeps
  · exact rests.follows_refl

theorem keeping_clean (r : Repository) (wanted : Bool) (tags : List String) :
    Keeping (r.clean store wanted tags) := by
  cases wanted with
  | false => exact keeping_pure ()
  | true => exact (keeping_invalidate r tags).bind fun _ => keeping_pure ()

theorem keeping_filterAuxM {choose : α → Attempt (Session CacheHost) Bool} (each : ∀ a, Keeping (choose a))
    (items chosen : List α) : Keeping (items.filterAuxM choose chosen) := by
  induction items generalizing chosen with
  | nil => exact keeping_pure chosen
  | cons item rest ih => exact (each item).bind fun kept => ih _

theorem keeping_filterM {choose : α → Attempt (Session CacheHost) Bool} (each : ∀ a, Keeping (choose a))
    (items : List α) : Keeping (items.filterM choose) :=
  (keeping_filterAuxM each items []).bind fun chosen => keeping_pure chosen.reverse

theorem keeping_create (r : Repository) (attributes : Record) : Keeping (r.create store attributes) :=
  (keeping_inEntities _).bind fun _ => (keeping_log _).bind fun _ => (keeping_clean r _ _).bind fun _ =>
    keeping_pure _

theorem keeping_update (r : Repository) (id : Value) (changes : Record) : Keeping (r.update store id changes) :=
  (keeping_inEntities _).bind fun _ => (keeping_log _).bind fun _ => (keeping_clean r _ _).bind fun _ =>
    keeping_pure _

theorem keeping_delete (r : Repository) (id : Value) : Keeping (r.delete store id) := by
  refine (keeping_inEntities _).bind fun deleted => ?_
  cases deleted with
  | false => exact keeping_pure _
  | true => exact (keeping_log _).bind fun _ => (keeping_clean r _ _).bind fun _ => keeping_pure _

theorem keeping_updateOrCreate (r : Repository) (conditions values : Record) :
    Keeping (r.updateOrCreate store conditions values) := by
  refine (keeping_ofExcept _).bind fun q => (keeping_inEntities _).bind fun rows => ?_
  cases rows with
  | nil => exact keeping_create r _
  | cons found rest => exact keeping_update r _ values

theorem keeping_deleteWhere (r : Repository) (conditions : Record) : Keeping (r.deleteWhere store conditions) := by
  refine (keeping_ofExcept _).bind fun q => (keeping_inEntities _).bind fun found => ?_
  refine (keeping_filterM (fun _ => keeping_inEntities _) _).bind fun deleted => ?_
  exact (keeping_clean r _ _).bind fun _ => (keeping_log _).bind fun _ => keeping_pure _

end Repository

/-- No write brings anything into the cache. -/
theorem Writing.keeps_run {s : Session CacheHost} (rests : s.Rests) (r : Repository) (writing : Writing) :
    Keeps s (writing.run store r s) := by
  cases writing with
  | create attributes => exact Repository.keeping_create r attributes s rests
  | update id changes => exact Repository.keeping_update r id changes s rests
  | updateOrCreate conditions values => exact Repository.keeping_updateOrCreate r conditions values s rests
  | delete id => exact Repository.keeping_delete r id s rests
  | deleteWhere conditions => exact Repository.keeping_deleteWhere r conditions s rests

/-! ## Where entries are from -/

/-- What happens in a session in which cached reads are forgotten as well. -/
inductive Session.Move where
  | event (event : Event)
  | forget (view : Repository) (values : Record)
  | clear (view : Repository)

namespace Session

variable {s s' : Session CacheHost} {key name : String} {sources : String → Option (Repository × Retrieval)}

def move (s : Session CacheHost) : Move → Session CacheHost
  | .event event => s.act event
  | .forget view values => (view.forgetWhere store values s).2
  | .clear view => (view.clearCache store s).2

/-- The session after moves in their order. -/
def moved (s : Session CacheHost) (moves : List Move) : Session CacheHost := moves.foldl move s

/-- A read goes through the cache, and is computed since the cache has nothing for its key. -/
def Computes (s : Session CacheHost) (key : String) (r : Repository) (y : Retrieval) : Prop :=
  r.allowsCaching y.method = true ∧ (r.tags y.constraints).toOption.isSome = true ∧
    (r.keyFor y).toOption = some key ∧ (s.front.known key).isNone = true

instance (s : Session CacheHost) (key : String) (r : Repository) (y : Retrieval) : Decidable (s.Computes key r y) :=
  inferInstanceAs (Decidable (_ ∧ _))

/-- The read that a move computes under a key. -/
def Move.computed (s : Session CacheHost) (key : String) : Move → Option (Repository × Retrieval)
  | .event (.read r reading) =>
    (reading.retrieval r.settings).toOption.bind fun y => if s.Computes key r y then some (r, y) else none
  | _ => none

/-- The read that was computed last under a key. -/
def source (key : String) (s : Session CacheHost) : List Move → Option (Repository × Retrieval)
  | [] => none
  | move :: rest => (source key (s.move move) rest).or (move.computed s key)

/-- An entry has the tags of a read. -/
def IsTagged (entry : CacheEntry) (read : Repository × Retrieval) : Prop :=
  ∃ tags, read.1.tags read.2.constraints = .ok tags ∧ ∀ tag ∈ tags, tag ∈ entry.tags

theorem IsTagged.of_same {old entry : CacheEntry} {read : Repository × Retrieval} (tagged : IsTagged old read)
    (same : old.tags = entry.tags) : IsTagged entry read := by
  rw [IsTagged, ← same]
  exact tagged

/-- Every entry has the tags of the read that it is from. -/
structure Sourced (sources : String → Option (Repository × Retrieval)) (s : Session CacheHost) : Prop where
  rests : s.Rests
  entries : ∀ key entry, s.kept key = some entry → ∃ read, sources key = some read ∧ IsTagged entry read

/-- What brings nothing in leaves the sources as they are. -/
theorem Sourced.of_keeps (sourced : s.Sourced sources) (keeps : Keeps s s') : s'.Sourced sources := by
  refine ⟨keeps.rests, fun key entry held => ?_⟩
  obtain ⟨⟨⟩⟩ | ⟨old, before, same, -⟩ := keeps.contents key entry held
  exact (sourced.entries key old before).imp fun read own => ⟨own.1, own.2.of_same same⟩

/-- A read through the cache is the source of what it brings in, and leaves other entries alone. -/
theorem Sourced.read_through {r : Repository} {y : Retrieval} {own : String} {tags : List String}
    (sourced : s.Sourced sources) (allowed : r.allowsCaching y.method = true)
    (tagged : r.tags y.constraints = .ok tags) (keyed : r.keyFor y = .ok own) :
    (r.read store y s).2.Sourced fun key =>
      (if s.Computes key r y then some (r, y) else none).or (sources key) := by
  -- A read is followed by what it is for the cache: an entry of its own where nothing was known, or
  -- nothing at all.
  obtain ⟨outcome, s', run, follows, replaced, -⟩ :=
    @read_follows s ⟨own, tags, some (.whole r.settings.cacheTtl), Tag.ofResult r.entity⟩ sourced.rests _ _
      (r.compute_of_entities y)
  rw [Repository.read_through store s allowed tagged keyed, run]
  have computes (key : String) : s.Computes key r y ↔ own = key ∧ s.front.known key = none := by
    simp [Computes, allowed, tagged, keyed, Except.toOption]
  refine ⟨follows.rests, fun key entry held => ?_⟩
  simp only [computes]
  split
  · next computed =>
    obtain ⟨rfl, unknown⟩ := computed
    obtain ⟨-, value, -, -, listed⟩ := replaced unknown entry held
    exact ⟨(r, y), rfl, tags, tagged, fun tag member => (listed tag).2 (List.mem_append_left _ member)⟩
  · next other =>
    rcases follows.contents key entry held with ⟨unknown, rfl, -⟩ | ⟨old, before, same, -⟩
    · exact absurd ⟨rfl, unknown⟩ other
    · exact (sourced.entries key old before).imp fun read own => ⟨own.1, own.2.of_same same⟩

/-- Any other read brings nothing in. -/
theorem Sourced.read (sourced : s.Sourced sources) (r : Repository) (y : Retrieval) :
    (r.read store y s).2.Sourced fun key =>
      (if s.Computes key r y then some (r, y) else none).or (sources key) := by
  have idle (other : ∀ key, ¬ s.Computes key r y) (keeps : Keeps s (r.read store y s).2) :
      (r.read store y s).2.Sourced fun key =>
        (if s.Computes key r y then some (r, y) else none).or (sources key) := by
    simpa [other] using sourced.of_keeps keeps
  -- What is not looked up through the cache, by choice or because its tags or its key are refused,
  -- is computed aside.
  cases allowed : r.allowsCaching y.method with
  | false =>
    refine idle (by simp [Computes, allowed]) ?_
    obtain ⟨n, run⟩ := Repository.read_past store y s allowed
    rw [run]
    exact sourced.rests.keeps_entities _
  | true =>
    cases tagged : r.tags y.constraints with
    | error e =>
      refine idle (by simp [Computes, tagged, Except.toOption]) ?_
      rw [Repository.read_refused store s allowed ⟨e, .inl tagged⟩]
      exact sourced.rests.follows_refl
    | ok tags =>
      cases keyed : r.keyFor y with
      | error e =>
        refine idle (by simp [Computes, keyed, Except.toOption]) ?_
        rw [Repository.read_refused store s allowed ⟨e, .inr keyed⟩]
        exact sourced.rests.follows_refl
      | ok own => exact sourced.read_through allowed tagged keyed

theorem Sourced.move (sourced : s.Sourced sources) (move : Move) :
    (s.move move).Sourced fun key => (move.computed s key).or (sources key) := by
  cases move with
  | event event =>
    cases event with
    | read r reading =>
      change (reading.run store r s).2.Sourced _
      rw [Reading.run_eq]
      simp only [Move.computed]
      cases reading.retrieval r.settings with
      | error outcome => exact sourced
      | ok y => exact sourced.read r y
    | write r writing => exact sourced.of_keeps (writing.keeps_run sourced.rests r)
    | pass seconds => exact sourced.of_keeps (keeps_pass sourced.rests seconds)
    | fire => exact sourced.of_keeps (keeps_settle sourced.rests)
  | forget r values => exact sourced.of_keeps (Repository.keeping_invalidate r _ s sourced.rests)
  | clear r => exact sourced.of_keeps (Repository.keeping_invalidate r _ s sourced.rests)

/-- After any moves each entry has the tags of the read that was computed last under its key. -/
theorem Sourced.moved (sourced : s.Sourced sources) (moves : List Move) :
    (s.moved moves).Sourced fun key => (s.source key moves).or (sources key) := by
  induction moves generalizing s sources with
  | nil => exact sourced
  | cons move rest ih =>
    -- The later source counts, so the sources of the rest come first.
    have next := ih (sourced.move move)
    simp only [← Option.or_assoc] at next
    exact next

theorem sourced_initial (settings : CoordinatorSettings) (now : Time) (entities : EntityStore) :
    (initial settings now entities).Sourced fun _ => none :=
  ⟨⟨rfl, nofun, rfl⟩, nofun⟩

/-- The source of a key after one read is that read, if it is computed. -/
theorem source_of_read {r : Repository} {y : Retrieval} {reading : Reading}
    (made : reading.retrieval r.settings = .ok y) (computes : s.Computes key r y) :
    s.source key [.event (.read r reading)] = some (r, y) := by
  simp [source, Move.computed, made, computes, Except.toOption]

/-- Nothing is known yet in the beginning. -/
theorem computes_initial {settings : CoordinatorSettings} {now : Time} {entities : EntityStore} {r : Repository}
    {y : Retrieval} (allowed : r.allowsCaching y.method = true)
    (tagged : (r.tags y.constraints).toOption.isSome = true) (keyed : (r.keyFor y).toOption = some key) :
    (initial settings now entities).Computes key r y :=
  ⟨allowed, tagged, keyed, rfl⟩

/-! ## Forgetting by value -/

/-- A cached read whose query equates a field with a value cannot be retrieved once the value is forgotten,
whatever happened before, if its criteria pin the field as they were given. -/
theorem forgets_pinned {settings : CoordinatorSettings} {now : Time} {entities : EntityStore} {moves : List Move}
    {r view : Repository} {y : Retrieval} {q : QueryState} {v : Value} {values : Record}
    (read : (initial settings now entities).source key moves = some (r, y))
    (built : r.query y.constraints = .ok q) (conjunct : .field name .eq [v] ∈ q.predicate.conjuncts)
    (written : ∀ c ∈ r.criteriaOf y, c.PinsAsWritten name v) (cached : view.cached = true)
    (same : view.entity = r.entity) (named : (name, v) ∈ values) :
    ∃ s' : Session CacheHost,
      view.forgetWhere store values ((initial settings now entities).moved moves) = (.ok true, s') ∧
      ∀ later, (s'.host.cache.memory.get later key).1 = none := by
  have sourced := (sourced_initial settings now entities).moved moves
  obtain ⟨s', run, keeps, -, gone⟩ := invalidate_alone sourced.rests (Tag.ofValues view.entity values)
  -- An entry would have the tag of the value, and all of that tag are gone.
  have dropped : s'.kept key = none := by
    by_contra some
    obtain ⟨entry, held⟩ := Option.ne_none_iff_exists'.1 some
    obtain ⟨_, origin, tags, tagged, listed⟩ := (sourced.of_keeps keeps).entries key entry held
    cases (congrArg (Option.or · none) read).symm.trans origin
    rw [Repository.query_eq] at built
    have pinned := Tag.value_mem_ofQuery tagged built written conjunct
    refine gone key entry held _ ?_ (listed _ pinned)
    rw [Tag.ofValues, mem_distinct, same]
    exact List.mem_map.2 ⟨(name, v), named, rfl⟩
  refine ⟨s', ?_, fun later => ?_⟩
  · unfold Repository.forgetWhere Repository.invalidate
    rw [if_pos cached, run]
  · rw [MemoryCache.get, show Table.get? s'.host.cache.memory.entries key = none from dropped]

/-- One user of the role 7. -/
def oneUser : Session CacheHost :=
  initial {} (Binary64.ofInt 1000)
    ⟨"user", [], [[("id", .int 1), ("role_id", .int 7), ("name", .str "ada"), ("status", .str "active")]], 1, 0⟩

/-- The users that a criterion chooses, where identifiers may be given as a mark and a number. -/
def chosenBy (c : Criterion) : Repository :=
  ({ entity := "user", transcoder := some (.marked "r_") } : Repository).pushed [c]

/-- The users that a request asks for. -/
def askedBy (request : Request) : Repository :=
  chosenBy (.request { request := request, transcoder := some (.marked "r_"), entity := some "user" })

/-- The users that meet conditions. -/
def filteredBy (conditions : List Condition) : Repository :=
  askedBy { filter := some { conditions := conditions } }

/-- The active users of a role that is given by its number. -/
theorem forgets_pinned_role : ∃ (view : Repository) (key : String) (s' : Session CacheHost),
    view = filteredBy [⟨"role_id", .eq, ["7"], .and, false⟩, ⟨"status", .eq, ["active"], .and, false⟩] ∧
    view.keyFor .all = .ok key ∧
    view.forgetWhere store [("role_id", .int 7)] (oneUser.moved [.event (.read view .all)]) = (.ok true, s') ∧
    ∀ later, (s'.host.cache.memory.get later key).1 = none := by
  let view := filteredBy [⟨"role_id", .eq, ["7"], .and, false⟩, ⟨"status", .eq, ["active"], .and, false⟩]
  have keyed : (view.keyFor .all).toOption.isSome = true := by decide +kernel
  obtain ⟨key, keyed⟩ := Option.isSome_iff_exists.1 keyed
  have read : oneUser.source key [.event (.read view .all)] = some (view, .all) :=
    source_of_read rfl (computes_initial rfl (by decide +kernel) keyed)
  have built : view.query [] = .ok { wheres :=
    [.all [.field "role_id" .eq [.int 7], .field "status" .eq [.str "active"]]] } := rfl
  have written : ∀ c ∈ view.criteriaOf .all, c.PinsAsWritten "role_id" (.int 7) := by
    intro c member
    cases List.mem_singleton.1 member
    refine ⟨?_, nofun⟩
    rintro part default decode (⟨⟨⟩⟩ | ⟨⟨⟩⟩) condition member decodes made
    rcases List.mem_pair.1 member with rfl | rfl
    · exact ⟨rfl, rfl⟩
    · exact absurd decodes.2.2 (by decide)
  have named : ("role_id", Value.int 7) ∈ [("role_id", Value.int 7)] := List.mem_singleton.2 rfl
  obtain ⟨s', run, gone⟩ := forgets_pinned read built (by simp [QueryState.predicate]) written rfl rfl named
  exact ⟨view, key, s', rfl, of_toOption keyed, run, gone⟩

/-- The users that are searched for. -/
def searchedBy (part : Section) : Repository := askedBy { search := some part }

/-- The query of a view equates a field with a value, and its tags do not name that. -/
def LacksTag (view : Repository) (name : String) (v : Value) : Prop :=
  ∃ q tags, view.query [] = .ok q ∧ .field name .eq [v] ∈ q.predicate.conjuncts ∧ view.tags [] = .ok tags ∧
    Tag.value view.entity name v ∉ tags

theorem lacksTag_of_tags {view : Repository} {v : Value}
    (built : view.query [] = .ok { wheres := [.field name .eq [v]] })
    (unnamed : ((view.tags []).toOption.any fun tags => !tags.contains (Tag.value view.entity name v)) = true) :
    LacksTag view name v := by
  cases tagged : view.tags [] with
  | error e => simp [tagged, Except.toOption] at unnamed
  | ok tags =>
    refine ⟨_, tags, built, by simp [QueryState.predicate], tagged, ?_⟩
    simpa [tagged, Except.toOption] using unnamed

/-- All that a view chooses is read, and then a value is forgotten. -/
def readThenForget (view : Repository) (name : String) (v : Value) : Except Failure Bool × Session CacheHost :=
  view.forgetWhere store [(name, v)] (oneUser.moved [.event (.read view .all)])

/-- The read can still be retrieved after the value is forgotten. -/
def Stays (view : Repository) (name : String) (v : Value) : Prop :=
  ∃ key, oneUser.source key [.event (.read view .all)] = some (view, .all) ∧
    (readThenForget view name v).1 = .ok true ∧ ((readThenForget view name v).2.front.known key).isSome = true

theorem stays_of_known {view : Repository} {v : Value} {key : String} {tags : List String}
    (allowed : view.allowsCaching "all" = true) (tagged : view.tags [] = .ok tags) (keyed : view.keyFor .all = .ok key)
    (kept : let call : ReadCall := ⟨key, tags, some (.whole view.settings.cacheTtl), Tag.ofResult view.entity⟩
      let run := view.forgetWhere store [(name, v)] (oneUser.read (Backing.store store) call (view.compute .all)).2
      run.1.toOption = some true ∧ (run.2.front.known key).isSome = true) :
    Stays view name v := by
  have through := congrArg Prod.snd (Repository.read_through store oneUser allowed tagged keyed)
  dsimp only at kept
  rw [← through] at kept
  refine ⟨key, source_of_read rfl (computes_initial allowed ?_ ?_), of_toOption kept.1, kept.2⟩
  · exact congrArg (·.toOption.isSome) tagged
  · exact congrArg Except.toOption keyed

/-- The value that an identifier stands for is forgotten, and the read that is pinned to it is still there.
Nor are there tags of a value that a decoded text is equated with under another operator, that a term is
looked for as, or that a scope compares with. -/
theorem pinned_reads_stay :
    (LacksTag (filteredBy [⟨"role_id", .eq, ["r_7"], .and, false⟩]) "role_id" (.int 7) ∧
      Stays (filteredBy [⟨"role_id", .eq, ["r_7"], .and, false⟩]) "role_id" (.int 7)) ∧
    LacksTag (searchedBy { conditions := [⟨"role_id", .like, ["7"], .or, false⟩] }) "role_id" (.int 7) ∧
    LacksTag (searchedBy { term := some "ada", fields := [⟨"name", some .eq⟩], enhanced := false })
      "name" (.str "ada") ∧
    LacksTag (chosenBy (.scope ⟨"active", [], ["status"], fun _ q =>
      .ok (q.addField "status" .eq [.str "active"])⟩)) "status" (.str "active") := by
  refine ⟨⟨lacksTag_of_tags rfl (by decide +kernel), ?_⟩, lacksTag_of_tags rfl (by decide +kernel),
    lacksTag_of_tags rfl (by decide +kernel), lacksTag_of_tags rfl (by decide +kernel)⟩
  have keyed : ((filteredBy [⟨"role_id", .eq, ["r_7"], .and, false⟩]).keyFor .all).toOption =
      some "repo:user:all:4f53cda18c2baa0c0354bb5f9a3ecbe5:4ae53757765c5141b68895a3b4873866" := by
    simp only [Repository.keyFor, Repository.keyOf, Key.compose, Key.textHash_eq]
    decide +kernel
  exact stays_of_known rfl rfl (of_toOption keyed) (by decide +kernel)

end Session

end QueryCache
