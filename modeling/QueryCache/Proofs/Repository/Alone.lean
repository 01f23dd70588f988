import QueryCache.Proofs.Coordinator.Stops
import QueryCache.Repository.Session

/-! Calls of a session, one after the other: each is a call on the cache alone, with the entities
standing beside it. -/

set_option autoImplicit false

namespace QueryCache

namespace Session

variable {σ : Type}

/-- The cache of a session with its coordinator. -/
def front (s : Session σ) : Service σ := ⟨s.coordinator, s.host.cache⟩

/-- A session with another cache and coordinator. -/
def withFront (s : Session σ) (f : Service σ) : Session σ :=
  ⟨f.coordinator, { s.host with cache := f.host }⟩

theorem report_front (cache : CacheStore σ) (records : List LogRecord) (s : Session σ) :
    s.report (Backing.store cache) records = s.withFront (s.front.report cache records) := by
  induction records generalizing s with
  | nil => rfl
  | cons record rest ih => exact ih { s with host := (Backing.store cache).report record s.host }

theorem take_front (cache : CacheStore σ) (step : Step) (s : Session σ) :
    s.take (Backing.store cache) step = s.withFront (s.front.take cache step) :=
  report_front cache step.logs { s with coordinator := step.coordinator }

theorem interact_front (cache : CacheStore σ) (call : ReadCall) (phase : Phase) (s : Session σ) :
    Service.interact (Backing.store cache) call phase s =
      (Service.interact cache call phase s.front).map fun next => (next.1, s.withFront next.2) := by
  cases phase <;> rfl

theorem proceed_front (cache : CacheStore σ) (call : ReadCall) (fuel : Nat) (phase : Phase)
    (s : Session σ) :
    Service.proceed (Backing.store cache) call fuel phase s =
      ((Service.proceed cache call fuel phase s.front).1,
        (Service.proceed cache call fuel phase s.front).2.1,
        s.withFront (Service.proceed cache call fuel phase s.front).2.2) := by
  induction fuel generalizing phase s with
  | zero => rfl
  | succ fuel ih =>
    rw [Service.proceed, Service.proceed, interact_front]
    cases Service.interact cache call phase s.front with
    | none => rfl
    | some next =>
      obtain ⟨step, f⟩ := next
      simp only [Option.map_some]
      have taken := take_front cache step (s.withFront f)
      cases landed : step.landing with
      | some landing => simp only [taken]; rfl
      | none =>
        simp only [taken, ih]
        rfl

theorem goOn_front (cache : CacheStore σ) (call : ReadCall) (step : Step) (s : Session σ) :
    Service.goOn (Backing.store cache) call step s =
      ((Service.goOn cache call step s.front).1, (Service.goOn cache call step s.front).2.1,
        s.withFront (Service.goOn cache call step s.front).2.2) := by
  rw [Service.goOn, Service.goOn]
  simp only [take_front]
  cases step.landing with
  | some landing => rfl
  | none =>
    simp only [proceed_front]
    rfl

theorem invalidateFrom_front (cache : CacheStore σ) (tags : List String) (strict : Bool) (fuel : Nat)
    (phase : InvalidationPhase) (s : Session σ) :
    Service.invalidateFrom (Backing.store cache) id (fun s _ => s)
        (fun seconds s => { s with host := (Backing.store cache).settle ((Backing.store cache).pass seconds s.host) })
        tags strict fuel phase s =
      let last := Service.invalidateFrom cache id (fun s _ => s)
        (fun seconds s => { s with host := cache.settle (cache.pass seconds s.host) })
        tags strict fuel phase s.front
      (last.1, s.withFront last.2) := by
  induction fuel generalizing phase s with
  | zero => cases phase <;> rfl
  | succ fuel ih =>
    cases phase with
    | finished outcome => rfl
    | sleeping failures seconds => exact ih _ _
    | calling failures =>
      simp only [Service.invalidateFrom, Service.takeInvalidation, report_front, ih]
      rfl

theorem invalidate_front (cache : CacheStore σ) (tags : List String) (strict : Bool) (s : Session σ) :
    Service.invalidate (Backing.store cache) tags strict s =
      ((Service.invalidate cache tags strict s.front).1,
        s.withFront (Service.invalidate cache tags strict s.front).2) := by
  simp only [Service.invalidate, Service.invalidateIn, Service.takeInvalidation, report_front,
    invalidateFrom_front]
  rfl

/-! ## Sessions between two calls -/

abbrev store : CacheStore CacheHost := CacheHost.store

/-- Nothing is under way, and no fault is due. -/
structure Rests (s : Session CacheHost) : Prop where
  faults : s.host.cache.faults = []
  indexed : s.host.cache.memory.Indexed
  idle : s.coordinator.inflight = []

/-- The entry that is kept under a key. -/
def kept (s : Session CacheHost) (key : String) : Option CacheEntry :=
  Table.get? s.host.cache.memory.entries key

/-- A session after calls: its cache holds nothing but what it held and what is `fresh`. -/
structure Follows (fresh : String → CacheEntry → Prop) (s s' : Session CacheHost) : Prop where
  rests : s'.Rests
  settings : s'.coordinator.settings = s.coordinator.settings
  contents : ∀ key found, s'.kept key = some found → fresh key found ∨
    ∃ old, s.kept key = some old ∧ old.tags = found.tags ∧ old.payload = found.payload

variable {s s' : Session CacheHost} {call : ReadCall}

theorem Rests.follows_refl (rests : s.Rests) : Follows (fun _ _ => False) s s :=
  ⟨rests, rfl, fun _ found held => .inr ⟨found, held, rfl, rfl⟩⟩

/-- What a read brings into the cache: its result under its key and its tags. -/
def IsResult (s : Session CacheHost) (call : ReadCall) (answer : Except Failure Value) (key : String)
    (entry : CacheEntry) : Prop :=
  key = call.key ∧ ∃ value, answer = .ok value ∧
    s.coordinator.settings.codec.encode value = .ok entry.payload ∧
    ∀ tag, tag ∈ entry.tags ↔ tag ∈ call.tags ++ call.resultTags value

/-- Calm steps bring nothing in. -/
theorem follows_of_calm {fresh : String → CacheEntry → Prop} (rests : s.Rests)
    (calm : Calm s.host.cache s'.host.cache) (idle : s'.coordinator.inflight = [])
    (settings : s'.coordinator.settings = s.coordinator.settings) : Follows fresh s s' := by
  refine ⟨⟨calm.faults.trans rests.faults, calm.indexed rests.indexed, idle⟩, settings, ?_⟩
  intro key found held
  obtain ⟨old, before, -, tags, payload⟩ := calm.nothingNew rests.indexed key found held
  exact .inr ⟨old, before, tags, payload⟩

theorem lifetime_congr {c c' : Coordinator} (settings : c'.settings = c.settings) (call : ReadCall) :
    c'.lifetime call = c.lifetime call := by
  rw [Coordinator.lifetime, Coordinator.lifetime, settings]

/-- With the only flight over, none is under way. -/
theorem idle_touchDown {c : Coordinator} {key : String} {flight : Nat}
    (flying : c.inflight = Table.put [] key flight) : (c.touchDown key flight).inflight = [] := by
  have found : Table.get? c.inflight key = some flight := by rw [flying, Table.get?_put_self]
  rw [Coordinator.touchDown, if_pos found, flying]
  simp [Table.put, Table.erase]

/-- What is brought in may be told of in fewer words. -/
theorem Follows.mono {fresh fresh' : String → CacheEntry → Prop} (follows : Follows fresh s s')
    (more : ∀ key entry, fresh key entry → fresh' key entry) : Follows fresh' s s' :=
  ⟨follows.rests, follows.settings, fun key found held => (follows.contents key found held).imp_left (more key found)⟩

/-- The only computation under way ends with its own result, unless its entry is refused. -/
theorem goOn_computed (now : Time) (answer : Except Failure Value) (startedAt : Nat)
    {t : Session CacheHost} {flight : Nat} (faultless : t.host.cache.faults = []) (indexed : t.host.cache.memory.Indexed)
    (absent : t.kept call.key = none) (flying : t.coordinator.inflight = Table.put [] call.key flight) :
    ∃ outcome landing t', Service.goOn (Backing.store store) call
        (t.coordinator.afterComputing now call flight startedAt answer) t =
          (.finished outcome, landing, t') ∧
      Follows (t.IsResult call answer) t t' ∧ t'.host.entities = t.host.entities ∧
      (outcome = answer ∨ (t.coordinator.lifetime call).toBinary? = none ∨ call.tags = []) := by
  have lands := @Service.lands_goOn call t.front faultless flight startedAt answer _
    (Service.computes_afterComputing t.front.coordinator now call flight startedAt answer)
  rw [goOn_front]
  change Service.Lands call t.front flight startedAt answer _ (Service.goOn store call
    (t.coordinator.afterComputing now call flight startedAt answer) t.front) at lands
  generalize Service.goOn store call (t.coordinator.afterComputing now call flight startedAt answer)
    t.front = stop at lands
  cases lands with
  | @dropped f outcome landing calm books told kept =>
    refine ⟨outcome, _, t.withFront f, rfl, ⟨⟨calm.faults.trans faultless, calm.indexed indexed,
      books.inflight.trans (idle_touchDown flying)⟩, books.settings, ?_⟩, rfl, kept⟩
    intro key found held
    obtain ⟨old, before, -, tags, payload⟩ := calm.nothingNew indexed key found held
    exact .inr ⟨old, before, tags, payload⟩
  | @stored f value entry tags storing given encoded stored books key listed whole fresh =>
    have free : Table.get? t.front.host.memory.entries entry.key = none := key ▸ absent
    refine ⟨.ok value, _, t.withFront f, rfl, ⟨⟨stored.faults.trans faultless, stored.indexed indexed free,
      books.inflight.trans (idle_touchDown flying)⟩, books.settings, ?_⟩, rfl, .inl given.symm⟩
    intro other found held
    rcases stored.contents indexed free other found held with ⟨same, rfl⟩ | ⟨old, before, -, tags, payload⟩
    · refine .inl ⟨same.trans key, value, given, encoded, fun tag => ?_⟩
      rw [listed, whole, mem_tagSet]
    · exact .inr ⟨old, before, tags, payload⟩

/-- A read while nothing else is under way brings in its own result, and only where the cache had
nothing to answer it with; what was kept under its key is gone then. -/
theorem read_follows (rests : s.Rests) {work : Attempt (Backing CacheHost) Value} {answer : Except Failure Value}
    (computes : ∀ b : Backing CacheHost, b.entities = s.host.entities →
      ∃ n, work b = (answer, { b with entities := { b.entities with executions := n } })) :
    ∃ outcome, ∃ s' : Session CacheHost, s.read (Backing.store store) call work = (outcome, s') ∧
      Follows (fun key entry => s.front.known call.key = none ∧ s.IsResult call answer key entry) s s' ∧
      (s.front.known call.key = none → ∀ entry, s'.kept call.key = some entry →
        s.IsResult call answer call.key entry) ∧
      (∃ m, s'.host.entities = { s.host.entities with executions := m }) ∧
      (outcome = answer ∨ (∃ entry value, s.kept call.key = some entry ∧
          s.coordinator.settings.codec.decode entry.payload = .ok value ∧ outcome = .ok value) ∨
        ¬ s.coordinator.settings.Renews ∨ (s.coordinator.lifetime call).toBinary? = none ∨ call.tags = []) := by
  have seeks := @Service.seeks_proceed call s.front rests.faults rests.indexed true
  unfold Service.read
  simp only [Coordinator.start, Coordinator.rank, proceed_front]
  change Service.Seeks call.key s.front
    (Service.proceed store call 4 (.lookup (.joining true)) s.front) at seeks
  generalize Service.proceed store call 4 (.lookup (.joining true)) s.front = stop at seeks
  cases seeks with
  | @hit f entry value calm same found decoded =>
    refine ⟨.ok value, s.withFront f, rfl, follows_of_calm rests calm (same.inflight.trans rests.idle)
      same.settings, fun unknown => ?_, ⟨s.host.entities.executions, rfl⟩,
      .inr (.inl ⟨entry, value, ?_, decoded, rfl⟩)⟩
    · cases (Service.known_eq_some found decoded).symm.trans unknown
    · exact (MemoryCache.get_keeps rests.indexed s.host.cache.now call.key).2.2.2 entry found
  | @failed f value failure calm same known refused =>
    refine ⟨.error failure, s.withFront f, rfl, follows_of_calm rests calm (same.inflight.trans rests.idle)
      same.settings, fun unknown => ?_, ⟨s.host.entities.executions, rfl⟩, .inr (.inr (.inl refused))⟩
    cases known.symm.trans unknown
  | missed unknown misses =>
    cases misses with
    | joins calm same found =>
      have idle : s.front.coordinator.inflight = [] := rests.idle
      rw [idle] at found
      cases found
    | @leads f calm same free absent =>
      obtain ⟨n, run⟩ := computes (s.withFront f).host rfl
      -- The session at the moment the computation is over.
      let t : Session CacheHost :=
        ⟨f.coordinator, ⟨f.host, { s.host.entities with executions := n }⟩⟩
      have flying : t.coordinator.inflight = Table.put [] call.key s.front.coordinator.nextFlight := by
        have took : t.coordinator.inflight = Table.put s.front.coordinator.inflight call.key
          s.front.coordinator.nextFlight := same.inflight
        rw [took, show s.front.coordinator.inflight = [] from rests.idle]
      have settings : t.coordinator.settings = s.coordinator.settings := same.settings
      have none : t.kept call.key = none := absent
      obtain ⟨outcome, landing, t', goes, follows, beside, given⟩ := goOn_computed t.host.cache.now answer
        s.front.coordinator.sequence (calm.faults.trans rests.faults) (calm.indexed rests.indexed) none flying
      have computed : Service.compute (Backing.store store) call work s.front.coordinator.nextFlight
          s.front.coordinator.sequence (s.withFront f) = (.finished outcome, landing, t') := by
        have run' : work.run (s.withFront f).host = _ := run
        unfold Service.compute
        rw [run']
        exact goes
      have fresh {key : String} {entry : CacheEntry} (result : t.IsResult call answer key entry) :
          s.IsResult call answer key entry := by
        obtain ⟨same, value, given, encoded, listed⟩ := result
        exact ⟨same, value, given, settings ▸ encoded, listed⟩
      dsimp only
      rw [computed]
      refine ⟨outcome, t', rfl, ⟨follows.rests, follows.settings.trans settings, ?_⟩, fun _ entry held => ?_,
        ⟨n, beside⟩, ?_⟩
      · intro key found held
        rcases follows.contents key found held with result | ⟨old, before, tags, payload⟩
        · exact .inl ⟨unknown, fresh result⟩
        · obtain ⟨older, before', -, tags', payload'⟩ := calm.nothingNew rests.indexed key old before
          exact .inr ⟨older, before', tags'.trans tags, payload'.trans payload⟩
      · rcases follows.contents call.key entry held with result | ⟨old, before, -⟩
        · exact fresh result
        · cases none.symm.trans before
      · rw [lifetime_congr settings] at given
        exact given.imp_right fun refused => .inr (.inr refused)

/-- Nothing came into the cache. -/
abbrev Keeps (s s' : Session CacheHost) : Prop := Follows (fun _ _ => False) s s'

theorem Keeps.trans {t : Session CacheHost} (first : Keeps s t) (last : Keeps t s') : Keeps s s' := by
  refine ⟨last.rests, last.settings.trans first.settings, fun key found held => ?_⟩
  obtain ⟨⟨⟩⟩ | ⟨middle, between, tags, payload⟩ := last.contents key found held
  obtain ⟨⟨⟩⟩ | ⟨old, before, tags', payload'⟩ := first.contents key middle between
  exact .inr ⟨old, before, tags'.trans tags, payload'.trans payload⟩

/-- Other entities beside a cache leave it alone. -/
theorem Rests.keeps_entities (rests : s.Rests) (entities : EntityStore) :
    Keeps s { s with host.entities := entities } :=
  ⟨⟨rests.faults, rests.indexed, rests.idle⟩, rfl, fun _ found held => .inr ⟨found, held, rfl, rfl⟩⟩

theorem report_alone (rests : s.Rests) (records : List LogRecord) :
    Keeps s (s.report (Backing.store store) records) ∧
      (s.report (Backing.store store) records).host.entities = s.host.entities := by
  rw [report_front]
  have logged := Service.foldl_report records s.host.cache
  exact ⟨follows_of_calm rests (.of_eq logged.2.1 logged.1) rests.idle rfl, rfl⟩

/-- An invalidation while nothing else is under way. -/
theorem invalidate_alone (rests : s.Rests) (tags : List String) :
    ∃ s' : Session CacheHost, Service.invalidate (Backing.store store) tags false s = (.ok true, s') ∧ Keeps s s' ∧
      s'.host.entities = s.host.entities ∧
      ∀ key entry, s'.kept key = some entry → ∀ tag ∈ tags, tag ∉ entry.tags := by
  obtain ⟨f, run, calm, books, gone⟩ := @Service.invalidate_takes s.front rests.faults tags false
  rw [invalidate_front]
  change Service.invalidate store tags false s.front = _ at run
  rw [run]
  have idle : f.coordinator.inflight = [] ∧ f.coordinator.settings = s.coordinator.settings := by
    rcases books with books | ⟨-, books⟩
    · exact ⟨books.inflight.trans rests.idle, books.settings⟩
    · exact ⟨books.inflight.trans rests.idle, books.settings⟩
  exact ⟨s.withFront f, rfl, follows_of_calm rests calm idle.1 idle.2, rfl, gone rests.indexed⟩

theorem keeps_pass (rests : s.Rests) (seconds : Binary64) :
    Keeps s { s with host := (Backing.store store).pass seconds s.host } :=
  follows_of_calm rests (.of_eq rfl rfl) rests.idle rfl

theorem keeps_settle (rests : s.Rests) :
    Keeps s { s with host := (Backing.store store).settle s.host } := by
  refine follows_of_calm rests ⟨rfl, fun indexed => ?_, fun indexed => ?_⟩ rests.idle rfl
  · exact (MemoryCache.fireTimers_keeps indexed _).1
  · exact (MemoryCache.fireTimers_keeps indexed _).2

end Session

end QueryCache
