import QueryCache.Proofs.Cache.Index
import QueryCache.Proofs.Coordinator.Interleaving
import QueryCache.Proofs.Outcome

/-! Where a call stops, and what it did to the coordinator and the cache by then.

While no fault is due the cache answers every operation. A call that looks its key up is then
answered, joins a flight, or computes in a flight of its own; a call that computed has its
flight land, with its value in the cache or without. -/

set_option autoImplicit false

namespace QueryCache

open Outcome

/-- Coordinators that differ in their metrics at most. -/
structure SameBooks (before after : Coordinator) : Prop where
  settings : after.settings = before.settings
  inflight : after.inflight = before.inflight
  nextFlight : after.nextFlight = before.nextFlight
  sequence : after.sequence = before.sequence
  invalidatedAt : after.invalidatedAt = before.invalidatedAt
  clearedAt : after.clearedAt = before.clearedAt

theorem SameBooks.refl (c : Coordinator) : SameBooks c c := ⟨rfl, rfl, rfl, rfl, rfl, rfl⟩

theorem SameBooks.trans {a b c : Coordinator} (first : SameBooks a b) (last : SameBooks b c) :
    SameBooks a c :=
  ⟨last.settings.trans first.settings, last.inflight.trans first.inflight,
    last.nextFlight.trans first.nextFlight, last.sequence.trans first.sequence,
    last.invalidatedAt.trans first.invalidatedAt, last.clearedAt.trans first.clearedAt⟩

/-- Counting changes the metrics only. -/
theorem SameBooks.count (c : Coordinator) (f : Metrics → Metrics) : SameBooks c (c.count f) :=
  ⟨rfl, rfl, rfl, rfl, rfl, rfl⟩

theorem SameBooks.takeOff {before after : Coordinator} (same : SameBooks before after) (key : String) :
    SameBooks (before.takeOff key) (after.takeOff key) := by
  constructor <;> simp [Coordinator.takeOff, same.settings, same.inflight, same.nextFlight,
    same.sequence, same.invalidatedAt, same.clearedAt]

theorem SameBooks.touchDown {before after : Coordinator} (same : SameBooks before after) (key : String)
    (flight : Nat) : SameBooks (before.touchDown key flight) (after.touchDown key flight) := by
  constructor <;> simp [Coordinator.touchDown, same.settings, same.inflight, same.nextFlight,
    same.sequence, same.invalidatedAt, same.clearedAt]

theorem SameBooks.staleSince {before after : Coordinator} (same : SameBooks before after)
    (startedAt : Nat) (tags : List String) :
    after.staleSince startedAt tags = before.staleSince startedAt tags := by
  rw [Coordinator.staleSince, Coordinator.staleSince, same.clearedAt, same.invalidatedAt]

/-- Nothing came into the cache, and its index still covers what is in it. -/
structure Calm (before after : CacheHost) : Prop where
  faults : after.faults = before.faults
  indexed : before.memory.Indexed → after.memory.Indexed
  nothingNew : before.memory.Indexed → MemoryCache.NothingNew before.memory after.memory

theorem Calm.refl (h : CacheHost) : Calm h h :=
  ⟨rfl, id, fun _ => .refl _⟩

theorem Calm.trans {a b c : CacheHost} (first : Calm a b) (last : Calm b c) : Calm a c :=
  ⟨last.faults.trans first.faults, fun indexed => last.indexed (first.indexed indexed),
    fun indexed => (first.nothingNew indexed).trans (last.nothingNew (first.indexed indexed))⟩

/-- Hosts with one cache are equally calm. -/
theorem Calm.of_eq {before after : CacheHost} (faults : after.faults = before.faults)
    (memory : after.memory = before.memory) : Calm before after :=
  ⟨faults, fun indexed => memory ▸ indexed, fun _ => memory ▸ .refl _⟩

theorem Calm.absent {before after : CacheHost} (calm : Calm before after)
    (indexed : before.memory.Indexed) {key : String}
    (absent : Table.get? before.memory.entries key = none) :
    Table.get? after.memory.entries key = none := by
  by_contra some
  obtain ⟨entry, found⟩ := Option.ne_none_iff_exists'.1 some
  obtain ⟨old, held, -⟩ := calm.nothingNew indexed key entry found
  cases absent.symm.trans held

/-- A hit can be renewed if it has to be. -/
def CoordinatorSettings.Renews (settings : CoordinatorSettings) : Prop :=
  settings.refreshTtlOnHit = true → settings.defaultTtl.toBinary?.isSome = true

namespace CacheHost

/-- Without faults every operation takes effect. -/
theorem reach_eq {α : Type} {h : CacheHost} (faultless : h.faults = []) (call : StoreCall)
    (effect : Time → MemoryCache → α × MemoryCache) :
    reach call effect h = (.ok (effect h.now h.memory).1,
      { h with calls := h.calls ++ [call], memory := (effect h.now h.memory).2 }) := by
  simp [reach, nextFault, faultless]

end CacheHost

namespace Service

variable {call : ReadCall} {s : Service CacheHost}

abbrev store : CacheStore CacheHost := CacheHost.store

abbrev memory (s : Service CacheHost) : MemoryCache := s.host.memory

/-- Reports leave all but the log alone. -/
theorem foldl_report (records : List LogRecord) (h : CacheHost) :
    (records.foldl (fun host record => store.report record host) h).memory = h.memory ∧
      (records.foldl (fun host record => store.report record host) h).faults = h.faults ∧
      (records.foldl (fun host record => store.report record host) h).now = h.now := by
  induction records generalizing h with
  | nil => exact ⟨rfl, rfl, rfl⟩
  | cons record rest ih => exact ih (h.report record)

theorem take_calm (s : Service CacheHost) (step : Step) : Calm s.host (s.take store step).host :=
  .of_eq (foldl_report step.logs s.host).2.1 (foldl_report step.logs s.host).1

/-- What the cache has for a key, if it can be decoded. -/
def known (s : Service CacheHost) (key : String) : Option Value :=
  (s.memory.get s.host.now key).1.bind fun entry => (s.coordinator.settings.codec.decode entry.payload).toOption

/-- What a look-up that finds nothing leads to. -/
inductive Misses (key : String) (s : Service CacheHost) :
    Phase × Option (Nat × Landing) × Service CacheHost → Prop where
  | joins {s' : Service CacheHost} {flight : Nat} :
      Calm s.host s'.host → SameBooks s.coordinator s'.coordinator →
      Table.get? s.coordinator.inflight key = some flight →
      Misses key s (.waiting flight, none, s')
  | leads {s' : Service CacheHost} :
      Calm s.host s'.host → SameBooks (s.coordinator.takeOff key) s'.coordinator →
      Table.get? s.coordinator.inflight key = none → Table.get? s'.memory.entries key = none →
      Misses key s (.computing s.coordinator.nextFlight s.coordinator.sequence, none, s')

/-- What a look-up of a key leads to. -/
inductive Seeks (key : String) (s : Service CacheHost) :
    Phase × Option (Nat × Landing) × Service CacheHost → Prop where
  | hit {s' : Service CacheHost} {entry : CacheEntry} {value : Value} :
      Calm s.host s'.host → SameBooks s.coordinator s'.coordinator →
      (s.memory.get s.host.now key).1 = some entry →
      s.coordinator.settings.codec.decode entry.payload = .ok value →
      Seeks key s (.finished (.ok value), none, s')
  | failed {s' : Service CacheHost} {value : Value} {failure : Failure} :
      Calm s.host s'.host → SameBooks s.coordinator s'.coordinator → s.known key = some value →
      ¬ s.coordinator.settings.Renews →
      Seeks key s (.finished (.error failure), none, s')
  | missed {stop : Phase × Option (Nat × Landing) × Service CacheHost} :
      s.known key = none → Misses key s stop → Seeks key s stop

/-- A look-up leads to the same as one after calm steps. -/
theorem Misses.before {key : String} {s s₁ : Service CacheHost}
    {stop : Phase × Option (Nat × Landing) × Service CacheHost} (misses : Misses key s₁ stop)
    (calm : Calm s.host s₁.host) (same : SameBooks s.coordinator s₁.coordinator) :
    Misses key s stop := by
  cases misses with
  | joins calm' same' found => exact .joins (calm.trans calm') (same.trans same') (same.inflight ▸ found)
  | leads calm' same' free absent =>
    rw [same.nextFlight, same.sequence]
    exact .leads (calm.trans calm') ((same.takeOff key).trans same') (same.inflight ▸ free) absent

/-! ## From a look-up -/

theorem run_get (faultless : s.host.faults = []) (key : String) :
    (store.get key).run s.host = (.ok (s.memory.get s.host.now key).1,
      { s.host with
        calls := s.host.calls ++ [.get key], memory := (s.memory.get s.host.now key).2 }) :=
  CacheHost.reach_eq faultless (.get key) fun now c => c.get now key

theorem calm_get (s : Service CacheHost) (key : String) : Calm s.host
    { s.host with
      calls := s.host.calls ++ [.get key], memory := (s.memory.get s.host.now key).2 } :=
  ⟨rfl, fun indexed => (MemoryCache.get_keeps indexed s.host.now key).1,
    fun indexed => (MemoryCache.get_keeps indexed s.host.now key).2.1⟩

theorem run_delete (faultless : s.host.faults = []) (key : String) :
    (store.delete key).run s.host = (.ok (s.memory.delete key).1,
      { s.host with
        calls := s.host.calls ++ [.delete key], memory := (s.memory.delete key).2 }) :=
  CacheHost.reach_eq faultless (.delete key) fun _ c => c.delete key

theorem calm_delete (s : Service CacheHost) (key : String) : Calm s.host
    { s.host with
      calls := s.host.calls ++ [.delete key], memory := (s.memory.delete key).2 } :=
  ⟨rfl, fun indexed => (MemoryCache.delete_keeps indexed key).1,
    fun indexed => (MemoryCache.delete_keeps indexed key).2.1⟩

/-- A renewal fails only for a span out of range, and never because the cache is away. -/
theorem run_touch (faultless : s.host.faults = []) (key : String) (ttl : Number) :
    ∃ reply host, (store.touch key ttl).run s.host = (reply, host) ∧ Calm s.host host ∧
      ∀ e, reply = .error e → e.isUnavailable = false ∧ ttl.toBinary? = none := by
  cases span : ttl.toBinary? with
  | none =>
    have run : (store.touch key ttl).run s.host =
        (.error (.overflow "int too large to convert to float"), s.host) := by
      change CacheHost.touch key ttl s.host = _
      simp only [CacheHost.touch, span]
      rfl
    exact ⟨_, _, run, .refl _, by rintro e ⟨⟩; exact ⟨rfl, rfl⟩⟩
  | some span' =>
    have run : (store.touch key ttl).run s.host = (.ok (s.memory.touch s.host.now key span').1,
        { s.host with
          calls := s.host.calls ++ [.touch key span']
          memory := (s.memory.touch s.host.now key span').2 }) := by
      rw [← CacheHost.reach_eq faultless (.touch key span') fun now c => c.touch now key span']
      change CacheHost.touch key ttl s.host = _
      simp only [CacheHost.touch, span]
      rfl
    refine ⟨_, _, run, ⟨rfl, fun indexed => ?_, fun indexed => ?_⟩, nofun⟩
    · exact (MemoryCache.touch_keeps indexed s.host.now key span').1
    · exact (MemoryCache.touch_keeps indexed s.host.now key span').2

/-- The leader finds nothing, and computes. -/
theorem proceed_leading (call : ReadCall) (faultless : s.host.faults = [])
    (absent : Table.get? s.memory.entries call.key = none) (fuel flight startedAt : Nat) :
    ∃ s', proceed store call (fuel + 1) (.lookup (.leading flight startedAt)) s =
        (.computing flight startedAt, none, s') ∧
      Calm s.host s'.host ∧ SameBooks s.coordinator s'.coordinator := by
  have nothing : (s.memory.get s.host.now call.key).1 = none := by
    rw [MemoryCache.get, absent]
  have rests (fuel : Nat) (s : Service CacheHost) :
      proceed store call fuel (.computing flight startedAt) s = (.computing flight startedAt, none, s) := by
    cases fuel <;> rfl
  rw [proceed]
  simp only [interact, run_get faultless, nothing, Coordinator.afterLookup, Coordinator.miss, rests]
  refine ⟨_, rfl, (calm_get s call.key).trans (take_calm { s with host := _ } _), .count _ _⟩

theorem misses_of_miss (faultless : s.host.faults = []) (indexed : s.memory.Indexed)
    (absent : Table.get? s.memory.entries call.key = none) (fuel : Nat) (first : Bool)
    {step : Step} (missed : step = s.coordinator.miss call (.joining first)) :
    step.landing = none ∧
      Misses call.key s (proceed store call (fuel + 1) step.phase (s.take store step)) := by
  have calm := take_calm s step
  -- Whether a flight of the key is in the air decides between joining and leading.
  cases held : Table.get? s.coordinator.inflight call.key with
  | some flight =>
    have waits : step.phase = .waiting flight ∧ step.landing = none ∧
        SameBooks s.coordinator step.coordinator := by
      subst missed
      cases first <;> simp [Coordinator.miss, Coordinator.join, Coordinator.count, held, Step.reporting] <;>
        exact ⟨rfl, rfl, rfl, rfl, rfl, rfl⟩
    obtain ⟨phase, landing, same⟩ := waits
    refine ⟨landing, ?_⟩
    rw [phase]
    exact .joins calm same held
  | none =>
    have leads : step.phase = .lookup (.leading s.coordinator.nextFlight s.coordinator.sequence) ∧
        step.landing = none ∧ SameBooks (s.coordinator.takeOff call.key) step.coordinator := by
      subst missed
      cases first <;> simp [Coordinator.miss, Coordinator.join, Coordinator.count, held, Step.reporting] <;>
        exact ⟨rfl, rfl, rfl, rfl, rfl, rfl⟩
    obtain ⟨phase, landing, same⟩ := leads
    refine ⟨landing, ?_⟩
    rw [phase]
    obtain ⟨s', stop, calm', same'⟩ := proceed_leading call (calm.faults.trans faultless)
      (calm.absent indexed absent) fuel s.coordinator.nextFlight s.coordinator.sequence
    rw [stop]
    exact .leads (calm.trans calm') (same.trans same') held
      (calm'.absent (calm.indexed indexed) (calm.absent indexed absent))

/-- An entry that cannot be decoded is deleted, and then missed. -/
theorem misses_discard (faultless : s.host.faults = []) (indexed : s.memory.Indexed) (first : Bool) :
    Misses call.key s (proceed store call 3 (.discard (.joining first)) s) := by
  rw [proceed]
  simp only [interact, run_delete faultless, Coordinator.afterDiscard]
  -- After the deletion the call misses as if it had found nothing.
  have calm := calm_delete s call.key
  obtain ⟨-, -, gone⟩ := MemoryCache.delete_keeps indexed call.key
  obtain ⟨landing, misses⟩ := misses_of_miss
    (s := { s with host := { s.host with
      calls := s.host.calls ++ [.delete call.key], memory := (s.memory.delete call.key).2 } })
    (calm.faults.trans faultless) (calm.indexed indexed) gone 1 first rfl
  simp only [landing]
  exact misses.before calm (.refl _)

/-- A hit answers a call that does not lead. -/
theorem hit_answers (s : Service CacheHost) (call : ReadCall) (first : Bool) (value : Value) :
    (s.coordinator.hit call (.joining first) value).phase = .finished (.ok value) ∧
      (s.coordinator.hit call (.joining first) value).landing = none ∧
      SameBooks s.coordinator (s.coordinator.hit call (.joining first) value).coordinator := by
  cases first <;>
    exact ⟨rfl, rfl, ⟨rfl, rfl, rfl, rfl, rfl, rfl⟩⟩

theorem proceed_finished (fuel : Nat) (outcome : Except Failure Value) (s : Service CacheHost) :
    proceed store call fuel (.finished outcome) s = (.finished outcome, none, s) := by
  cases fuel <;> rfl

theorem refresh_answers (call : ReadCall) (faultless : s.host.faults = []) (fuel : Nat) (first : Bool) (value : Value) :
    ∃ outcome s', proceed store call (fuel + 1) (.refresh (.joining first) value) s =
        (.finished outcome, none, s') ∧
      (outcome = .ok value ∨
        ∃ e, outcome = .error e ∧ s.coordinator.settings.defaultTtl.toBinary? = none) ∧
      Calm s.host s'.host ∧ SameBooks s.coordinator s'.coordinator := by
  obtain ⟨reply, host, run, calm, away⟩ := run_touch faultless call.key s.coordinator.settings.defaultTtl
  rw [proceed]
  simp only [interact, run]
  cases reply with
  | ok renewed =>
    obtain ⟨phase, landing, same⟩ := hit_answers s call first value
    simp only [Coordinator.afterRefresh, landing, phase, proceed_finished]
    exact ⟨_, _, rfl, .inl rfl, calm.trans (take_calm { s with host := host } _), same⟩
  | error e =>
    simp only [Coordinator.afterRefresh, Coordinator.survive, (away e rfl).1, Bool.false_eq_true, if_false,
      Coordinator.fail, Coordinator.finish, proceed_finished]
    exact ⟨_, _, rfl, .inr ⟨e, rfl, (away e rfl).2⟩, calm.trans (take_calm { s with host := host } _), .refl _⟩

theorem known_eq_some {key : String} {entry : CacheEntry} {value : Value}
    (held : (s.memory.get s.host.now key).1 = some entry)
    (decoded : s.coordinator.settings.codec.decode entry.payload = .ok value) : s.known key = some value := by
  rw [known, held, Option.bind_some, decoded]
  rfl

/-- A call that looks its key up is answered, fails, joins a flight or leads one. -/
theorem seeks_proceed (faultless : s.host.faults = []) (indexed : s.memory.Indexed) (first : Bool) :
    Seeks call.key s (proceed store call 4 (.lookup (.joining first)) s) := by
  rw [proceed]
  simp only [interact, run_get faultless]
  have calm := calm_get s call.key
  obtain ⟨-, -, left, -⟩ := MemoryCache.get_keeps indexed s.host.now call.key
  cases found : (s.memory.get s.host.now call.key).1 with
  | none =>
    obtain ⟨landing, misses⟩ := misses_of_miss
      (s := { s with host := { s.host with
        calls := s.host.calls ++ [.get call.key], memory := (s.memory.get s.host.now call.key).2 } })
      (calm.faults.trans faultless) (calm.indexed indexed) (left.trans found) 2 first rfl
    simp only [Coordinator.afterLookup, landing]
    exact .missed (by rw [known, found]; rfl) (misses.before calm (.refl _))
  | some entry =>
    cases decoded : s.coordinator.settings.codec.decode entry.payload with
    | error e =>
      simp only [Coordinator.afterLookup, decoded]
      refine .missed (by simp [known, found, decoded, Except.toOption])
        ((misses_discard ?_ ?_ first).before ?_ (.count _ _))
      · exact (calm.trans (take_calm { s with host := _ } _)).faults.trans faultless
      · exact (calm.trans (take_calm { s with host := _ } _)).indexed indexed
      · exact calm.trans (take_calm { s with host := _ } _)
    | ok value =>
      simp only [Coordinator.afterLookup, decoded]
      -- The renewal of the entry is the only difference that the setting makes.
      cases refreshes : s.coordinator.settings.refreshTtlOnHit with
      | true =>
        simp only [if_true]
        have calm' (step : Step) := calm.trans (take_calm { s with host := _ } step)
        obtain ⟨outcome, s', stop, answer, calm'', same⟩ := refresh_answers call
          ((calm' _).faults.trans faultless) 2 first value
        rw [stop]
        rcases answer with rfl | ⟨e, rfl, unknown⟩
        · exact .hit ((calm' _).trans calm'') same found decoded
        · refine .failed ((calm' _).trans calm'') same (known_eq_some found decoded) fun renews => ?_
          have known := renews refreshes
          rw [show s.coordinator.settings.defaultTtl.toBinary? = none from unknown] at known
          cases known
      | false =>
        obtain ⟨phase, landing, same⟩ := hit_answers s call first value
        simp only [Bool.false_eq_true, if_false, landing, phase, proceed_finished]
        exact .hit (calm.trans (take_calm { s with host := _ } _)) same found decoded

/-! ## From a computation -/

/-- What a landing tells those who wait is what its leader gave. -/
def tells : Landing → Except Failure Value → Prop
  | .value value, outcome => outcome = .ok value
  | .failed failure, outcome => outcome = .error failure
  | .abandoned, outcome => outcome = .error .cancelled

/-- An entry came into the cache at most, where its key had none. -/
structure Stored (before after : CacheHost) (entry : CacheEntry) : Prop where
  faults : after.faults = before.faults
  indexed : before.memory.Indexed → Table.get? before.memory.entries entry.key = none →
    after.memory.Indexed
  contents : before.memory.Indexed → Table.get? before.memory.entries entry.key = none →
    ∀ key found, Table.get? after.memory.entries key = some found →
      key = entry.key ∧ found = entry ∨
        ∃ old, Table.get? before.memory.entries key = some old ∧
          old.key = found.key ∧ old.tags = found.tags ∧ old.payload = found.payload

theorem Stored.of_eq {before middle after : CacheHost} {entry : CacheEntry}
    (stored : Stored before middle entry) (faults : after.faults = middle.faults)
    (memory : after.memory = middle.memory) : Stored before after entry :=
  ⟨faults.trans stored.faults, fun indexed free => memory ▸ stored.indexed indexed free,
    fun indexed free => memory ▸ stored.contents indexed free⟩

/-- What a step after a computation is. -/
inductive Computes (c : Coordinator) (call : ReadCall) (flight startedAt : Nat)
    (result : Except Failure Value) : Step → Prop where
  | lands {step : Step} {outcome : Except Failure Value} {landing : Landing} :
      step.phase = .finished outcome → step.landing = some (flight, landing) →
      SameBooks (c.touchDown call.key flight) step.coordinator → tells landing outcome →
      (outcome = result ∨ (c.lifetime call).toBinary? = none) →
      Computes c call flight startedAt result step
  | stores {step : Step} {value : Value} {entry : CacheEntry} :
      step.phase = .storing flight startedAt value entry → step.landing = none →
      SameBooks c step.coordinator → result = .ok value →
      c.settings.codec.encode value = .ok entry.payload →
      entry.key = call.key → entry.tags = tagSet (tagSet (call.tags ++ call.resultTags value)) →
      c.staleSince startedAt (tagSet (call.tags ++ call.resultTags value)) = false →
      Computes c call flight startedAt result step

/-- What the step after a computation leads to. -/
inductive Lands (call : ReadCall) (s : Service CacheHost) (flight startedAt : Nat)
    (result : Except Failure Value) (step : Step) :
    Phase × Option (Nat × Landing) × Service CacheHost → Prop where
  | dropped {s' : Service CacheHost} {outcome : Except Failure Value} {landing : Landing} :
      Calm s.host s'.host → SameBooks (s.coordinator.touchDown call.key flight) s'.coordinator →
      tells landing outcome →
      (outcome = result ∨ (s.coordinator.lifetime call).toBinary? = none ∨ call.tags = []) →
      Lands call s flight startedAt result step (.finished outcome, some (flight, landing), s')
  | stored {s' : Service CacheHost} {value : Value} {entry : CacheEntry} {tags : List String} :
      step.phase = .storing flight startedAt value entry → result = .ok value →
      s.coordinator.settings.codec.encode value = .ok entry.payload → Stored s.host s'.host entry →
      SameBooks (s.coordinator.touchDown call.key flight) s'.coordinator →
      entry.key = call.key → (∀ tag, tag ∈ entry.tags ↔ tag ∈ tags) →
      tags = tagSet (call.tags ++ call.resultTags value) →
      s.coordinator.staleSince startedAt tags = false →
      Lands call s flight startedAt result step (.finished (.ok value), some (flight, .value value), s')

/-- An entry is refused only for a span out of range. -/
theorem lifetime_of_create_eq_error {now : Time} {key : String} {tags : List String} {payload : Bytes}
    {lifetime : Number} {failure : Failure}
    (refused : CacheEntry.create now key tags payload (some lifetime) = .error failure) :
    lifetime.toBinary? = none := by
  cases known : lifetime.toBinary? with
  | none => rfl
  | some span =>
    cases empty : lifetime.isZero <;>
      simp [CacheEntry.create, empty, Option.filter, Time.after?, known, Failure.inRange, bind,
        Except.bind, pure, Except.pure, Functor.map, Except.map] at refused

theorem computes_afterComputing (c : Coordinator) (now : Time) (call : ReadCall)
    (flight startedAt : Nat) (result : Except Failure Value) :
    Computes c call flight startedAt result (c.afterComputing now call flight startedAt result) := by
  unfold Coordinator.afterComputing
  split
  · next value =>
    unfold Coordinator.store
    dsimp only
    split
    · exact .lands rfl rfl (.refl _) rfl (.inl rfl)
    · next fresh =>
      have fresh : c.staleSince startedAt (tagSet (call.tags ++ call.resultTags value)) = false := by
        simpa using fresh
      split
      · exact .lands rfl rfl ((SameBooks.count c _).touchDown _ _) rfl (.inl rfl)
      · next payload encoded =>
        split
        · next entry created =>
          obtain ⟨expiry, -, same⟩ := bind_eq_ok.1 created
          cases same
          exact .stores rfl rfl (.refl _) rfl encoded rfl rfl fresh
        · next failure refused =>
          exact .lands rfl rfl (.refl _) rfl (.inr (lifetime_of_create_eq_error refused))
  · exact .lands rfl rfl (.refl _) rfl (.inl rfl)
  · exact .lands rfl rfl (.refl _) rfl (.inl rfl)

theorem run_put (faultless : s.host.faults = []) (entry : CacheEntry) :
    (entry.tags = [] ∧ (store.put entry).run s.host = (.error (.untagged entry.key), s.host)) ∨
      (store.put entry).run s.host = (.ok (), { s.host with
        calls := s.host.calls ++ [.put entry.key], memory := s.memory.put s.host.now entry }) := by
  change _ ∧ CacheHost.put entry s.host = _ ∨ CacheHost.put entry s.host = _
  cases untagged : entry.tags.isEmpty with
  | true =>
    refine .inl ⟨List.isEmpty_iff.1 untagged, ?_⟩
    simp only [CacheHost.put, CacheEntry.checkTags, untagged]
    rfl
  | false =>
    right
    have reached := CacheHost.reach_eq faultless (.put entry.key) fun now c => ((), c.put now entry)
    rw [← reached]
    simp only [CacheHost.put, CacheEntry.checkTags, untagged]
    rfl

/-- A flight lands, with its value in the cache unless that was invalidated, cannot be encoded
or cannot be kept. -/
theorem lands_goOn (faultless : s.host.faults = []) {flight startedAt : Nat}
    {result : Except Failure Value} {step : Step}
    (computes : Computes s.coordinator call flight startedAt result step) :
    Lands call s flight startedAt result step (goOn store call step s) := by
  have calm := take_calm s step
  cases computes with
  | @lands outcome landing phase landed same told kept =>
    rw [goOn]
    simp only [landed, phase]
    exact .dropped calm same told (kept.imp_right .inl)
  | @stores value entry phase landed same given encoded key tags fresh =>
    rw [goOn]
    simp only [landed, phase, Coordinator.rank]
    rw [proceed]
    rcases run_put (s := s.take store step) (calm.faults.trans faultless) entry with ⟨bare, run⟩ | run
    · -- The tags of the entry are those of the call, and more.
      have untagged : call.tags = [] := by
        have empty := tagSet_eq_nil.1 (tagSet_eq_nil.1 (tags.symm.trans bare))
        exact (List.append_eq_nil_iff.1 empty).1
      simp only [interact, run, Coordinator.afterStoring, Coordinator.survive, Failure.isUnavailable,
        Bool.false_eq_true, if_false, Coordinator.fail, Coordinator.finish]
      exact .dropped (calm.trans (take_calm { s.take store step with host := _ } _))
        (same.touchDown call.key flight) rfl (.inr (.inr untagged))
    · simp only [interact, run, Coordinator.afterStoring, Coordinator.succeed, Coordinator.finish]
      have put : Stored s.host { (s.take store step).host with
          calls := (s.take store step).host.calls ++ [.put entry.key]
          memory := (s.take store step).memory.put (s.take store step).host.now entry } entry := by
        have memory : (s.take store step).memory = s.memory := (foldl_report step.logs s.host).1
        refine ⟨calm.faults, fun indexed free => ?_, fun indexed free => ?_⟩
        · simp only [memory]
          exact (MemoryCache.put_keeps indexed _ entry free).1
        · simp only [memory]
          exact (MemoryCache.put_keeps indexed _ entry free).2
      refine .stored phase given encoded ?_
        ((same.touchDown call.key flight).trans ((SameBooks.count _ _).touchDown call.key flight))
        key ?_ rfl fresh
      · exact put.of_eq (foldl_report _ _).2.1 (foldl_report _ _).1
      · intro tag
        rw [tags, mem_tagSet]

/-! ## Invalidations -/

/-- Without faults an invalidation succeeds at once, and what has one of the tags is gone. -/
theorem invalidate_takes (faultless : s.host.faults = []) (tags : List String) (strict : Bool) :
    ∃ s', s.invalidate store tags strict = (.ok true, s') ∧ Calm s.host s'.host ∧
      (SameBooks (s.coordinator.markInvalidated (tagSet tags)) s'.coordinator ∨
        tags = [] ∧ SameBooks s.coordinator s'.coordinator) ∧
      (s.memory.Indexed → ∀ key entry, Table.get? s'.memory.entries key = some entry →
        ∀ tag ∈ tags, tag ∉ entry.tags) := by
  unfold invalidate invalidateIn
  dsimp only [id]
  -- There is an attempt at least, and an attempt that succeeds takes two of the fuel.
  have tries : ∃ fuel, 2 * s.coordinator.settings.tries = fuel + 2 := by
    refine ⟨2 * s.coordinator.settings.tries - 2, ?_⟩
    unfold CoordinatorSettings.tries
    omega
  obtain ⟨fuel, tries⟩ := tries
  cases empty : (tagSet tags).isEmpty with
  | true =>
    have none : tags = [] := by simpa using empty
    simp only [Coordinator.startInvalidation, empty, if_true, tries, invalidateFrom]
    exact ⟨_, rfl, .refl _, .inr ⟨none, .refl _⟩, by simp [none]⟩
  | false =>
    -- The cache puts the tags in order once more.
    have again : (tagSet (tagSet tags)).isEmpty = false := by simpa using empty
    have run : (store.invalidate (tagSet tags)).run s.host =
        (.ok ((s.memory.invalidate (tagSet (tagSet tags))).1 : Int), { s.host with
          calls := s.host.calls ++ [.invalidate (tagSet (tagSet tags))]
          memory := (s.memory.invalidate (tagSet (tagSet tags))).2 }) := by
      have reached := CacheHost.reach_eq faultless (.invalidate (tagSet (tagSet tags))) fun _ c =>
        (((c.invalidate (tagSet (tagSet tags))).1 : Int), (c.invalidate (tagSet (tagSet tags))).2)
      change CacheHost.invalidate (tagSet tags) s.host = _
      rw [← reached]
      simp only [CacheHost.invalidate, again, Bool.false_eq_true, if_false]
    have keeps := fun indexed => MemoryCache.invalidate_keeps (c := s.memory) indexed (tagSet (tagSet tags))
    simp only [Coordinator.startInvalidation, empty, Bool.false_eq_true, if_false, tries, invalidateFrom,
      takeInvalidation, report, List.foldl_nil, id_eq, run, Coordinator.afterInvalidating]
    refine ⟨_, rfl, ?_, .inl ?_, fun indexed key entry found tag member => ?_⟩
    · exact ⟨(foldl_report _ _).2.1, fun indexed => (keeps indexed).1, fun indexed => (keeps indexed).2.1⟩
    · exact ⟨rfl, rfl, rfl, rfl, rfl, rfl⟩
    · exact (keeps indexed).2.2 key entry found tag (by simpa using member)

/-- Forgetting a key brings nothing in. -/
theorem forget_calm (faultless : s.host.faults = []) (key : String) :
    Calm s.host (s.forget store key).2.host ∧
      SameBooks s.coordinator (s.forget store key).2.coordinator := by
  unfold forget
  simp only [run_delete faultless]
  exact ⟨calm_delete s key, .refl _⟩

/-- Without faults clearing succeeds, and nothing is left. -/
theorem clear_takes (faultless : s.host.faults = []) :
    ∃ s', s.clear store = (.ok (), s') ∧ Calm s.host s'.host ∧
      SameBooks s.coordinator.markCleared s'.coordinator ∧
      ∀ key, Table.get? s'.memory.entries key = none := by
  have run : store.clear.run s.host = (.ok (), { s.host with
      calls := s.host.calls ++ [.clear], memory := s.memory.clear }) :=
    CacheHost.reach_eq faultless .clear fun _ c => ((), c.clear)
  unfold clear
  simp only [run]
  refine ⟨_, rfl, ⟨rfl, fun _ => MemoryCache.indexed_clear s.memory, fun _ key entry found => ?_⟩, .refl _,
    fun _ => rfl⟩
  cases found

end Service

end QueryCache
