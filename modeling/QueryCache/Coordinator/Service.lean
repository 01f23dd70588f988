import QueryCache.Coordinator.Invalidation
import QueryCache.Coordinator.Read

/-! A coordinator at work on its cache, one call after the other. -/

set_option autoImplicit false

namespace QueryCache

structure Service (σ : Type) where
  coordinator : Coordinator := {}
  /-- The cache, with everything around it. -/
  host : σ

namespace Service

variable {σ : Type}

/-- Takes reports down in order. -/
def report (store : CacheStore σ) (s : Service σ) (records : List LogRecord) : Service σ :=
  { s with host := records.foldl (fun host record => store.report record host) s.host }

/-- The service after a step of a call. -/
def take (store : CacheStore σ) (s : Service σ) (step : Step) : Service σ :=
  { s with coordinator := step.coordinator }.report store step.logs

/-- The interaction with the cache that a phase waits for, if it waits for one. -/
def interact (store : CacheStore σ) (call : ReadCall) (phase : Phase) (s : Service σ) :
    Option (Step × Service σ) :=
  let c := s.coordinator
  match phase with
  | .lookup role =>
    let (reply, host) := (store.get call.key).run s.host
    some (c.afterLookup call role reply, { s with host := host })
  | .discard role =>
    let (reply, host) := (store.delete call.key).run s.host
    some (c.afterDiscard call role reply, { s with host := host })
  | .refresh role value =>
    let (reply, host) := (store.touch call.key c.settings.defaultTtl).run s.host
    some (c.afterRefresh call role value reply, { s with host := host })
  | .storing flight startedAt value entry =>
    let (reply, host) := (store.put entry).run s.host
    some (c.afterStoring call flight startedAt value reply, { s with host := host })
  | _ => none

/-- Goes on with a call up to the point where it computes, waits or ends; the fuel is the rank
of the phase. Of the landings on the way there is at most one. -/
def proceed (store : CacheStore σ) (call : ReadCall) :
    Nat → Phase → Service σ → Phase × Option (Nat × Landing) × Service σ
  | 0, phase, s => (phase, none, s)
  | fuel + 1, phase, s =>
    match interact store call phase s with
    | none => (phase, none, s)
    | some (step, s) =>
      let s := s.take store step
      match step.landing with
      | some landing => (step.phase, some landing, s)
      | none => proceed store call fuel step.phase s

/-- Goes on after a step. -/
def goOn (store : CacheStore σ) (call : ReadCall) (step : Step) (s : Service σ) :
    Phase × Option (Nat × Landing) × Service σ :=
  let s := s.take store step
  match step.landing with
  | some landing => (step.phase, some landing, s)
  | none => proceed store call (Coordinator.rank step.phase) step.phase s

/-- Computes a value and goes on. -/
def compute (store : CacheStore σ) (call : ReadCall) (work : Attempt σ Value)
    (flight startedAt : Nat) (s : Service σ) : Phase × Option (Nat × Landing) × Service σ :=
  let (result, host) := work.run s.host
  let s := { s with host := host }
  goOn store call
    (s.coordinator.afterComputing (store.now s.host) call flight startedAt result) s

/-- The result of a phase; a call that has none yet is given up. -/
def outcomeOf : Phase → Except Failure Value
  | .finished outcome => outcome
  | _ => .error .cancelled

/-- A whole call while no other is under way. -/
def read (store : CacheStore σ) (call : ReadCall) (work : Attempt σ Value) (s : Service σ) :
    Except Failure Value × Service σ :=
  let start := Coordinator.start
  match proceed store call (Coordinator.rank start) start s with
  | (.computing flight startedAt, _, s) =>
    let (phase, _, s) := compute store call work flight startedAt s
    (outcomeOf phase, s)
  | (phase, _, s) => (outcomeOf phase, s)

/-- The service after a step of an invalidation. -/
def takeInvalidation (store : CacheStore σ) (s : Service σ) (step : InvalidationStep) :
    Service σ :=
  { s with coordinator := step.coordinator }.report store step.logs

/-- Goes on with an invalidation; `sleep` lets time pass between two tries, and the fuel
bounds the tries. -/
def invalidateFrom {τ : Type} (store : CacheStore σ) (service : τ → Service σ)
    (update : Service σ → τ → τ) (sleep : Binary64 → τ → τ) (tags : List String)
    (strict : Bool) : Nat → InvalidationPhase → τ → Except Failure Bool × τ
  | _, .finished outcome, t => (outcome, t)
  | 0, _, t => (.ok false, t)
  | fuel + 1, .sleeping failures seconds, t =>
    invalidateFrom store service update sleep tags strict fuel (.calling failures)
      (sleep seconds t)
  | fuel + 1, .calling failures, t =>
    let s := service t
    let (reply, host) := (store.invalidate tags).run s.host
    let s := { s with host := host }
    let step := s.coordinator.afterInvalidating tags strict failures reply
    invalidateFrom store service update sleep tags strict fuel step.phase
      (update (s.takeInvalidation store step) t)

/-- A whole invalidation; the service stands in some larger state. -/
def invalidateIn {τ : Type} (store : CacheStore σ) (service : τ → Service σ)
    (update : Service σ → τ → τ) (sleep : Binary64 → τ → τ) (tags : List String)
    (strict : Bool) (t : τ) : Except Failure Bool × τ :=
  let s := service t
  let tags := tagSet tags
  let step := s.coordinator.startInvalidation tags
  invalidateFrom store service update sleep tags strict (2 * s.coordinator.settings.tries)
    step.phase (update (s.takeInvalidation store step) t)

/-- A whole invalidation while nothing else is under way. -/
def invalidate (store : CacheStore σ) (tags : List String) (strict : Bool) (s : Service σ) :
    Except Failure Bool × Service σ :=
  invalidateIn store id (fun s _ => s)
    (fun seconds s => { s with host := store.settle (store.pass seconds s.host) }) tags strict s

/-- Drops one entry; an unavailable cache is lived with. -/
def forget (store : CacheStore σ) (key : String) (s : Service σ) :
    Except Failure Bool × Service σ :=
  let (reply, host) := (store.delete key).run s.host
  let s := { s with host := host }
  match reply with
  | .ok b => (.ok b, s)
  | .error e =>
    if e.isUnavailable then
      (.ok false, { s with coordinator := s.coordinator.count Metrics.error }.report store
        [Coordinator.log .warning ("Cache unavailable, " ++ key ++ " not forgotten: " ++ e.text)])
    else (.error e, s)

/-- Drops everything. -/
def clear (store : CacheStore σ) (s : Service σ) : Except Failure Unit × Service σ :=
  let (reply, host) := store.clear.run s.host
  (reply, ⟨s.coordinator.markCleared, host⟩)

end Service

end QueryCache
