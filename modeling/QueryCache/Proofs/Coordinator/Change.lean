import QueryCache.Proofs.Coordinator.Stops

/-! What one event does to a world, told once for all that is proved of runs. -/

set_option autoImplicit false

namespace QueryCache

open Service

/-- What an invalidation takes out of the cache. -/
inductive Purge where
  | tags (tags : List String)
  | everything

namespace Purge

/-- Whether an entry with these tags has to go. -/
def Covers : Purge → List String → Prop
  | .tags purged, own => ∃ tag ∈ purged, tag ∈ own
  | .everything, _ => True

/-- How a coordinator takes note. -/
def mark : Purge → Coordinator → Coordinator
  | .tags purged, c => c.markInvalidated purged
  | .everything, c => c.markCleared

end Purge

namespace World

variable {w w' : World}

/-- The calls that rest only compute, wait, or are over. -/
def Rests : Phase → Prop
  | .waiting _ | .computing _ _ | .finished _ => True
  | _ => False

structure SameHistory (w w' : World) : Prop where
  landed : w'.landed = w.landed
  origin : w'.origin = w.origin
  executions : w'.executions = w.executions

/-- A call that is about to look its key up: a new one, or one whose flight was abandoned. -/
def Seeking (w : World) (id : Nat) (call : ReadCall) : Prop :=
  w.callers id = none ∨ ∃ flight old source,
    w.callers id = some ⟨call, .waiting flight, old⟩ ∧ w.landed flight = some (.abandoned, source)

/-- Where the value of a call that does not compute comes from. -/
inductive Answered (w : World) (id : Nat) (call : ReadCall) (value : Value) :
    Option Nat → Prop where
  | cached {entry : CacheEntry} : w.Seeking id call → w.retrieve call.key = some entry →
      w.service.coordinator.settings.codec.decode entry.payload = .ok value →
      Answered w id call value (w.origin call.key)
  | told {flight : Nat} {old source : Option Nat} :
      w.callers id = some ⟨call, .waiting flight, old⟩ → w.landed flight = some (.value value, source) →
      Answered w id call value source
  | ended {source : Option Nat} : w.callers id = some ⟨call, .finished (.ok value), source⟩ →
      Answered w id call value source

/-- What a landing brings into the cache: at most an entry whose tags were not invalidated while
the flight was in the air. -/
def Brings (w w' : World) (call : ReadCall) (flight startedAt : Nat) (landing : Landing) : Prop :=
  Calm w.service.host w'.service.host ∨ ∃ entry tags,
    Stored w.service.host w'.service.host entry ∧ entry.key = call.key ∧
      (∀ tag, tag ∈ entry.tags ↔ tag ∈ tags) ∧
      w.service.coordinator.staleSince startedAt tags = false ∧
      w'.origin call.key = some flight ∧ landing ≠ .abandoned

/-- What one event does. -/
inductive Change (w w' : World) : Prop where
  | quiet : w'.callers = w.callers → SameHistory w w' → Calm w.service.host w'.service.host →
      SameBooks w.service.coordinator w'.service.coordinator → Change w w'
  /-- A call that does not compute joins a flight or is over. -/
  | follows (id : Nat) (call : ReadCall) (phase : Phase) (source : Option Nat) :
      w'.callers = Function.update w.callers id (some ⟨call, phase, source⟩) →
      (∀ call flight startedAt source, w.callers id ≠ some ⟨call, .computing flight startedAt, source⟩) →
      (∀ caller, w.callers id = some caller → caller.call = call) →
      ((∃ flight, phase = .waiting flight ∧ w.Seeking id call ∧
          Table.get? w.service.coordinator.inflight call.key = some flight) ∨
        (∃ failure, phase = .finished (.error failure)) ∨
        ∃ value, phase = .finished (.ok value) ∧ Answered w id call value source) →
      SameHistory w w' → Calm w.service.host w'.service.host →
      SameBooks w.service.coordinator w'.service.coordinator → Change w w'
  /-- A call begins to compute in a flight of its own. -/
  | leads (id : Nat) (call : ReadCall) (source : Option Nat) :
      w'.callers = Function.update w.callers id (some ⟨call,
        .computing w.service.coordinator.nextFlight w.service.coordinator.sequence, source⟩) →
      w.Seeking id call → Table.get? w.service.coordinator.inflight call.key = none →
      Table.get? w'.service.memory.entries call.key = none →
      w'.landed = w.landed → w'.origin = w.origin →
      w'.executions = w.service.coordinator.nextFlight :: w.executions →
      Calm w.service.host w'.service.host →
      SameBooks (w.service.coordinator.takeOff call.key) w'.service.coordinator → Change w w'
  /-- A flight lands, with an entry in the cache at most. -/
  | lands (id : Nat) (call : ReadCall) (flight startedAt : Nat) (old source : Option Nat)
      (outcome : Except Failure Value) (landing : Landing) :
      w.callers id = some ⟨call, .computing flight startedAt, old⟩ →
      w'.callers = Function.update w.callers id (some ⟨call, .finished outcome, source⟩) →
      tells landing outcome → (∀ value, outcome = .ok value → source = some flight) →
      w'.landed = Function.update w.landed flight (some (landing, source)) →
      w'.executions = w.executions →
      (∀ key, key ≠ call.key → w'.origin key = w.origin key) →
      SameBooks (w.service.coordinator.touchDown call.key flight) w'.service.coordinator →
      Brings w w' call flight startedAt landing → Change w w'
  | purges (purge : Purge) : w'.callers = w.callers → SameHistory w w' →
      Calm w.service.host w'.service.host →
      SameBooks (purge.mark w.service.coordinator) w'.service.coordinator →
      (w.service.memory.Indexed → ∀ key entry,
        Table.get? w'.service.memory.entries key = some entry → ¬ purge.Covers entry.tags) →
      Change w w'

/-! ## Each event makes a change -/

/-- What holds of a world whenever an event is to happen. -/
structure Steady (w : World) : Prop where
  faultless : w.service.host.faults = []
  indexed : w.service.memory.Indexed
  rests : ∀ id caller, w.callers id = some caller → Rests caller.phase

/-- Where a look-up leads, the world goes. -/
theorem change_of_seeks {id : Nat} {call : ReadCall} {s : Service CacheHost}
    {stop : Phase × Option (Nat × Landing) × Service CacheHost} (seeking : w.Seeking id call)
    (calm : Calm w.service.host s.host) (memory : s.memory = w.service.memory)
    (now : s.host.now = w.service.host.now) (books : s.coordinator = w.service.coordinator)
    (seeks : Seeks call.key s stop) :
    Change w (w.park id call (w.origin call.key) stop) := by
  -- A call that looks its key up does not compute, and has been this call all along.
  have idle : ∀ call flight startedAt source,
      w.callers id ≠ some ⟨call, .computing flight startedAt, source⟩ := by
    intro other flight startedAt source
    rcases seeking with fresh | ⟨_, _, _, waits, -⟩
    · rw [fresh]; simp
    · rw [waits]; simp
  have own : ∀ caller, w.callers id = some caller → caller.call = call := by
    intro caller held
    rcases seeking with fresh | ⟨_, _, _, waits, -⟩
    · cases fresh.symm.trans held
    · cases waits.symm.trans held
      rfl
  cases seeks with
  | hit calm' same found decoded =>
    rw [memory, now] at found
    rw [books] at same decoded
    exact .follows id call _ _ rfl idle own (.inr (.inr ⟨_, rfl, .cached seeking found decoded⟩))
      ⟨rfl, rfl, rfl⟩ (calm.trans calm') same
  | failed calm' same _ _ =>
    rw [books] at same
    exact .follows id call _ _ rfl idle own (.inr (.inl ⟨_, rfl⟩)) ⟨rfl, rfl, rfl⟩ (calm.trans calm') same
  | missed _ misses =>
    cases misses with
    | joins calm' same found =>
      rw [books] at same found
      exact .follows id call _ _ rfl idle own (.inl ⟨_, rfl, seeking, found⟩) ⟨rfl, rfl, rfl⟩
        (calm.trans calm') same
    | leads calm' same free absent =>
      rw [books] at same free ⊢
      exact .leads id call _ rfl seeking free absent rfl rfl rfl (calm.trans calm') same

theorem credit_origin {c : Coordinator} {call : ReadCall} {flight startedAt : Nat}
    {result : Except Failure Value} {step : Step} (computes : Computes c call flight startedAt result step) :
    (∀ key, key ≠ call.key → (w.credit step).origin key = w.origin key) ∧
      ∀ value entry, step.phase = .storing flight startedAt value entry →
        (w.credit step).origin call.key = some flight := by
  unfold credit
  cases computes with
  | lands phase => simp [phase]
  | @stores value entry phase landing same given encoded key tags fresh =>
    simp only [phase, key]
    exact ⟨fun other different => Function.update_of_ne different _ _,
      fun _ _ _ => Function.update_self _ _ _⟩

theorem credit_callers (w : World) (step : Step) : (w.credit step).callers = w.callers := by
  unfold credit
  split <;> rfl

theorem credit_landed (w : World) (step : Step) : (w.credit step).landed = w.landed := by
  unfold credit
  split <;> rfl

theorem credit_executions (w : World) (step : Step) :
    (w.credit step).executions = w.executions := by
  unfold credit
  split <;> rfl

/-- Where a computation leads, the world goes. -/
theorem change_of_lands {id flight startedAt : Nat} {call : ReadCall} {old : Option Nat}
    {result : Except Failure Value} {step : Step}
    {stop : Phase × Option (Nat × Landing) × Service CacheHost}
    (held : w.callers id = some ⟨call, .computing flight startedAt, old⟩)
    (computes : Computes w.service.coordinator call flight startedAt result step)
    (lands : Lands call w.service flight startedAt result step stop) :
    Change w ((w.credit step).park id call (some flight) stop) := by
  obtain ⟨others, own⟩ := credit_origin (w := w) computes
  have callers (outcome : Except Failure Value) :
      Function.update (w.credit step).callers id (some ⟨call, .finished outcome, some flight⟩) =
        Function.update w.callers id (some ⟨call, .finished outcome, some flight⟩) := by
    rw [credit_callers]
  have landed (landing : Landing) :
      Function.update (w.credit step).landed flight (some (landing, some flight)) =
        Function.update w.landed flight (some (landing, some flight)) := by
    rw [credit_landed]
  cases lands with
  | dropped calm books told _ =>
    exact .lands id call flight startedAt old _ _ _ held (callers _) told (fun _ _ => rfl) (landed _)
      (credit_executions _ _) others books (.inl calm)
  | stored storing _ _ stored books key tags _ fresh =>
    exact .lands id call flight startedAt old _ _ (.value _) held (callers _) rfl (fun _ _ => rfl) (landed _)
      (credit_executions _ _) others books
      (.inr ⟨_, _, stored, key, tags, fresh, own _ _ storing, nofun⟩)

/-- Every event makes one of the changes. -/
theorem change_act (steady : w.Steady) (event : Event) : Change w (w.act event) := by
  obtain ⟨faultless, indexed, rests⟩ := steady
  have same : Change w w := .quiet rfl ⟨rfl, rfl, rfl⟩ (.refl _) (.refl _)
  cases event with
  | begin id call =>
    rw [act]
    split
    · exact same
    · next fresh =>
      have fresh : w.callers id = none := by simpa using fresh
      exact change_of_seeks (.inl fresh) (.refl _) rfl rfl rfl (seeks_proceed faultless indexed true)
  | computed id result =>
    rw [act]
    split
    · next call flight startedAt old held =>
      have computes := computes_afterComputing w.service.coordinator w.service.host.now call flight
        startedAt result
      exact change_of_lands held computes (lands_goOn faultless computes)
    · exact same
  | hear id =>
    rw [act]
    split
    · next call flight old held =>
      split
      · next landing landed =>
        obtain ⟨landing, source⟩ := landing
        have idle : ∀ call flight startedAt source,
            w.callers id ≠ some ⟨call, .computing flight startedAt, source⟩ := by simp [held]
        have own : ∀ caller, w.callers id = some caller → caller.call = call := by simp [held]
        cases landing with
        | value value =>
          exact .follows id call _ _ rfl idle own (.inr (.inr ⟨value, rfl, .told held landed⟩))
            ⟨rfl, rfl, rfl⟩ (take_calm w.service _) (.refl _)
        | failed failure =>
          exact .follows id call _ _ rfl idle own (.inr (.inl ⟨failure, rfl⟩)) ⟨rfl, rfl, rfl⟩
            (take_calm w.service _) (.refl _)
        | abandoned =>
          let step := w.service.coordinator.afterLanding call .abandoned
          have calm := take_calm w.service step
          exact change_of_seeks (s := w.service.take store step) (.inr ⟨flight, old, source, held, landed⟩)
            calm (foldl_report step.logs w.service.host).1 (foldl_report step.logs w.service.host).2.2 rfl
            (seeks_proceed (calm.faults.trans faultless) (calm.indexed indexed) false)
      · exact same
    · exact same
  | cancel id =>
    rw [act]
    split
    · next call phase source held =>
      have rest := rests id _ held
      cases phase with
      | waiting flight =>
        exact .follows id call _ _ rfl (by simp [held]) (by simp [held]) (.inr (.inl ⟨_, rfl⟩)) ⟨rfl, rfl, rfl⟩
          (take_calm w.service _) (.refl _)
      | computing flight startedAt =>
        exact .lands id call flight startedAt source source (.error .cancelled) .abandoned held rfl rfl
          nofun rfl rfl (fun _ _ => rfl) (.refl _) (.inl (take_calm w.service _))
      | finished outcome =>
        refine .follows id call (.finished outcome) source rfl (by simp [held]) (by simp [held]) ?_ ⟨rfl, rfl, rfl⟩
          (take_calm w.service _) (.refl _)
        cases outcome with
        | ok value => exact .inr (.inr ⟨value, rfl, .ended held⟩)
        | error failure => exact .inr (.inl ⟨failure, rfl⟩)
      | lookup => cases rest
      | discard => cases rest
      | refresh => cases rest
      | storing => cases rest
    · exact same
  | invalidate tags strict =>
    obtain ⟨s', stop, calm, books, gone⟩ := invalidate_takes faultless tags strict
    -- It takes note only once it has deleted; before that the world is as quiet as ever.
    have service : (w.act (.invalidate tags strict)).service = s' := by
      rw [act]
      exact congrArg Prod.snd stop
    -- Either it took note of the tags, or there were none to take note of.
    rcases books with books | ⟨-, books⟩
    · refine .purges (.tags (tagSet tags)) rfl ⟨rfl, rfl, rfl⟩ ?_ ?_ ?_
      · rwa [service]
      · rwa [service]
      · rw [service]
        rintro indexed key entry found ⟨tag, member, inside⟩
        exact gone indexed key entry found tag (mem_tagSet.1 member) inside
    · refine .quiet rfl ⟨rfl, rfl, rfl⟩ ?_ ?_
      · rwa [service]
      · rwa [service]
  | forget key =>
    obtain ⟨calm, books⟩ := forget_calm faultless key
    exact .quiet rfl ⟨rfl, rfl, rfl⟩ calm books
  | clear =>
    obtain ⟨s', stop, calm, books, gone⟩ := clear_takes faultless
    have service : (w.act .clear).service = s' := by
      rw [act]
      exact congrArg Prod.snd stop
    refine .purges .everything rfl ⟨rfl, rfl, rfl⟩ ?_ ?_ ?_
    · rwa [service]
    · rwa [service]
    · rw [service]
      intro _ key entry found
      cases (gone key).symm.trans found
  | pass seconds => exact .quiet rfl ⟨rfl, rfl, rfl⟩ (.of_eq rfl rfl) (.refl _)
  | fire =>
    refine .quiet rfl ⟨rfl, rfl, rfl⟩ ⟨rfl, fun indexed => ?_, fun indexed => ?_⟩ (.refl _)
    · exact (MemoryCache.fireTimers_keeps indexed _).1
    · exact (MemoryCache.fireTimers_keeps indexed _).2

end World

end QueryCache
