import QueryCache.Cache.Host
import QueryCache.Coordinator.Service
import Mathlib.Logic.Function.Basic

/-! Calls of one coordinator over a cache in memory, in any order.

The operations of the cache do not wait, so a call runs until it computes, waits for the flight
of another call, or ends; between two such points anything may happen, in any order and any
number of times. What a computation gives is up to whoever computes. -/

set_option autoImplicit false

namespace QueryCache

/-- A call with the phase it stopped in, and the execution that its value came from. -/
structure Caller where
  call : ReadCall
  phase : Phase
  source : Option Nat := none

/-- A coordinator with its cache and its calls. An execution bears the number of its flight.
The origins, the sources and the executions are a record of what happened; nothing depends on
them. -/
structure World where
  service : Service CacheHost
  callers : Nat → Option Caller := fun _ => none
  /-- How flights ended, each with the execution of its value. -/
  landed : Nat → Option (Landing × Option Nat) := fun _ => none
  /-- The execution whose value was last stored under each key. -/
  origin : String → Option Nat := fun _ => none
  /-- The executions that have begun. -/
  executions : List Nat := []

inductive Event where
  | begin (id : Nat) (call : ReadCall)
  /-- The computation of a call ends. -/
  | computed (id : Nat) (result : Except Failure Value)
  /-- A call hears of the landing it waits for. -/
  | hear (id : Nat)
  | cancel (id : Nat)
  | invalidate (tags : List String) (strict : Bool)
  | forget (key : String)
  | clear
  | pass (seconds : Binary64)
  /-- The timers that are due fire. -/
  | fire

namespace World

abbrev store : CacheStore CacheHost := CacheHost.store

def initial (settings : CoordinatorSettings) (now : Time) : World where
  service := { coordinator := { settings := settings }, host := { now := now } }

/-- Takes note of where a call stopped. -/
def park (w : World) (id : Nat) (call : ReadCall) (source : Option Nat)
    (stop : Phase × Option (Nat × Landing) × Service CacheHost) : World :=
  { w with
    service := stop.2.2
    callers := Function.update w.callers id (some ⟨call, stop.1, source⟩)
    landed :=
      match stop.2.1 with
      | some (flight, landing) => Function.update w.landed flight (some (landing, source))
      | none => w.landed
    executions :=
      match stop.1 with
      | .computing flight _ => flight :: w.executions
      | _ => w.executions }

/-- Takes note of the execution whose value is about to be stored. -/
def credit (w : World) (step : Step) : World :=
  match step.phase with
  | .storing flight _ _ entry => { w with origin := Function.update w.origin entry.key (some flight) }
  | _ => w

/-- The execution of the value that a landing brings, or of the entry found once it brings
none. -/
def sourceOf (w : World) (key : String) : Landing × Option Nat → Option Nat
  | (.value _, source) => source
  | _ => w.origin key

/-- The world after an event; one that cannot happen now changes nothing. -/
def act (w : World) : Event → World
  | .begin id call =>
    if (w.callers id).isSome then w
    else
      let start := Coordinator.start
      w.park id call (w.origin call.key)
        (w.service.proceed store call (Coordinator.rank start) start)
  | .computed id result =>
    match w.callers id with
    | some ⟨call, .computing flight startedAt, _⟩ =>
      let step := w.service.coordinator.afterComputing w.service.host.now call flight startedAt result
      (w.credit step).park id call (some flight) (w.service.goOn store call step)
    | _ => w
  | .hear id =>
    match w.callers id with
    | some ⟨call, .waiting flight, _⟩ =>
      match w.landed flight with
      | some landing =>
        let step := w.service.coordinator.afterLanding call landing.1
        w.park id call (w.sourceOf call.key landing) (w.service.goOn store call step)
      | none => w
    | _ => w
  | .cancel id =>
    match w.callers id with
    | some ⟨call, phase, source⟩ =>
      w.park id call source (w.service.goOn store call (w.service.coordinator.cancel call phase))
    | none => w
  | .invalidate tags strict => { w with service := (w.service.invalidate store tags strict).2 }
  | .forget key => { w with service := (w.service.forget store key).2 }
  | .clear => { w with service := (w.service.clear store).2 }
  | .pass seconds => { w with service.host := w.service.host.advance seconds }
  | .fire => { w with service.host := w.service.host.fireTimers }

/-- The world after events in their order. -/
def run (w : World) (events : List Event) : World := events.foldl act w

/-- What a look-up of a key would find. -/
def retrieve (w : World) (key : String) : Option CacheEntry :=
  (w.service.host.memory.get w.service.host.now key).1

/-- What a call gave, once it is over. -/
def outcome? (w : World) (id : Nat) : Option (Except Failure Value) :=
  (w.callers id).bind fun caller =>
    match caller.phase with
    | .finished outcome => some outcome
    | _ => none

/-- The execution that the value of a call came from. -/
def source? (w : World) (id : Nat) : Option Nat := (w.callers id).bind Caller.source

theorem outcome?_eq_some {w : World} {id : Nat} {outcome : Except Failure Value} :
    w.outcome? id = some outcome ↔
      ∃ call source, w.callers id = some ⟨call, .finished outcome, source⟩ := by
  constructor
  · intro gives
    obtain ⟨⟨call, phase, source⟩, held, ended⟩ := Option.bind_eq_some_iff.1 gives
    cases phase with
    | finished outcome => exact ⟨call, source, by simpa using held.trans (by simpa using ended)⟩
    | _ => simp at ended
  · rintro ⟨call, source, held⟩
    simp [outcome?, held]

theorem gives_value {w : World} {id : Nat} (ended : (w.outcome? id).map Except.isOk = some true) :
    ∃ value, w.outcome? id = some (.ok value) := by
  obtain ⟨outcome, gives, ok⟩ := Option.map_eq_some_iff.1 ended
  cases outcome with
  | ok value => exact ⟨value, gives⟩
  | error failure => cases ok

theorem run_append (w : World) (first last : List Event) :
    w.run (first ++ last) = (w.run first).run last :=
  List.foldl_append

/-- What every event keeps, every run keeps. -/
theorem run_keeps {P : World → Prop} (step : ∀ w e, P w → P (act w e)) {w : World} (holds : P w)
    (events : List Event) : P (w.run events) := by
  induction events generalizing w with
  | nil => exact holds
  | cons event rest ih => exact ih (step w event holds)

end World

end QueryCache
