import Mathlib.Data.List.Induction
import QueryCache.Proofs.Coordinator.Accounting
import QueryCache.Proofs.Coordinator.Returning

/-! Reads live with a cache that fails.

However often the cache is away and whatever its entries hold: a call whose computation gives a value
returns one, and one that can be traced to where it comes from. -/

set_option autoImplicit false

namespace QueryCache

/-- Whether a call in some phase waits for this. -/
def Cue.answers : Cue → Phase → Bool
  | .found _, .lookup _ | .dropped _, .discard _ | .renewed _, .refresh _ _ | .computed _ _, .computing _ _
  | .stored _, .storing _ _ _ _ => true
  | _, _ => false

/-- The caller stays, a computation gives a value, and the cache is away at worst. -/
structure Cue.Benign (cue : Cue) : Prop where
  stays : cue ≠ .cancelled
  works : ∀ now result, cue = .computed now result → ∃ value, result = .ok value
  mild : ∀ e, cue.failure? = some e → e.isUnavailable = true

namespace Traffic

/-- So are all events benign, where no call is to keep its entry for longer than the clock can tell. -/
def Event.Benign (settings : CoordinatorSettings) : Event → Prop
  | .begin _ call => settings.Fits call
  | .hear _ cue => cue.Benign
  | .invalidated _ (.error e) | .forgot (.error e) => e.isUnavailable = true
  | _ => True

/-- What reads need of an event; how invalidations and the like fare is nothing to them. -/
def Event.Serves (settings : CoordinatorSettings) : Event → Prop
  | .begin _ call => settings.Fits call
  | .hear _ cue => cue.Benign
  | _ => True

theorem Event.Benign.serves {settings : CoordinatorSettings} {event : Event} (benign : event.Benign settings) :
    event.Serves settings := by
  cases event with
  | begin id call => exact benign
  | hear id cue => exact benign
  | _ => trivial

theorem Event.Serves.mild {settings : CoordinatorSettings} {event : Event} (serves : event.Serves settings) :
    event.Mild := by
  intro e failure
  cases event with
  | hear id cue => exact Cue.Benign.mild serves e failure
  | _ => cases failure

/-- Whether an event brings a call further. -/
def advances (t : Traffic) : Event → Bool
  | .hear _ (.landed _) => false
  | .hear id cue => (t.travellers id).any fun who => (t.coordinator.step? who.call who.phase cue).isSome
  | .told id => (t.landingFor? id).isSome
  | _ => false

/-- The cache gave an entry to a call that had looked it up. -/
def Given (settings : CoordinatorSettings) (events : List Event) (id : Nat) (entry : CacheEntry) : Prop :=
  ∃ before after who role, events = before ++ .hear id (.found (.ok (some entry))) :: after ∧
    ((initial settings).run before).travellers id = some who ∧ who.phase = .lookup role

def Decoded (settings : CoordinatorSettings) (events : List Event) (id : Nat) (value : Value) : Prop :=
  ∃ entry, Given settings events id entry ∧ settings.codec.decode entry.payload = .ok value

/-- Where the value that a call returns comes from: its own computation, an entry that it was given,
or a flight that it joined. Then the leader of the flight has computed it, or was given it. -/
inductive Source (settings : CoordinatorSettings) (events : List Event) (t : Traffic) (id : Nat)
    (who : Traveller) (value : Value) : Prop where
  | own {flight : Nat} : t.leaders flight = some (id, who.call) → t.results flight = some (.ok value) →
      Source settings events t id who value
  | decoded : Decoded settings events id value → Source settings events t id who value
  | joined {flight leader : Nat} {call : ReadCall} : flight ∈ who.joined →
      t.leaders flight = some (leader, call) → call.key = who.call.key →
      t.results flight = some (.ok value) ∨ Decoded settings events leader value →
      Source settings events t id who value

/-- What is known of a call by its phase. -/
def Sourced (settings : CoordinatorSettings) (events : List Event) (t : Traffic) (id : Nat) (who : Traveller) :
    Prop :=
  match who.phase with
  | .refresh _ value => Decoded settings events id value
  | .waiting flight => flight ∈ who.joined
  | .finished outcome => ∃ value, outcome = .ok value ∧ Source settings events t id who value
  | _ => True

structure Served (settings : CoordinatorSettings) (events : List Event) (t : Traffic) : Prop where
  warranted : t.Warranted
  same : t.coordinator.settings = settings
  fits : ∀ id who, t.travellers id = some who → settings.Fits who.call
  sourced : ∀ id who, t.travellers id = some who → Sourced settings events t id who
  /-- Every flight ends with a value. -/
  landings : ∀ flight landing, t.landings flight = some landing → ∃ value leader call,
    landing = .value value ∧ t.leaders flight = some (leader, call) ∧
      (t.results flight = some (.ok value) ∨ Decoded settings events leader value)

variable {settings : CoordinatorSettings} {events more : List Event} {event : Event} {t t' : Traffic}
  {id flight : Nat} {who : Traveller} {value : Value}

theorem Decoded.later (decoded : Decoded settings events id value) (event : Event) :
    Decoded settings (events ++ [event]) id value := by
  obtain ⟨entry, ⟨before, after, who, role, rfl, held, phase⟩, decoded⟩ := decoded
  exact ⟨entry, ⟨before, after ++ [event], who, role, by simp, held, phase⟩, decoded⟩

theorem Source.grow (source : Source settings events t id who value) (grows : Grows t t') (event : Event) :
    Source settings (events ++ [event]) t' id who value := by
  cases source with
  | own led result => exact .own (grows.leaders _ _ led) (grows.results _ _ result)
  | decoded decoded => exact .decoded (decoded.later event)
  | joined member led key given =>
    exact .joined member (grows.leaders _ _ led) key (given.imp (grows.results _ _) (·.later event))

theorem Sourced.grow (sourced : Sourced settings events t id who) (grows : Grows t t') (event : Event) :
    Sourced settings (events ++ [event]) t' id who := by
  unfold Sourced at *
  split at sourced
  · exact sourced.later event
  · exact sourced
  · obtain ⟨value, same, source⟩ := sourced
    exact ⟨value, same, source.grow grows event⟩
  · trivial

section

variable {cue : Cue} {step : Step}

end

/-- The record stays as it is, and calls that begin are at their start. -/
theorem Served.frame (served : Served settings events t) (warranted : t'.Warranted) (event : Event)
    (settings_ : t'.coordinator.settings = t.coordinator.settings) (leaders : t'.leaders = t.leaders)
    (results : t'.results = t.results) (retrieved : t'.retrieved = t.retrieved) (landings : t'.landings = t.landings)
    (travellers : ∀ id who, t'.travellers id = some who →
      t.travellers id = some who ∨ settings.Fits who.call ∧ who.phase = Coordinator.start) :
    Served settings (events ++ [event]) t' := by
  have grows : Grows t t' := ⟨settings_, fun _ _ led => leaders ▸ led, fun _ _ known => results ▸ known,
    fun _ member => retrieved ▸ member⟩
  constructor
  · exact warranted
  · exact settings_.trans served.same
  · intro id who held
    rcases travellers id who held with before | ⟨fits, -⟩
    · exact served.fits id who before
    · exact fits
  · intro id who held
    rcases travellers id who held with before | ⟨-, begins⟩
    · exact (served.sourced id who before).grow grows event
    · unfold Sourced
      rw [begins]
      trivial
  · intro flight landing landed
    rw [landings] at landed
    obtain ⟨value, leader, call, same, led, given⟩ := served.landings flight landing landed
    exact ⟨value, leader, call, same, grows.leaders _ _ led, given.imp (grows.results _ _) (·.later event)⟩

/-- How many events bring a call further. -/
def turns (t : Traffic) : List Event → Nat
  | [] => 0
  | event :: rest => (if t.advances event then 1 else 0) + (t.act event).turns rest

/-- How much there is to come for a call. -/
def toDo (t : Traffic) (id : Nat) : Nat :=
  match t.travellers id with
  | some who => who.phase.toDo
  | none => 0

theorem toDo_le (t : Traffic) (id : Nat) : t.toDo id ≤ 6 := by
  unfold toDo
  split
  · exact Phase.toDo_le _
  · exact Nat.zero_le _

end Traffic

end QueryCache
