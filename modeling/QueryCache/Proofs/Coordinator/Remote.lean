import QueryCache.Proofs.Coordinator.Traffic

/-! Calls of one coordinator over a cache that suspends.

The cache is a server. A call sends its request and waits; the server serves the request at one
moment between that and the answer, and calls see of each other only what it holds at such
moments. -/

set_option autoImplicit false

namespace QueryCache

inductive Fate where
  | done
  /-- It is done, but the answer gets lost. -/
  | lost (e : Failure)
  | refused (e : Failure)
  /-- It is done, unless it was to store an entry: that one's time was over before it arrived. -/
  | late

namespace Fate

def serves : Fate → Bool
  | .refused _ => false
  | _ => true

def stores : Fate → Bool
  | .done | .lost _ => true
  | _ => false

def answer {α : Type} (result : α) : Fate → Except Failure α
  | .done | .late => .ok result
  | .lost e | .refused e => .error e

end Fate

/-- An answer of the server to a call. -/
inductive Reply where
  | found (reply : Except Failure (Option CacheEntry))
  | dropped (reply : Except Failure Bool)
  | stored (reply : Except Failure Unit)

def Reply.cue : Reply → Cue
  | .found reply => .found reply
  | .dropped reply => .dropped reply
  | .stored reply => .stored reply

/-- What a server holds under each key, with the flight that it comes from unless it was there
from the beginning. -/
abbrev Holdings := String → Option (CacheEntry × Option Nat)

namespace Holdings

def without (held : Holdings) (tags : List String) : Holdings := fun key =>
  (held key).filter fun kept => !kept.1.tags.any fun tag => tags.contains tag

def after (held : Holdings) (fate : Fate) (key : String) : Phase → Holdings
  | .discard _ => if fate.serves then Function.update held key none else held
  | .storing flight _ _ entry =>
    if fate.stores then Function.update held key (some (entry, some flight)) else held
  | _ => held

-- Renewals change nothing that is held, so that no server is asked for them.
def reply? (held : Holdings) (fate : Fate) (key : String) : Phase → Option Reply
  | .lookup _ => some (.found (fate.answer ((held key).map Prod.fst)))
  | .discard _ => some (.dropped (fate.answer (held key).isSome))
  | .storing _ _ _ _ => some (.stored (fate.answer ()))
  | _ => none

theorem without_eq_some {held : Holdings} {tags : List String} {key : String}
    {kept : CacheEntry × Option Nat} (found : held.without tags key = some kept) :
    held key = some kept ∧ ¬ ∃ tag ∈ tags, tag ∈ kept.1.tags := by
  obtain ⟨before, spared⟩ := Option.filter_eq_some_iff.1 found
  refine ⟨before, ?_⟩
  rintro ⟨tag, purged, own⟩
  simp only [Bool.not_eq_true', List.any_eq_false] at spared
  exact spared tag own (by simpa using purged)

/-- What is held after a request was held before, or it is what was to be stored. -/
theorem after_eq_some {held : Holdings} {fate : Fate} {key other : String} {phase : Phase}
    {kept : CacheEntry × Option Nat} (found : held.after fate key phase other = some kept) :
    held other = some kept ∨ other = key ∧ ∃ flight startedAt value entry,
      phase = .storing flight startedAt value entry ∧ kept = (entry, some flight) := by
  cases phase with
  | discard role =>
    unfold after at found
    dsimp only at found
    split at found
    · exact .inl (Traffic.held_of_erase found).2
    · exact .inl found
  | storing flight startedAt value entry =>
    unfold after at found
    dsimp only at found
    split at found
    · rcases Traffic.held_of_update found with ⟨own, same⟩ | ⟨-, before⟩
      · exact .inr ⟨own, flight, startedAt, value, entry, rfl, same⟩
      · exact .inl before
    · exact .inl found
  | _ => exact .inl found

end Holdings

/-- Traffic, with what the server holds and the answers that are on their way back. -/
structure Remote where
  traffic : Traffic := {}
  held : Holdings := fun _ => none
  replies : Nat → Option Reply := fun _ => none
  verdicts : Nat → Option (Except Failure Int) := fun _ => none
  /-- The flights whose entries were under way when the server dealt with an invalidation. This
  is a record, which nothing depends on. -/
  missed : Nat → Option (Nat → Prop) := fun _ => none

namespace Remote

inductive Event where
  | begin (id : Nat) (call : ReadCall)
  /-- The server deals with what a call asked of it. -/
  | serve (id : Nat) (fate : Fate)
  /-- A call gets the answer of the server. -/
  | answer (id : Nat)
  | renewed (id : Nat) (reply : Except Failure Bool)
  | computed (id : Nat) (now : Time) (result : Except Failure Value)
  | told (id : Nat)
  | cancel (id : Nat)
  | invalidate (id : Nat) (tags : List String) (strict : Bool)
  /-- The server deals with an invalidation. -/
  | purge (id : Nat) (fate : Fate) (removed : Int)
  /-- An invalidation gets the answer of the server. -/
  | verdict (id : Nat)
  | wake (id : Nat)
  | quit (id : Nat)
  /-- An entry is over. -/
  | expire (key : String)

/-- A call hears something, and has no more answer to come. -/
def deliver (r : Remote) (id : Nat) (cue : Cue) : Remote :=
  match r.traffic.travellers id with
  | some who =>
    match r.traffic.coordinator.step? who.call who.phase cue with
    | some step =>
      { r with
        traffic := r.traffic.move id who cue step
        replies := Function.update r.replies id none }
    | none => r
  | none => r

def serve (r : Remote) (id : Nat) (fate : Fate) : Remote :=
  match r.traffic.travellers id, r.replies id with
  | some who, none =>
    match r.held.reply? fate who.call.key who.phase with
    | some reply =>
      { r with
        held := r.held.after fate who.call.key who.phase
        replies := Function.update r.replies id (some reply) }
    | none => r
  | _, _ => r

/-- A call has sent the entry of a flight, and the server has not dealt with it. -/
def Sends (r : Remote) (id flight : Nat) (entry : CacheEntry) : Prop :=
  r.replies id = none ∧ ∃ who startedAt value, r.traffic.travellers id = some who ∧
    who.phase = .storing flight startedAt value entry

def purge (r : Remote) (id : Nat) (fate : Fate) (removed : Int) : Remote :=
  match r.traffic.invalidations id, r.verdicts id with
  | some job, none =>
    match job.phase with
    | .calling _ =>
      if fate.serves then
        { r with
          held := r.held.without job.tags
          verdicts := Function.update r.verdicts id (some (fate.answer removed))
          missed := Function.update r.missed id
            (some fun flight => ∃ id entry, r.Sends id flight entry) }
      else { r with verdicts := Function.update r.verdicts id (some (fate.answer removed)) }
    | _ => r
  | _, _ => r

/-- The state after an event; one that cannot happen now changes nothing. -/
def act (r : Remote) : Event → Remote
  | .begin id call => { r with traffic := r.traffic.act (.begin id call) }
  | .serve id fate => r.serve id fate
  | .answer id =>
    match r.replies id with
    | some reply => r.deliver id reply.cue
    | none => r
  | .renewed id reply => r.deliver id (.renewed reply)
  | .computed id now result => r.deliver id (.computed now result)
  | .told id =>
    match r.traffic.landingFor? id with
    | some landing => r.deliver id (.landed landing)
    | none => r
  | .cancel id => r.deliver id .cancelled
  | .invalidate id tags strict => { r with traffic := r.traffic.act (.invalidate id tags strict) }
  | .purge id fate removed => r.purge id fate removed
  | .verdict id =>
    match r.verdicts id with
    | some reply =>
      { r with
        traffic := r.traffic.act (.invalidated id reply)
        verdicts := Function.update r.verdicts id none }
    | none => r
  | .wake id => { r with traffic := r.traffic.act (.wake id) }
  | .quit id => { r with traffic := r.traffic.act (.quit id) }
  | .expire key => { r with held := Function.update r.held key none }

def run (r : Remote) (events : List Event) : Remote := events.foldl act r

def initial (settings : CoordinatorSettings) (held : String → Option CacheEntry) : Remote where
  traffic := Traffic.initial settings
  held key := (held key).map fun entry => (entry, none)

/-! ## What one event does -/

inductive Heard (r : Remote) (event : Event) (id : Nat) : Cue → Prop where
  | answered {reply : Reply} : event = .answer id → r.replies id = some reply → Heard r event id reply.cue
  | renewed {reply : Except Failure Bool} : event = .renewed id reply → Heard r event id (.renewed reply)
  | computed {now : Time} {result : Except Failure Value} : event = .computed id now result →
      Heard r event id (.computed now result)
  | told {landing : Landing} : event = .told id → r.traffic.landingFor? id = some landing →
      Heard r event id (.landed landing)
  | cancelled : event = .cancel id → Heard r event id .cancelled

/-- What an event is to the coordinator, if it is no step of a call. -/
inductive Drives (r : Remote) : Event → Traffic.Event → Prop where
  | begin {id : Nat} {call : ReadCall} : r.traffic.travellers id = none →
      Drives r (.begin id call) (.begin id call)
  | invalidate {id : Nat} {tags : List String} {strict : Bool} :
      Drives r (.invalidate id tags strict) (.invalidate id tags strict)
  | verdict {id : Nat} {reply : Except Failure Int} : r.verdicts id = some reply →
      Drives r (.verdict id) (.invalidated id reply)
  | wake {id : Nat} : Drives r (.wake id) (.wake id)
  | quit {id : Nat} : Drives r (.quit id) (.quit id)

/-- What one event does. -/
inductive Shift (r : Remote) (event : Event) : Remote → Prop where
  | idle : Shift r event r
  | serves {id : Nat} {fate : Fate} {who : Traveller} {reply : Reply} : event = .serve id fate →
      r.traffic.travellers id = some who → r.replies id = none →
      r.held.reply? fate who.call.key who.phase = some reply →
      Shift r event { r with
        held := r.held.after fate who.call.key who.phase
        replies := Function.update r.replies id (some reply) }
  | hears {id : Nat} {who : Traveller} {cue : Cue} {step : Step} : r.Heard event id cue →
      r.traffic.travellers id = some who →
      r.traffic.coordinator.step? who.call who.phase cue = some step →
      Shift r event { r with
        traffic := r.traffic.move id who cue step
        replies := Function.update r.replies id none }
  | drives {e : Traffic.Event} {verdicts : Nat → Option (Except Failure Int)} : r.Drives event e →
      (∀ id reply, verdicts id = some reply → r.verdicts id = some reply) →
      Shift r event { r with traffic := r.traffic.act e, verdicts := verdicts }
  | purges {id : Nat} {fate : Fate} {removed : Int} {job : Invalidation} :
      event = .purge id fate removed → r.traffic.invalidations id = some job →
      Shift r event { r with
        held := r.held.without job.tags
        verdicts := Function.update r.verdicts id (some (fate.answer removed))
        missed := Function.update r.missed id (some fun flight => ∃ id entry, r.Sends id flight entry) }
  | refuses {id : Nat} {fate : Fate} {removed : Int} {e : Failure} : event = .purge id fate removed →
      Shift r event { r with verdicts := Function.update r.verdicts id (some (.error e)) }
  | expires {key : String} : event = .expire key →
      Shift r event { r with held := Function.update r.held key none }

theorem Drives.travellers {r : Remote} {event : Event} {e : Traffic.Event} (drives : r.Drives event e)
    {id : Nat} {who : Traveller} (held : (r.traffic.act e).travellers id = some who) :
    r.traffic.travellers id = some who ∨ who.phase = Coordinator.start := by
  have shift := Traffic.shift_act r.traffic e
  generalize r.traffic.act e = after at shift held
  cases shift with
  | idle => exact .inl held
  | begins =>
    rcases Traffic.held_of_update held with ⟨rfl, rfl⟩ | ⟨-, before⟩
    · exact .inr rfl
    · exact .inl before
  | moves own => rcases own with rfl | rfl <;> cases drives
  | marks => exact .inl held
  | counts => exact .inl held

theorem Drives.invalidations {r : Remote} {event : Event} {e : Traffic.Event} (drives : r.Drives event e)
    {id : Nat} {job : Invalidation} (found : (r.traffic.act e).invalidations id = some job) :
    r.traffic.Known e id job ∨ r.traffic.Fresh id job := by
  have shift := Traffic.shift_act r.traffic e
  generalize r.traffic.act e = after at shift found
  cases shift with
  | idle => exact .inl (.refl found)
  | begins => exact .inl (.refl found)
  | moves own => rcases own with rfl | rfl <;> cases drives
  | marks _ _ jobs => exact (jobs id job found).imp_right (·.1)
  | counts _ jobs => exact (jobs id job found).imp_right (·.1)

theorem shift_deliver {r : Remote} {event : Event} {id : Nat} {cue : Cue} (heard : r.Heard event id cue) :
    Shift r event (r.deliver id cue) := by
  unfold deliver
  split
  · next who held =>
    split
    · next step steps => exact .hears heard held steps
    · exact .idle
  · exact .idle

theorem shift_serve {r : Remote} (id : Nat) (fate : Fate) : Shift r (.serve id fate) (r.serve id fate) := by
  unfold serve
  split
  · next who held open_ =>
    split
    · next reply answers => exact .serves rfl held open_ answers
    · exact .idle
  · exact .idle

theorem shift_purge {r : Remote} (id : Nat) (fate : Fate) (removed : Int) :
    Shift r (.purge id fate removed) (r.purge id fate removed) := by
  unfold purge
  split
  · next job held open_ =>
    split
    · split
      · exact .purges rfl held
      · next refused =>
        cases fate with
        | refused e => exact .refuses rfl
        | _ => exact absurd rfl refused
    · exact .idle
  · exact .idle

theorem shift_act (r : Remote) (event : Event) : Shift r event (r.act event) := by
  cases event with
  | begin id call =>
    cases known : r.traffic.travellers id with
    | none => exact .drives (.begin known) fun _ _ same => same
    | some who =>
      have same : r.act (.begin id call) = r := by simp [act, Traffic.act, known]
      rw [same]
      exact .idle
  | serve id fate => exact shift_serve id fate
  | answer id =>
    unfold act
    dsimp only
    split
    · next reply replies => exact shift_deliver (.answered rfl replies)
    · exact .idle
  | renewed id reply => exact shift_deliver (.renewed rfl)
  | computed id now result => exact shift_deliver (.computed rfl)
  | told id =>
    unfold act
    dsimp only
    split
    · next landing found => exact shift_deliver (.told rfl found)
    · exact .idle
  | cancel id => exact shift_deliver (.cancelled rfl)
  | invalidate id tags strict => exact .drives .invalidate fun _ _ same => same
  | purge id fate removed => exact shift_purge id fate removed
  | verdict id =>
    unfold act
    dsimp only
    split
    · next reply found =>
      exact .drives (.verdict found) fun _ _ later => (Traffic.held_of_erase later).2
    · exact .idle
  | wake id => exact .drives .wake fun _ _ same => same
  | quit id => exact .drives .quit fun _ _ same => same
  | expire key => exact .expires rfl

/-- What every shift keeps, every run keeps. -/
theorem run_shifts {P : Remote → Prop} {Q : Event → Prop}
    (step : ∀ r event r', Q event → P r → Shift r event r' → P r') {r : Remote} (holds : P r)
    (events : List Event) (all : ∀ event ∈ events, Q event) : P (r.run events) := by
  induction events generalizing r with
  | nil => exact holds
  | cons event rest ih =>
    apply ih
    · exact step r event _ (all event (by simp)) holds (shift_act r event)
    · exact fun event member => all event (by simp [member])

/-- Whatever the server does, to the coordinator it is one event of its traffic or none. -/
theorem Shift.traffic {r r' : Remote} {event : Event} (shift : Shift r event r') :
    ∃ e, Traffic.Shift r.traffic e r'.traffic ∧ ∀ failure, e.failure? = some failure →
      ∃ id cue, r.Heard event id cue ∧ cue.failure? = some failure := by
  cases shift with
  | idle => exact ⟨.clear, .idle, by rintro _ ⟨⟩⟩
  | serves => exact ⟨.clear, .idle, by rintro _ ⟨⟩⟩
  | purges => exact ⟨.clear, .idle, by rintro _ ⟨⟩⟩
  | refuses => exact ⟨.clear, .idle, by rintro _ ⟨⟩⟩
  | expires => exact ⟨.clear, .idle, by rintro _ ⟨⟩⟩
  | @drives e _ drives =>
    refine ⟨e, Traffic.shift_act r.traffic e, fun failure fails => ?_⟩
    cases drives <;> cases fails
  | @hears id who cue step heard held steps =>
    have turn := turn_of_step? steps
    -- All but a landing is a cue that the traffic takes as it is.
    have hears (other : ∀ landing, cue ≠ .landed landing) :
        ∃ e, Traffic.Shift r.traffic e (r.traffic.move id who cue step) ∧ ∀ failure,
          e.failure? = some failure → ∃ id cue, r.Heard event id cue ∧ cue.failure? = some failure :=
      ⟨.hear id cue, .moves (.inl rfl) held (fun landing same => absurd same (other landing))
        (fun _ same => same) turn, fun _ fails => ⟨id, cue, heard, fails⟩⟩
    cases heard with
    | told own found =>
      obtain ⟨who', flight, held', waiting, landed⟩ := Traffic.landingFor?_eq_some.1 found
      cases held.symm.trans held'
      refine ⟨.told id, .moves (.inr rfl) held ?_ (by rintro _ ⟨⟩) turn, by rintro _ ⟨⟩⟩
      rintro _ ⟨⟩
      exact ⟨flight, waiting, landed⟩
    | @answered reply =>
      apply hears
      cases reply <;> rintro _ ⟨⟩
    | renewed => exact hears (by rintro _ ⟨⟩)
    | computed => exact hears (by rintro _ ⟨⟩)
    | cancelled => exact hears (by rintro _ ⟨⟩)

end Remote

end QueryCache
