import QueryCache.Proofs.Coordinator.Change
import QueryCache.Proofs.Coordinator.Turns

/-! Calls of one coordinator in any order, whatever its cache answers and whenever it does.

Between any two steps of a call anything may happen. What the cache answers, what a computation
gives and who goes away is up to the events; only what a call is told of the flight it waits for
is what became of that flight. -/

set_option autoImplicit false

namespace QueryCache

/-- A call under way. -/
structure Traveller where
  call : ReadCall
  phase : Phase := Coordinator.start
  /-- The flights of other calls that it joined. -/
  joined : List Nat := []
  cancelled : Bool := false

def Traveller.after (who : Traveller) (cue : Cue) (phase : Phase) : Traveller where
  call := who.call
  phase := phase
  joined :=
    match phase with
    | .waiting flight => flight :: who.joined
    | _ => who.joined
  cancelled :=
    match cue with
    | .cancelled => true
    | _ => who.cancelled

@[simp]
theorem Traveller.after_call (who : Traveller) (cue : Cue) (phase : Phase) :
    (who.after cue phase).call = who.call := rfl

@[simp]
theorem Traveller.after_phase (who : Traveller) (cue : Cue) (phase : Phase) :
    (who.after cue phase).phase = phase := rfl

/-- An invalidation under way, with the executions that had begun when it was called. -/
structure Invalidation where
  tags : List String
  strict : Bool
  phase : InvalidationPhase
  past : List Nat

/-- A coordinator with its calls. From `leaders` on it is a record of what happened, which
nothing depends on; executions bear the numbers of their flights. -/
structure Traffic where
  coordinator : Coordinator := {}
  travellers : Nat → Option Traveller := fun _ => none
  invalidations : Nat → Option Invalidation := fun _ => none
  /-- How flights ended. -/
  landings : Nat → Option Landing := fun _ => none
  leaders : Nat → Option (Nat × ReadCall) := fun _ => none
  executions : List Nat := []
  results : Nat → Option (Except Failure Value) := fun _ => none
  /-- The entries that the cache gave, with the keys that were looked up. -/
  retrieved : List (String × CacheEntry) := []
  /-- The entries that the cache was to store, with the flights they come from. -/
  puts : List (Nat × CacheEntry) := []

def Coordinator.afterForgetting (c : Coordinator) : Except Failure Bool → Coordinator
  | .ok _ => c
  | .error e => if e.isUnavailable then c.count Metrics.error else c

theorem Service.coordinator_forget {σ : Type} (cache : CacheStore σ) (key : String) (s : Service σ) :
    (s.forget cache key).2.coordinator =
      s.coordinator.afterForgetting ((cache.delete key).run s.host).1 := by
  unfold forget Coordinator.afterForgetting
  rcases (cache.delete key).run s.host with ⟨_ | _, host⟩
  · dsimp only
    split <;> rfl
  · rfl

namespace Traffic

inductive Event where
  | begin (id : Nat) (call : ReadCall)
  /-- The cache answers a call, its computation ends, or its caller goes away. -/
  | hear (id : Nat) (cue : Cue)
  /-- A call is told what became of the flight it waits for. -/
  | told (id : Nat)
  | invalidate (id : Nat) (tags : List String) (strict : Bool)
  /-- The cache answers an invalidation. -/
  | invalidated (id : Nat) (reply : Except Failure Int)
  /-- The time of the next try of an invalidation has come. -/
  | wake (id : Nat)
  /-- The caller of an invalidation goes away. -/
  | quit (id : Nat)
  /-- The cache answers that a key was to be forgotten. -/
  | forgot (reply : Except Failure Bool)
  | clear

/-- The failure of the cache that a call is to hear of. -/
def Event.failure? : Event → Option Failure
  | .hear _ cue => cue.failure?
  | _ => none

/-- Of the failures of the cache, calls hear only that it is away. -/
def Event.Mild (event : Event) : Prop := ∀ e, event.failure? = some e → e.isUnavailable = true

/-- A call takes a step. -/
def move (t : Traffic) (id : Nat) (who : Traveller) (cue : Cue) (step : Step) : Traffic where
  coordinator := step.coordinator
  travellers := Function.update t.travellers id (some (who.after cue step.phase))
  invalidations := t.invalidations
  landings :=
    match step.landing with
    | some (flight, landing) => Function.update t.landings flight (some landing)
    | none => t.landings
  leaders :=
    match step.phase with
    | .lookup (.leading flight _) => Function.update t.leaders flight (some (id, who.call))
    | _ => t.leaders
  executions :=
    match step.phase with
    | .computing flight _ => flight :: t.executions
    | _ => t.executions
  results :=
    match who.phase, cue with
    | .computing flight _, .computed _ result => Function.update t.results flight (some result)
    | _, _ => t.results
  retrieved :=
    match cue with
    | .found (.ok (some entry)) => (who.call.key, entry) :: t.retrieved
    | _ => t.retrieved
  puts :=
    match step.phase with
    | .storing flight _ _ entry => (flight, entry) :: t.puts
    | _ => t.puts

/-- A call hears something; nothing comes of what it does not wait for. -/
def deliver (t : Traffic) (id : Nat) (cue : Cue) : Traffic :=
  match t.travellers id with
  | some who =>
    match t.coordinator.step? who.call who.phase cue with
    | some step => t.move id who cue step
    | none => t
  | none => t

/-- What became of the flight that a call waits for. -/
def landingFor? (t : Traffic) (id : Nat) : Option Landing :=
  match t.travellers id with
  | some who =>
    match who.phase with
    | .waiting flight => t.landings flight
    | _ => none
  | none => none

/-- An invalidation takes a step. -/
def follow (t : Traffic) (id : Nat) (job : Invalidation) (step : InvalidationStep) : Traffic :=
  { t with
    coordinator := step.coordinator
    invalidations := Function.update t.invalidations id (some { job with phase := step.phase }) }

/-- The traffic after an event; one that cannot happen now changes nothing. -/
def act (t : Traffic) : Event → Traffic
  | .begin id call =>
    if (t.travellers id).isSome then t
    else { t with travellers := Function.update t.travellers id (some { call := call }) }
  | .hear _ (.landed _) => t
  | .hear id cue => t.deliver id cue
  | .told id =>
    match t.landingFor? id with
    | some landing => t.deliver id (.landed landing)
    | none => t
  | .invalidate id tags strict =>
    if (t.invalidations id).isSome then t
    else
      let step := t.coordinator.startInvalidation (tagSet tags)
      t.follow id ⟨tagSet tags, strict, step.phase, t.executions⟩ step
  | .invalidated id reply =>
    match t.invalidations id with
    | some job =>
      match job.phase with
      | .calling failures =>
        t.follow id job (t.coordinator.afterInvalidating job.tags job.strict failures reply)
      | _ => t
    | none => t
  | .wake id =>
    match t.invalidations id with
    | some job =>
      match job.phase with
      | .sleeping failures _ => t.follow id job ⟨t.coordinator, .calling failures, []⟩
      | _ => t
    | none => t
  | .quit id =>
    match t.invalidations id with
    | some job =>
      match job.phase with
      | .finished _ => t
      | _ => t.follow id job ⟨t.coordinator, .finished (.error .cancelled), []⟩
    | none => t
  | .forgot reply => { t with coordinator := t.coordinator.afterForgetting reply }
  | .clear => { t with coordinator := t.coordinator.markCleared }

def run (t : Traffic) (events : List Event) : Traffic := events.foldl act t

theorem run_append (t : Traffic) (first last : List Event) :
    t.run (first ++ last) = (t.run first).run last :=
  List.foldl_append

def initial (settings : CoordinatorSettings) : Traffic where
  coordinator := { settings := settings }

/-- What a call gave, once it is over. -/
def outcome? (t : Traffic) (id : Nat) : Option (Except Failure Value) :=
  (t.travellers id).bind fun who =>
    match who.phase with
    | .finished outcome => some outcome
    | _ => none

theorem outcome?_eq_some {t : Traffic} {id : Nat} {outcome : Except Failure Value} :
    t.outcome? id = some outcome ↔ ∃ who, t.travellers id = some who ∧ who.phase = .finished outcome := by
  unfold outcome?
  constructor
  · intro gives
    obtain ⟨who, held, same⟩ := Option.bind_eq_some_iff.1 gives
    split at same
    · next outcome' ended =>
      cases same
      exact ⟨who, held, ended⟩
    · cases same
  · rintro ⟨who, held, ended⟩
    simp only [held, Option.bind_some, ended]

theorem held_of_update {ι α : Type} [DecidableEq ι] {f : ι → Option α} {id other : ι} {new found : α}
    (held : Function.update f id (some new) other = some found) :
    other = id ∧ found = new ∨ other ≠ id ∧ f other = some found := by
  by_cases own : other = id
  · subst own
    rw [Function.update_self] at held
    exact .inl ⟨rfl, (Option.some.inj held).symm⟩
  · rw [Function.update_of_ne own] at held
    exact .inr ⟨own, held⟩

theorem held_of_erase {ι α : Type} [DecidableEq ι] {f : ι → Option α} {id other : ι} {found : α}
    (held : Function.update f id none other = some found) : other ≠ id ∧ f other = some found := by
  by_cases own : other = id
  · subst own
    rw [Function.update_self] at held
    cases held
  · rw [Function.update_of_ne own] at held
    exact ⟨own, held⟩

/-! ## What one event does -/

def Genuine (t : Traffic) (who : Traveller) (cue : Cue) : Prop :=
  ∀ landing, cue = .landed landing →
    ∃ flight, who.phase = .waiting flight ∧ t.landings flight = some landing

/-- An invalidation was there before, for the same tags, and it succeeds only as the cache says. -/
def Known (t : Traffic) (event : Event) (id : Nat) (job : Invalidation) : Prop :=
  ∃ old, t.invalidations id = some old ∧ old.tags = job.tags ∧ old.past = job.past ∧
    (job.phase = .finished (.ok true) → old.phase = .finished (.ok true) ∨
      ∃ removed, event = .invalidated id (.ok removed))

/-- An invalidation begins, and is over at once only without tags. -/
def Fresh (t : Traffic) (id : Nat) (job : Invalidation) : Prop :=
  t.invalidations id = none ∧ job.past = t.executions ∧
    (job.phase = .finished (.ok true) → job.tags = [])

/-- What one event does. Of the failures that the cache is said to have had, calls hear no other. -/
inductive Shift (t : Traffic) (event : Event) : Traffic → Prop where
  | idle : Shift t event t
  | begins {id : Nat} {call : ReadCall} : event = .begin id call → t.travellers id = none →
      Shift t event { t with travellers := Function.update t.travellers id (some { call := call }) }
  | moves {id : Nat} {who : Traveller} {cue : Cue} {step : Step} : event = .hear id cue ∨ event = .told id →
      t.travellers id = some who → t.Genuine who cue →
      (∀ e, cue.failure? = some e → event.failure? = some e) →
      Turn t.coordinator who.call who.phase cue step → Shift t event (t.move id who cue step)
  | marks {c : Coordinator} {invalidations : Nat → Option Invalidation} (purge : Purge) :
      SameBooks (purge.mark t.coordinator) c →
      (∀ id job, invalidations id = some job →
        t.Known event id job ∨ t.Fresh id job ∧ purge = .tags job.tags) →
      Shift t event { t with coordinator := c, invalidations := invalidations }
  | counts {c : Coordinator} {invalidations : Nat → Option Invalidation} :
      SameBooks t.coordinator c →
      (∀ id job, invalidations id = some job → t.Known event id job ∨ t.Fresh id job ∧ job.tags = []) →
      Shift t event { t with coordinator := c, invalidations := invalidations }

theorem Known.refl {t : Traffic} {event : Event} {id : Nat} {job : Invalidation}
    (held : t.invalidations id = some job) : t.Known event id job := ⟨job, held, rfl, rfl, .inl⟩

theorem known_follow {t : Traffic} {event : Event} {id : Nat} {job : Invalidation} {step : InvalidationStep}
    (held : t.invalidations id = some job)
    (ended : step.phase = .finished (.ok true) → job.phase = .finished (.ok true) ∨
      ∃ removed, event = .invalidated id (.ok removed)) {other : Nat} {found : Invalidation}
    (later : (t.follow id job step).invalidations other = some found) : t.Known event other found := by
  rcases held_of_update later with ⟨rfl, rfl⟩ | ⟨-, before⟩
  · exact ⟨job, held, rfl, rfl, ended⟩
  · exact .refl before

theorem shift_deliver {t : Traffic} {event : Event} {id : Nat} {cue : Cue}
    (own : event = .hear id cue ∨ event = .told id)
    (genuine : ∀ who, t.travellers id = some who → t.Genuine who cue)
    (failure : ∀ e, cue.failure? = some e → event.failure? = some e) :
    Shift t event (t.deliver id cue) := by
  unfold deliver
  split
  · next who held =>
    split
    · next step steps => exact .moves own held (genuine who held) failure (turn_of_step? steps)
    · exact .idle
  · exact .idle

theorem landingFor?_eq_some {t : Traffic} {id : Nat} {landing : Landing} :
    t.landingFor? id = some landing ↔ ∃ who flight, t.travellers id = some who ∧
      who.phase = .waiting flight ∧ t.landings flight = some landing := by
  unfold landingFor?
  constructor
  · intro found
    split at found
    · next who held =>
      split at found
      · next flight waits => exact ⟨who, flight, held, waits, found⟩
      · cases found
    · cases found
  · rintro ⟨who, flight, held, waits, landed⟩
    simp only [held, waits, landed]

/-- An invalidation marks its tags when it begins; its retries and its end only count. -/
theorem sameBooks_afterInvalidating (c : Coordinator) (tags : List String) (strict : Bool) (failures : Nat)
    (reply : Except Failure Int) :
    SameBooks c (c.afterInvalidating tags strict failures reply).coordinator := by
  unfold Coordinator.afterInvalidating
  split
  · next removed => exact .count c (·.invalidated removed)
  · split
    · dsimp only
      split
      · split
        · exact .count _ _
        · exact .count _ _
      · exact .count _ _
    · exact .refl c

/-- An invalidation succeeds when the cache says so, and not by failing or by waiting. -/
theorem success_afterInvalidating {c : Coordinator} {tags : List String} {strict : Bool} {failures : Nat}
    {reply : Except Failure Int}
    (ended : (c.afterInvalidating tags strict failures reply).phase = .finished (.ok true)) :
    ∃ removed, reply = .ok removed := by
  unfold Coordinator.afterInvalidating at ended
  split at ended
  · next removed => exact ⟨removed, rfl⟩
  · split at ended
    · dsimp only at ended
      split at ended
      · split at ended <;> cases ended
      · cases strict <;> cases ended
    · cases ended

theorem shift_act (t : Traffic) (event : Event) : Shift t event (t.act event) := by
  unfold act
  split
  · split
    · exact .idle
    · next fresh => exact .begins rfl (by simpa using fresh)
  · exact .idle
  · next id cue other =>
    exact shift_deliver (.inl rfl) (fun _ _ landing same => absurd same (other landing)) fun _ same => same
  · next id =>
    split
    · next landing found =>
      obtain ⟨who, flight, held, waits, landed⟩ := landingFor?_eq_some.1 found
      refine shift_deliver (.inr rfl) (fun other held' same genuine => ?_) nofun
      cases held.symm.trans held'
      cases genuine
      exact ⟨flight, waits, landed⟩
    · exact .idle
  · next id tags strict =>
    split
    · exact .idle
    · next fresh =>
      have free : t.invalidations id = none := by simpa using fresh
      dsimp only [follow, Coordinator.startInvalidation]
      -- Without tags it is over at once, and nothing is marked.
      split
      · next none_ =>
        have empty : tagSet tags = [] := by simpa using none_
        refine .counts (.refl _) fun other job later => ?_
        rcases held_of_update later with ⟨rfl, rfl⟩ | ⟨-, before⟩
        · exact .inr ⟨⟨free, rfl, fun _ => empty⟩, empty⟩
        · exact .inl (.refl before)
      · refine .marks (.tags (tagSet tags)) (.refl _) fun other job later => ?_
        rcases held_of_update later with ⟨rfl, rfl⟩ | ⟨-, before⟩
        · exact .inr ⟨⟨free, rfl, nofun⟩, rfl⟩
        · exact .inl (.refl before)
  · next id reply =>
    split
    · next job held =>
      split
      · refine .counts (sameBooks_afterInvalidating ..) fun _ _ later => .inl (known_follow held ?_ later)
        intro ended
        obtain ⟨removed, rfl⟩ := success_afterInvalidating ended
        exact .inr ⟨removed, rfl⟩
      · exact .idle
    · exact .idle
  · split
    · next job held =>
      split
      · exact .counts (.refl _) fun _ _ later => .inl (known_follow held (fun ended => by cases ended) later)
      · exact .idle
    · exact .idle
  · split
    · next job held =>
      split
      · exact .idle
      · exact .counts (.refl _) fun _ _ later => .inl (known_follow held (fun ended => by cases ended) later)
    · exact .idle
  · next reply =>
    refine .counts ?_ fun _ _ held => .inl (.refl held)
    unfold Coordinator.afterForgetting
    split
    · exact .refl _
    · split
      · exact .count _ _
      · exact .refl _
  · exact .marks .everything (.refl _) fun _ _ held => .inl (.refl held)

theorem executions_move {t : Traffic} {id : Nat} {who : Traveller} {cue : Cue} {step : Step} (flight : Nat) :
    flight ∈ (t.move id who cue step).executions ↔
      flight ∈ t.executions ∨ ∃ startedAt, step.phase = .computing flight startedAt := by
  unfold move
  dsimp only
  split
  · next flight' startedAt computing =>
    rw [List.mem_cons, computing, or_comm]
    simp [eq_comm]
  · next other =>
    refine ⟨.inl, fun begun => begun.resolve_right ?_⟩
    rintro ⟨startedAt, computing⟩
    exact other flight startedAt computing

theorem landings_of_move {t : Traffic} {id : Nat} {who : Traveller} {cue : Cue} {step : Step} {flight : Nat}
    {landing : Landing} (landed : (t.move id who cue step).landings flight = some landing) :
    step.landing = some (flight, landing) ∨ t.landings flight = some landing := by
  cases down : step.landing with
  | none =>
    simp only [move, down] at landed
    exact .inr landed
  | some own =>
    simp only [move, down] at landed
    rcases held_of_update landed with ⟨rfl, rfl⟩ | ⟨-, before⟩
    · exact .inl rfl
    · exact .inr before

theorem invalidations_act (t : Traffic) (event : Event) {id : Nat} (known : t.invalidations id ≠ none) :
    (t.act event).invalidations id ≠ none := by
  have follow (other : Nat) (job : Invalidation) (step : InvalidationStep) :
      (t.follow other job step).invalidations id ≠ none := by
    change Function.update t.invalidations other _ id ≠ none
    by_cases own : id = other
    · subst own
      rw [Function.update_self]
      nofun
    · rwa [Function.update_of_ne own]
  have deliver (other : Nat) (cue : Cue) : (t.deliver other cue).invalidations id ≠ none := by
    unfold deliver
    split
    · split
      · exact known
      · exact known
    · exact known
  -- Nothing else touches the invalidations.
  unfold act
  repeat' split
  all_goals first
    | exact known
    | exact deliver _ _
    | exact follow _ _ _

/-- What every shift keeps, every run keeps. -/
theorem run_shifts {P : Traffic → Prop} {Q : Event → Prop}
    (step : ∀ t event t', Q event → P t → Shift t event t' → P t') {t : Traffic} (holds : P t)
    (events : List Event) (all : ∀ event ∈ events, Q event) : P (t.run events) := by
  induction events generalizing t with
  | nil => exact holds
  | cons event rest ih =>
    apply ih
    · exact step t event _ (all event (by simp)) holds (shift_act t event)
    · exact fun event member => all event (by simp [member])

/-! ## A service at its cache -/

/-- Traffic that has a call where a service took it. -/
structure Shows {σ : Type} (t : Traffic) (id : Nat) (call : ReadCall)
    (stop : Phase × Option (Nat × Landing) × Service σ) : Prop where
  coordinator : t.coordinator = stop.2.2.coordinator
  caller : ∃ who, t.travellers id = some who ∧ who.call = call ∧ who.phase = stop.1
  landed : ∀ flight landing, stop.2.1 = some (flight, landing) → t.landings flight = some landing

section Service

variable {σ : Type} (cache : CacheStore σ) {t : Traffic} {id : Nat} {call : ReadCall} {phase : Phase}
  {s s' : Service σ} {cue : Cue} {step : Step}

theorem Shows.deliver (shows : t.Shows id call (phase, none, s))
    (steps : s.coordinator.step? call phase cue = some step) :
    (t.deliver id cue).Shows id call (step.phase, step.landing, s'.take cache step) := by
  obtain ⟨who, held, rfl, rfl⟩ := shows.caller
  have heard : t.deliver id cue = t.move id who cue step := by
    simp only [Traffic.deliver, held, shows.coordinator, steps]
  rw [heard]
  refine ⟨rfl, ⟨who.after cue step.phase, ?_, rfl, rfl⟩, fun flight landing landed => ?_⟩
  · exact Function.update_self ..
  · have down : step.landing = some (flight, landing) := landed
    simp only [move, down, Function.update_self]

theorem act_hear (other : ∀ landing, cue ≠ .landed landing) : t.act (.hear id cue) = t.deliver id cue := by
  cases cue with
  | landed landing => exact absurd rfl (other landing)
  | _ => rfl

/-- A call that goes on at a cache hears one answer of it after the other. -/
theorem Shows.proceed (fuel : Nat) (shows : t.Shows id call (phase, none, s)) :
    ∃ cues : List Cue, (t.run (cues.map (.hear id))).Shows id call (s.proceed cache call fuel phase) := by
  -- The fuel is that of the service; each unit of it that is used is one cue.
  induction fuel generalizing t phase s with
  | zero => exact ⟨[], shows⟩
  | succ fuel ih =>
    rw [Service.proceed]
    split
    · exact ⟨[], shows⟩
    · next step s' acts =>
      obtain ⟨cue, steps, other⟩ := Service.step?_of_interact acts
      have later : (t.act (.hear id cue)).Shows id call (step.phase, step.landing, s'.take cache step) :=
        act_hear other ▸ shows.deliver cache steps
      dsimp only
      split
      · next landing down =>
        rw [down] at later
        exact ⟨[cue], later⟩
      · next down =>
        rw [down] at later
        obtain ⟨cues, last⟩ := ih later
        exact ⟨cue :: cues, last⟩

theorem Shows.goOn {event : Event} (shows : t.Shows id call (phase, none, s))
    (steps : s.coordinator.step? call phase cue = some step) (heard : t.act event = t.deliver id cue) :
    ∃ cues : List Cue, (t.run (event :: cues.map (.hear id))).Shows id call (s'.goOn cache call step) := by
  have later : (t.act event).Shows id call (step.phase, step.landing, s'.take cache step) :=
    heard ▸ shows.deliver cache steps
  unfold Service.goOn
  dsimp only
  split
  · next landing down =>
    rw [down] at later
    exact ⟨[], later⟩
  · next down =>
    rw [down] at later
    exact later.proceed cache _

/-- So does a call that computes first. -/
theorem Shows.compute (work : Attempt σ Value) {flight startedAt : Nat}
    (shows : t.Shows id call (.computing flight startedAt, none, s)) :
    ∃ cues : List Cue,
      (t.run (cues.map (.hear id))).Shows id call (s.compute cache call work flight startedAt) := by
  let result := work.run s.host
  let cue : Cue := .computed (cache.now result.2) result.1
  have heard : t.act (.hear id cue) = t.deliver id cue := rfl
  obtain ⟨cues, last⟩ := shows.goOn cache rfl heard
  exact ⟨cue :: cues, last⟩

/-- A call that has a service to itself is traffic of that call alone, with the same outcome. -/
theorem Shows.read (work : Attempt σ Value) (shows : t.Shows id call (Coordinator.start, none, s)) :
    ∃ cues : List Cue,
      (t.run (cues.map (.hear id))).coordinator = (s.read cache call work).2.coordinator ∧
      ∃ who, (t.run (cues.map (.hear id))).travellers id = some who ∧
        Service.outcomeOf who.phase = (s.read cache call work).1 := by
  obtain ⟨cues, stopped⟩ := shows.proceed cache (Coordinator.rank Coordinator.start)
  unfold Service.read
  dsimp only
  split
  · next flight startedAt landing s' same =>
    rw [same] at stopped
    -- Whatever landed on the way here, the call goes on from its computation.
    have computing : (t.run (cues.map (.hear id))).Shows id call (.computing flight startedAt, none, s') :=
      ⟨stopped.coordinator, stopped.caller, fun _ _ none_ => by cases none_⟩
    obtain ⟨more, last⟩ := computing.compute cache work
    obtain ⟨who, held, -, ended⟩ := last.caller
    rw [← run_append, ← List.map_append] at last held
    exact ⟨cues ++ more, last.coordinator, who, held, congrArg Service.outcomeOf ended⟩
  · next phase landing s' other same =>
    rw [same] at stopped
    obtain ⟨who, held, -, ended⟩ := stopped.caller
    exact ⟨cues, stopped.coordinator, who, held, congrArg Service.outcomeOf ended⟩

end Service

end Traffic

end QueryCache
