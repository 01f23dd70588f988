import QueryCache.Proofs.Coordinator.SingleFlight

/-! What a call may give.

A value comes from an entry that the cache gave or from the computation of a flight that the call
led or joined; a failure is that of such a computation; and a call is cancelled only if its caller
went away or the computation that it led gave up. The one exception is a span of seconds that no
entry can have: it fails the flight once the value is there. -/

set_option autoImplicit false

namespace QueryCache.Traffic

variable {t t' : Traffic} {event : Event}

/-- The cache gave an entry under a key that decodes to a value. -/
def Retrieved (t : Traffic) (key : String) (value : Value) : Prop :=
  ∃ entry, (key, entry) ∈ t.retrieved ∧ t.coordinator.settings.codec.decode entry.payload = .ok value

def Took (t : Traffic) (id : Nat) (who : Traveller) (flight : Nat) : Prop :=
  ∃ leader call, t.leaders flight = some (leader, call) ∧ call.key = who.call.key ∧
    (leader = id ∨ flight ∈ who.joined)

/-- The grounds on which a call may give an outcome. -/
inductive Grounded (t : Traffic) (id : Nat) (who : Traveller) : Except Failure Value → Prop where
  | retrieved {value : Value} : t.Retrieved who.call.key value → Grounded t id who (.ok value)
  | computed {flight : Nat} {value : Value} : t.Took id who flight →
      t.results flight = some (.ok value) → Grounded t id who (.ok value)
  | failed {flight : Nat} {e : Failure} : t.Took id who flight → t.results flight = some (.error e) →
      e ≠ .cancelled → Grounded t id who (.error e)
  | cancelled : who.cancelled = true → Grounded t id who (.error .cancelled)
  | gaveUp {flight : Nat} {call : ReadCall} : t.leaders flight = some (id, call) →
      t.results flight = some (.error .cancelled) → Grounded t id who (.error .cancelled)

/-- The value of a flight was there, but no entry could be made of it: the seconds it was to live
are out of range. -/
def Unstorable (t : Traffic) (flight : Nat) : Prop :=
  ∃ leader call value, t.leaders flight = some (leader, call) ∧ t.results flight = some (.ok value) ∧
    (t.coordinator.lifetime call).toBinary? = none

/-- The grounds on which a flight may land. -/
def Warrants (t : Traffic) (flight : Nat) (key : String) : Landing → Prop
  | .value value => t.Retrieved key value ∨ t.results flight = some (.ok value)
  | .failed e =>
    t.results flight = some (.error e) ∧ e ≠ .cancelled ∨ e = tooLong ∧ t.Unstorable flight
  | .abandoned => True

/-- A call failed with a flight whose value no entry could be made of. -/
def Overlong (t : Traffic) (id : Nat) (who : Traveller) (outcome : Except Failure Value) : Prop :=
  outcome = .error tooLong ∧ ∃ flight, t.Took id who flight ∧ t.Unstorable flight

/-- What is known of a call by its phase. -/
def Stands (t : Traffic) (id : Nat) (who : Traveller) : Prop :=
  match who.phase with
  | .lookup _ | .discard _ | .computing _ _ => True
  | .refresh _ value => t.Retrieved who.call.key value
  | .waiting flight => t.Took id who flight
  | .storing flight _ value _ => t.results flight = some (.ok value)
  | .finished outcome => t.Grounded id who outcome ∨ t.Overlong id who outcome

structure Warranted (t : Traffic) : Prop where
  orderly : t.Orderly
  stands : ∀ id who, t.travellers id = some who → t.Stands id who
  leaders : ∀ id who flight startedAt, t.travellers id = some who →
    who.phase.lead? = some (flight, startedAt) → t.leaders flight = some (id, who.call)
  /-- A leader has no result before it stores one. -/
  pending : ∀ id who flight startedAt, t.travellers id = some who →
    who.phase.lead? = some (flight, startedAt) →
      t.results flight = none ∨ ∃ value entry, who.phase = .storing flight startedAt value entry
  fresh : ∀ flight, t.coordinator.nextFlight ≤ flight →
    t.leaders flight = none ∧ t.results flight = none
  landings : ∀ flight landing, t.landings flight = some landing →
    ∃ leader call, t.leaders flight = some (leader, call) ∧ t.Warrants flight call.key landing
  puts : ∀ flight entry, (flight, entry) ∈ t.puts → ∃ value, t.results flight = some (.ok value) ∧
    t.coordinator.settings.codec.encode value = .ok entry.payload

theorem warranted_initial (settings : CoordinatorSettings) : (initial settings).Warranted := by
  constructor
  · exact orderly_initial settings
  · intro id who held
    cases held
  · intro id who flight startedAt held
    cases held
  · intro id who flight startedAt held
    cases held
  · intro flight _
    exact ⟨rfl, rfl⟩
  · intro flight landing landed
    cases landed
  · intro flight entry member
    cases member

/-! ## The record only grows -/

structure Grows (t t' : Traffic) : Prop where
  settings : t'.coordinator.settings = t.coordinator.settings
  leaders : ∀ flight leader, t.leaders flight = some leader → t'.leaders flight = some leader
  results : ∀ flight result, t.results flight = some result → t'.results flight = some result
  retrieved : ∀ entry ∈ t.retrieved, entry ∈ t'.retrieved

section

variable {id flight : Nat} {who : Traveller} {key : String}

theorem Retrieved.grow {value : Value} (got : t.Retrieved key value) (grows : Grows t t') :
    t'.Retrieved key value := by
  obtain ⟨entry, member, decoded⟩ := got
  refine ⟨entry, grows.retrieved _ member, ?_⟩
  rwa [grows.settings]

theorem Took.grow (took : t.Took id who flight) (grows : Grows t t') : t'.Took id who flight := by
  obtain ⟨leader, call, led, same, part⟩ := took
  exact ⟨leader, call, grows.leaders _ _ led, same, part⟩

theorem Grounded.grow {outcome : Except Failure Value} (grounded : t.Grounded id who outcome)
    (grows : Grows t t') : t'.Grounded id who outcome := by
  cases grounded with
  | retrieved got => exact .retrieved (got.grow grows)
  | computed took result => exact .computed (took.grow grows) (grows.results _ _ result)
  | failed took result other => exact .failed (took.grow grows) (grows.results _ _ result) other
  | cancelled asked => exact .cancelled asked
  | gaveUp led result => exact .gaveUp (grows.leaders _ _ led) (grows.results _ _ result)

theorem Unstorable.grow (unstorable : t.Unstorable flight) (grows : Grows t t') : t'.Unstorable flight := by
  obtain ⟨leader, call, value, led, result, endless⟩ := unstorable
  refine ⟨leader, call, value, grows.leaders _ _ led, grows.results _ _ result, ?_⟩
  rwa [Coordinator.lifetime, grows.settings]

theorem Warrants.grow {landing : Landing} (warrants : t.Warrants flight key landing) (grows : Grows t t') :
    t'.Warrants flight key landing := by
  cases landing with
  | value value => exact warrants.imp (·.grow grows) (grows.results _ _)
  | failed e => exact warrants.imp (fun w => ⟨grows.results _ _ w.1, w.2⟩) fun w => ⟨w.1, w.2.grow grows⟩
  | abandoned => trivial

theorem Overlong.grow {outcome : Except Failure Value} (overlong : t.Overlong id who outcome)
    (grows : Grows t t') : t'.Overlong id who outcome := by
  obtain ⟨same, flight, took, unstorable⟩ := overlong
  exact ⟨same, flight, took.grow grows, unstorable.grow grows⟩

theorem Stands.grow (stands : t.Stands id who) (grows : Grows t t') : t'.Stands id who := by
  unfold Stands at *
  split at stands
  · trivial
  · trivial
  · trivial
  · exact stands.grow grows
  · exact stands.grow grows
  · exact grows.results _ _ stands
  · exact stands.imp (·.grow grows) (·.grow grows)

theorem Took.after (took : t.Took id who flight) (cue : Cue) (phase : Phase) :
    t.Took id (who.after cue phase) flight := by
  obtain ⟨leader, call, led, same, part⟩ := took
  refine ⟨leader, call, led, same, part.imp_right fun member => ?_⟩
  unfold Traveller.after
  dsimp only
  split
  · exact List.mem_cons_of_mem _ member
  · exact member

end

/-! ## What one step adds to the record -/

section

variable {id : Nat} {who : Traveller} {cue : Cue} {step : Step}

theorem results_move_of_ne {flight : Nat} (other : ∀ startedAt, who.phase ≠ .computing flight startedAt) :
    (t.move id who cue step).results flight = t.results flight := by
  obtain ⟨call, phase, joined, cancelled⟩ := who
  cases phase with
  | computing flight' startedAt =>
    cases cue with
    | computed now result =>
      apply Function.update_of_ne
      rintro rfl
      exact other startedAt rfl
    | _ => rfl
  | _ => rfl

theorem results_move_of_computed {flight startedAt : Nat} {now : Time} {result : Except Failure Value}
    (computing : who.phase = .computing flight startedAt) :
    (t.move id who (.computed now result) step).results flight = some result := by
  simp only [move, computing, Function.update_self]

theorem leaders_move (turn : Turn t.coordinator who.call who.phase cue step) (flight : Nat) :
    (t.move id who cue step).leaders flight = t.leaders flight ∨
      flight = t.coordinator.nextFlight ∧ step.coordinator.nextFlight = flight + 1 ∧
        (t.move id who cue step).leaders flight = some (id, who.call) := by
  cases turn with
  | pursues pursues next =>
    left
    subst next
    have same : (t.move id who cue step).leaders = t.leaders := by
      unfold move
      dsimp only
      split
      · next phase => exact absurd phase (pursues.ne_leading _ _)
      · rfl
    rw [same]
  | joins _ _ _ next => simp [move, next]
  | leads _ _ _ next _ books =>
    by_cases own : flight = t.coordinator.nextFlight
    · subst own
      exact .inr ⟨rfl, books.nextFlight, by simp [move, next]⟩
    · left
      simp [move, next, Function.update_of_ne own]
  | ends _ _ next => simp [move, next]
  | lands _ _ next => simp [move, next]

theorem grows_move (warranted : t.Warranted) (held : t.travellers id = some who)
    (turn : Turn t.coordinator who.call who.phase cue step) : Grows t (t.move id who cue step) := by
  constructor
  · exact turn.books.1
  · intro flight leader led
    rcases leaders_move turn flight with same | ⟨rfl, -⟩
    · rw [same, led]
    · cases (warranted.fresh _ (Nat.le_refl _)).1.symm.trans led
  · intro flight result known
    rw [results_move_of_ne, known]
    intro startedAt computing
    -- A call that computes has no result yet.
    rcases warranted.pending id who flight startedAt held (by rw [computing]; rfl) with
      none_ | ⟨value, entry, storing⟩
    · cases none_.symm.trans known
    · cases computing.symm.trans storing
  · intro entry member
    unfold move
    dsimp only
    split
    · exact List.mem_cons_of_mem _ member
    · exact member

end

/-! ## The grounds on which a call ends -/

section

variable {id : Nat} {who : Traveller} {cue : Cue} {step : Step}

theorem Warranted.took (warranted : t.Warranted) (held : t.travellers id = some who) {flight startedAt : Nat}
    (lead : who.phase.lead? = some (flight, startedAt)) : t.Took id who flight :=
  ⟨id, who.call, warranted.leaders id who flight startedAt held lead, rfl, .inl rfl⟩

/-- What a call may give once its flight has landed. -/
theorem grounds_of_landing {flight : Nat} {landing : Landing} {outcome : Except Failure Value}
    (took : t.Took id who flight) (warrants : t.Warrants flight who.call.key landing)
    (given : landing ≠ .abandoned) (tells : Service.tells landing outcome) :
    t.Grounded id who outcome ∨ t.Overlong id who outcome := by
  cases landing with
  | value value =>
    obtain rfl : outcome = .ok value := tells
    exact .inl (warrants.elim .retrieved (.computed took))
  | failed e =>
    obtain rfl : outcome = .error e := tells
    rcases warrants with ⟨result, other⟩ | ⟨rfl, unstorable⟩
    · exact .inl (.failed took result other)
    · exact .inr ⟨rfl, flight, took, unstorable⟩
  | abandoned => exact absurd rfl given

theorem grounds_of_concludes (warranted : t.Warranted) (held : t.travellers id = some who)
    (genuine : t.Genuine who cue) (mild : ∀ e, cue.failure? = some e → e.isUnavailable = true)
    (turn : Turn t.coordinator who.call who.phase cue step)
    {outcome : Except Failure Value} {landing : Landing}
    (why : Concludes t.coordinator who.call who.phase cue outcome landing) :
    ((t.move id who cue step).Grounded id (who.after cue step.phase) outcome ∨
      (t.move id who cue step).Overlong id (who.after cue step.phase) outcome) ∧
    ∀ flight startedAt, who.phase.lead? = some (flight, startedAt) →
      (t.move id who cue step).Warrants flight who.call.key landing := by
  have grows := grows_move warranted held turn
  have stands := warranted.stands id who held
  have took {flight startedAt : Nat} (lead : who.phase.lead? = some (flight, startedAt)) :=
    ((warranted.took held lead).grow grows).after cue step.phase
  have led {flight startedAt : Nat} (lead : who.phase.lead? = some (flight, startedAt)) :=
    grows.leaders _ _ (warranted.leaders id who flight startedAt held lead)
  generalize at_ : who.phase = phase at why
  unfold Stands at stands
  rw [at_] at stands
  cases why with
  | @hit role entry value decoded =>
    have got : (t.move id who (.found (.ok (some entry))) step).Retrieved who.call.key value := by
      refine ⟨entry, List.mem_cons_self, ?_⟩
      rwa [grows.settings]
    exact ⟨.inl (.retrieved got), fun _ _ _ => .inl got⟩
  | renewed => exact ⟨.inl (.retrieved (stands.grow grows)), fun _ _ _ => .inl (stands.grow grows)⟩
  | @told flight landing outcome given tells =>
    obtain ⟨flight', waiting, landed⟩ := genuine landing rfl
    cases at_.symm.trans waiting
    obtain ⟨leader, call, lead, warrants⟩ := warranted.landings flight landing landed
    -- The flight was joined under the key of its leader.
    have own : call.key = who.call.key := by
      obtain ⟨leader', call', lead', same, -⟩ := stands
      cases lead.symm.trans lead'
      exact same
    rw [own] at warrants
    exact ⟨grounds_of_landing ((stands.grow grows).after _ _) (warrants.grow grows) given tells, nofun⟩
  | @computed flight startedAt now value =>
    have result : (t.move id who (.computed now (.ok value)) step).results flight = some (.ok value) :=
      results_move_of_computed at_
    refine ⟨.inl (.computed (took (by rw [at_]; rfl)) result), fun flight' startedAt' lead => ?_⟩
    cases lead
    exact .inr result
  | @failed flight startedAt now e other =>
    have result : (t.move id who (.computed now (.error e)) step).results flight = some (.error e) :=
      results_move_of_computed at_
    refine ⟨.inl (.failed (took (by rw [at_]; rfl)) result other), fun flight' startedAt' lead => ?_⟩
    cases lead
    exact .inl ⟨result, other⟩
  | @gaveUp flight startedAt now =>
    refine ⟨.inl (.gaveUp (led (by rw [at_]; rfl)) (results_move_of_computed at_)), fun _ _ _ => trivial⟩
  | @unstorable flight startedAt now value endless =>
    have unstorable : (t.move id who (.computed now (.ok value)) step).Unstorable flight := by
      refine ⟨id, who.call, value, led (by rw [at_]; rfl), results_move_of_computed at_, ?_⟩
      rwa [Coordinator.lifetime, grows.settings]
    refine ⟨.inr ⟨rfl, flight, took (by rw [at_]; rfl), unstorable⟩, fun flight' startedAt' lead => ?_⟩
    cases lead
    exact .inr ⟨rfl, unstorable⟩
  | @stored flight startedAt value entry reply =>
    have result := grows.results _ _ stands
    refine ⟨.inl (.computed (took (by rw [at_]; rfl)) result), fun flight' startedAt' lead => ?_⟩
    cases lead
    exact .inr result
  | cancelled => exact ⟨.inl (.cancelled rfl), fun _ _ _ => trivial⟩
  | broken failure other =>
    rw [mild _ failure] at other
    cases other

end

/-! ## Every call has grounds -/

/-- The record stays as it is, and calls that begin are at their start. -/
theorem Warranted.frame (warranted : t.Warranted) (orderly : t'.Orderly)
    (settings : t'.coordinator.settings = t.coordinator.settings)
    (nextFlight : t'.coordinator.nextFlight = t.coordinator.nextFlight)
    (leaders : t'.leaders = t.leaders) (results : t'.results = t.results)
    (retrieved : t'.retrieved = t.retrieved) (landings : t'.landings = t.landings)
    (puts : t'.puts = t.puts)
    (travellers : ∀ id who, t'.travellers id = some who →
      t.travellers id = some who ∨ who.phase = Coordinator.start) : t'.Warranted := by
  have grows : Grows t t' := by
    constructor
    · exact settings
    · rw [leaders]
      exact fun _ _ led => led
    · rw [results]
      exact fun _ _ known => known
    · rw [retrieved]
      exact fun _ member => member
  constructor
  · exact orderly
  · intro id who held
    rcases travellers id who held with before | begins
    · exact (warranted.stands id who before).grow grows
    · unfold Stands
      rw [begins]
      trivial
  · intro id who flight startedAt held lead
    rcases travellers id who held with before | begins
    · exact grows.leaders _ _ (warranted.leaders id who flight startedAt before lead)
    · rw [begins] at lead
      cases lead
  · intro id who flight startedAt held lead
    rcases travellers id who held with before | begins
    · rw [results]
      exact warranted.pending id who flight startedAt before lead
    · rw [begins] at lead
      cases lead
  · rw [nextFlight, leaders, results]
    exact warranted.fresh
  · intro flight landing landed
    rw [landings] at landed
    obtain ⟨leader, call, led, warrants⟩ := warranted.landings flight landing landed
    exact ⟨leader, call, grows.leaders _ _ led, warrants.grow grows⟩
  · rw [puts, results, settings]
    exact warranted.puts

section

variable {id : Nat} {who : Traveller} {cue : Cue} {step : Step}

theorem stands_move (warranted : t.Warranted) (held : t.travellers id = some who)
    (genuine : t.Genuine who cue) (mild : ∀ e, cue.failure? = some e → e.isUnavailable = true)
    (turn : Turn t.coordinator who.call who.phase cue step) :
    (t.move id who cue step).Stands id (who.after cue step.phase) := by
  have grows := grows_move warranted held turn
  have grounds {outcome : Except Failure Value} {landing : Landing}
      (why : Concludes t.coordinator who.call who.phase cue outcome landing) :=
    (grounds_of_concludes warranted held genuine mild turn why).1
  unfold Stands
  rw [Traveller.after_phase]
  -- A call that goes on has the grounds of its new phase, and one that is over those of its conclusion.
  cases turn with
  | @pursues next pursues phase =>
    rw [phase]
    generalize at_ : who.phase = before at pursues
    cases pursues with
    | @renews role entry value decoded =>
      refine ⟨entry, List.mem_cons_self, ?_⟩
      rwa [grows.settings]
    | @stores flight startedAt now value entry => exact results_move_of_computed at_
    | _ => trivial
  | @joins flight missed lead found phase =>
    rw [phase]
    obtain ⟨leader, other, startedAt, held', own, lead'⟩ := warranted.orderly.led _ _ found
    exact ⟨leader, other.call, grows.leaders _ _ (warranted.leaders _ _ _ _ held' lead'), own,
      .inr List.mem_cons_self⟩
  | leads missed lead free phase =>
    rw [phase]
    trivial
  | ends why lead phase =>
    have given := grounds why
    rw [phase] at given ⊢
    exact given
  | lands why lead phase =>
    have given := grounds why
    rw [phase] at given ⊢
    exact given

theorem pending_move (warranted : t.Warranted) (held : t.travellers id = some who)
    (turn : Turn t.coordinator who.call who.phase cue step) {flight startedAt : Nat}
    (lead : step.phase.lead? = some (flight, startedAt)) :
    (t.move id who cue step).results flight = none ∨
      ∃ value entry, step.phase = .storing flight startedAt value entry := by
  rcases turn.lead lead with ⟨lead', pursues⟩ | ⟨missed, rfl, -⟩
  · have pending := warranted.pending id who flight startedAt held lead'
    -- Until it computes, a call has no result, and what it computed it stores.
    have quiet (idle : ∀ startedAt, who.phase ≠ .computing flight startedAt)
        (other : ∀ value entry, who.phase ≠ .storing flight startedAt value entry) :
        (t.move id who cue step).results flight = none := by
      rw [results_move_of_ne idle]
      exact pending.resolve_right fun ⟨value, entry, storing⟩ => other value entry storing
    generalize who.phase = before at pursues lead' quiet
    generalize step.phase = next at pursues
    cases pursues with
    | discards => exact .inl (quiet nofun nofun)
    | renews => exact .inl (quiet nofun nofun)
    | computes missed =>
      left
      apply quiet
      · rintro number rfl
        cases missed
      · rintro value entry rfl
        cases missed
    | stores =>
      cases lead'
      exact .inr ⟨_, _, rfl⟩
    | restarts => exact .inl (quiet nofun nofun)
  · left
    rw [results_move_of_ne]
    · exact (warranted.fresh _ (Nat.le_refl _)).2
    · intro number computing
      rw [computing] at missed
      cases missed

theorem fresh_move (warranted : t.Warranted) (held : t.travellers id = some who)
    (turn : Turn t.coordinator who.call who.phase cue step) {flight : Nat}
    (later : step.coordinator.nextFlight ≤ flight) :
    (t.move id who cue step).leaders flight = none ∧ (t.move id who cue step).results flight = none := by
  have known : t.coordinator.nextFlight ≤ flight := Nat.le_trans turn.books.2.2 later
  obtain ⟨unled, unknown⟩ := warranted.fresh flight known
  constructor
  · rcases leaders_move turn flight with same | ⟨-, next, -⟩
    · rw [same, unled]
    · omega
  · rw [results_move_of_ne, unknown]
    intro startedAt computing
    have led := warranted.leaders id who flight startedAt held (by rw [computing]; rfl)
    cases unled.symm.trans led

theorem landings_move (warranted : t.Warranted) (held : t.travellers id = some who)
    (genuine : t.Genuine who cue) (mild : ∀ e, cue.failure? = some e → e.isUnavailable = true)
    (turn : Turn t.coordinator who.call who.phase cue step) {flight : Nat} {landing : Landing}
    (landed : (t.move id who cue step).landings flight = some landing) :
    ∃ leader call, (t.move id who cue step).leaders flight = some (leader, call) ∧
      (t.move id who cue step).Warrants flight call.key landing := by
  have grows := grows_move warranted held turn
  rcases landings_of_move landed with down | before
  · -- What those who wait are told is what the leader itself has grounds for.
    obtain ⟨startedAt, outcome, lead, why⟩ := turn.landed down
    refine ⟨id, who.call, grows.leaders _ _ (warranted.leaders _ _ _ _ held lead), ?_⟩
    exact (grounds_of_concludes warranted held genuine mild turn why).2 flight startedAt lead
  · obtain ⟨leader, call, led, warrants⟩ := warranted.landings flight landing before
    exact ⟨leader, call, grows.leaders _ _ led, warrants.grow grows⟩

theorem puts_move (warranted : t.Warranted) (held : t.travellers id = some who)
    (turn : Turn t.coordinator who.call who.phase cue step) {flight : Nat} {entry : CacheEntry}
    (member : (flight, entry) ∈ (t.move id who cue step).puts) :
    ∃ value, (t.move id who cue step).results flight = some (.ok value) ∧
      step.coordinator.settings.codec.encode value = .ok entry.payload := by
  have grows := grows_move warranted held turn
  have settings : step.coordinator.settings = t.coordinator.settings := grows.settings
  have before (member : (flight, entry) ∈ t.puts) :
      ∃ value, (t.move id who cue step).results flight = some (.ok value) ∧
        step.coordinator.settings.codec.encode value = .ok entry.payload := by
    obtain ⟨value, result, encoded⟩ := warranted.puts flight entry member
    refine ⟨value, grows.results _ _ result, ?_⟩
    rwa [settings]
  unfold move at member
  dsimp only at member
  split at member
  · next flight' startedAt value entry' storing =>
    rcases List.mem_cons.1 member with same | member
    · cases same
      have pursues := turn.pursued storing ⟨nofun, nofun, nofun⟩
      generalize at_ : who.phase = before at pursues
      cases pursues with
      | stores encoded =>
        refine ⟨value, results_move_of_computed at_, ?_⟩
        rwa [settings]
    · exact before member
  · exact before member

end

theorem warranted_shift (warranted : t.Warranted) (mild : event.Mild) (shift : Shift t event t') :
    t'.Warranted := by
  have orderly := orderly_shift warranted.orderly shift
  cases shift with
  | idle => exact warranted
  | @begins id call _ fresh =>
    refine warranted.frame orderly rfl rfl rfl rfl rfl rfl rfl fun other who held => ?_
    rcases held_of_update held with ⟨rfl, rfl⟩ | ⟨-, before⟩
    · exact .inr rfl
    · exact .inl before
  | marks purge books _ =>
    obtain ⟨-, -, nextFlight⟩ := World.sequence_mark purge t.coordinator
    refine warranted.frame orderly ?_ (books.nextFlight.trans nextFlight) rfl rfl rfl rfl rfl fun _ _ => .inl
    rw [books.settings]
    cases purge <;> rfl
  | counts books _ =>
    exact warranted.frame orderly books.settings books.nextFlight rfl rfl rfl rfl rfl fun _ _ => .inl
  | @moves id who cue step _ held genuine failure turn =>
    have mild' (e : Failure) (heard : cue.failure? = some e) : e.isUnavailable = true :=
      mild e (failure e heard)
    have grows := grows_move warranted held turn
    constructor
    · exact orderly
    · intro other found held'
      rcases held_of_update held' with ⟨rfl, rfl⟩ | ⟨-, before⟩
      · exact stands_move warranted held genuine mild' turn
      · exact (warranted.stands other found before).grow grows
    · intro other found flight startedAt held' lead
      rcases held_of_update held' with ⟨rfl, rfl⟩ | ⟨-, before⟩
      · rcases turn.lead lead with ⟨lead', -⟩ | ⟨-, -, -, leading⟩
        · exact grows.leaders _ _ (warranted.leaders other who _ _ held lead')
        · simp [move, leading]
      · exact grows.leaders _ _ (warranted.leaders _ _ _ _ before lead)
    · intro other found flight startedAt held' lead
      rcases held_of_update held' with ⟨rfl, rfl⟩ | ⟨apart, before⟩
      · exact pending_move warranted held turn lead
      · rw [results_move_of_ne]
        · exact warranted.pending other found flight startedAt before lead
        · intro number computing
          -- Nobody else computes the flight that a call leads.
          apply apart
          exact warranted.orderly.alone _ _ _ _ _ ⟨found, startedAt, before, rfl, lead⟩
            ⟨who, number, held, rfl, by rw [computing]; rfl⟩
    · exact fun flight => fresh_move warranted held turn
    · exact fun flight landing => landings_move warranted held genuine mild' turn
    · exact fun flight entry => puts_move warranted held turn

end QueryCache.Traffic
