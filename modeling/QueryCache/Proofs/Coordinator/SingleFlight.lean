import QueryCache.Proofs.Coordinator.Flights
import QueryCache.Proofs.Coordinator.Traffic

/-! One flight for each key.

The table of flights and the calls that lead one tell the same: a key is in the table exactly
while one call leads it. A flight leaves the table when it lands, and what was invalidated is
remembered only while there are flights. -/

set_option autoImplicit false

namespace QueryCache.Traffic

variable {t t' : Traffic}

def Leads (t : Traffic) (id : Nat) (key : String) (flight : Nat) : Prop :=
  ∃ who startedAt, t.travellers id = some who ∧ who.call.key = key ∧
    who.phase.lead? = some (flight, startedAt)

def Computes (t : Traffic) (id : Nat) (key : String) : Prop :=
  ∃ who flight startedAt, t.travellers id = some who ∧ who.call.key = key ∧
    who.phase = .computing flight startedAt

-- `inflight` and `led` are the two directions of one fact: the table is the set of leaders.
-- `landed` says where the other flights went, and `waits` that nobody waits for nothing.
structure Orderly (t : Traffic) : Prop where
  inflight : ∀ id key flight, t.Leads id key flight →
    Table.get? t.coordinator.inflight key = some flight
  led : ∀ key flight, Table.get? t.coordinator.inflight key = some flight →
    ∃ id, t.Leads id key flight
  alone : ∀ id other key key' flight, t.Leads id key flight → t.Leads other key' flight → id = other
  numbered : ∀ key flight, Table.get? t.coordinator.inflight key = some flight →
    flight < t.coordinator.nextFlight
  landed : ∀ flight, (t.landings flight).isSome ↔ flight < t.coordinator.nextFlight ∧
    ∀ key, Table.get? t.coordinator.inflight key ≠ some flight
  waits : ∀ id who flight, t.travellers id = some who → who.phase = .waiting flight →
    flight < t.coordinator.nextFlight ∧
      (t.landings flight = none → Table.get? t.coordinator.inflight who.call.key = some flight)
  marks : t.coordinator.inflight = [] → t.coordinator.invalidatedAt = []

theorem Leads.call {id : Nat} {key : String} {flight : Nat} {who : Traveller} (leads : t.Leads id key flight)
    (held : t.travellers id = some who) : who.call.key = key := by
  obtain ⟨other, startedAt, held', own, -⟩ := leads
  cases held.symm.trans held'
  exact own

theorem orderly_initial (settings : CoordinatorSettings) : (initial settings).Orderly := by
  constructor
  · rintro id key flight ⟨who, startedAt, held, -⟩
    cases held
  · intro key flight found
    cases found
  · rintro id other key key' flight ⟨who, startedAt, held, -⟩
    cases held
  · intro key flight found
    cases found
  · intro flight
    constructor
    · intro landed
      cases landed
    · rintro ⟨known, -⟩
      cases known
  · intro id who flight held
    cases held
  · intro _
    rfl

theorem Orderly.key_unique (orderly : t.Orderly) {key key' : String} {flight : Nat}
    (found : Table.get? t.coordinator.inflight key = some flight)
    (found' : Table.get? t.coordinator.inflight key' = some flight) : key = key' := by
  obtain ⟨id, leads⟩ := orderly.led key flight found
  obtain ⟨other, leads'⟩ := orderly.led key' flight found'
  obtain rfl := orderly.alone id other key key' flight leads leads'
  obtain ⟨who, startedAt, held, own, -⟩ := leads
  exact own.symm.trans (leads'.call held)

/-! ## Who leads after a step -/

theorem leads_of_travellers (same : t'.travellers = t.travellers) {id : Nat} {key : String} {flight : Nat} :
    t'.Leads id key flight ↔ t.Leads id key flight := by
  rw [Leads, Leads, same]

theorem leads_update_of_ne {id other : Nat} {who : Traveller}
    (changed : t'.travellers = Function.update t.travellers id (some who)) (different : other ≠ id)
    {key : String} {flight : Nat} : t'.Leads other key flight ↔ t.Leads other key flight := by
  rw [Leads, Leads, changed, Function.update_of_ne different]

theorem leads_update_self {id : Nat} {who : Traveller}
    (changed : t'.travellers = Function.update t.travellers id (some who)) {key : String} {flight : Nat} :
    t'.Leads id key flight ↔ who.call.key = key ∧ ∃ startedAt, who.phase.lead? = some (flight, startedAt) := by
  rw [Leads, changed, Function.update_self]
  constructor
  · rintro ⟨_, startedAt, same, own, lead⟩
    cases same
    exact ⟨own, startedAt, lead⟩
  · rintro ⟨own, startedAt, lead⟩
    exact ⟨who, startedAt, rfl, own, lead⟩

/-- A call that leads nothing, before and after it changed, changes nothing for the others. -/
theorem leads_update_of_same {id : Nat} {who : Traveller}
    (changed : t'.travellers = Function.update t.travellers id (some who))
    (same : ∀ key flight, t.Leads id key flight ↔
      who.call.key = key ∧ ∃ startedAt, who.phase.lead? = some (flight, startedAt))
    {other : Nat} {key : String} {flight : Nat} : t'.Leads other key flight ↔ t.Leads other key flight := by
  by_cases own : other = id
  · subst own
    rw [leads_update_self changed, same]
  · exact leads_update_of_ne changed own

theorem leads_iff_of_held {id : Nat} {who : Traveller} (held : t.travellers id = some who) (key : String)
    (flight : Nat) : t.Leads id key flight ↔
      who.call.key = key ∧ ∃ startedAt, who.phase.lead? = some (flight, startedAt) := by
  constructor
  · rintro ⟨_, startedAt, held', own, lead⟩
    cases held.symm.trans held'
    exact ⟨own, startedAt, lead⟩
  · rintro ⟨own, startedAt, lead⟩
    exact ⟨who, startedAt, held, own, lead⟩

theorem not_leads_of_absent {id : Nat} (fresh : t.travellers id = none) (key : String) (flight : Nat) :
    ¬ t.Leads id key flight := by
  rintro ⟨who, startedAt, held, -⟩
  cases fresh.symm.trans held

/-! ## Order is kept -/

/-- Order is kept while the same calls lead, flights stay as they are, and those who begin to wait
do so for the flight of their key. -/
theorem Orderly.frame (orderly : t.Orderly)
    (leads : ∀ id key flight, t'.Leads id key flight ↔ t.Leads id key flight)
    (inflight : t'.coordinator.inflight = t.coordinator.inflight)
    (nextFlight : t'.coordinator.nextFlight = t.coordinator.nextFlight)
    (marks : t.coordinator.inflight = [] →
      t'.coordinator.invalidatedAt = t.coordinator.invalidatedAt)
    (landings : t'.landings = t.landings)
    (waits : ∀ id who flight, t'.travellers id = some who → who.phase = .waiting flight →
      (∃ old, t.travellers id = some old ∧ old.call = who.call ∧ old.phase = .waiting flight) ∨
        Table.get? t.coordinator.inflight who.call.key = some flight) : t'.Orderly := by
  constructor
  · intro id key flight leads'
    rw [inflight]
    exact orderly.inflight id key flight ((leads id key flight).1 leads')
  · intro key flight found
    rw [inflight] at found
    obtain ⟨id, leads'⟩ := orderly.led key flight found
    exact ⟨id, (leads id key flight).2 leads'⟩
  · intro id other key key' flight first last
    exact orderly.alone id other key key' flight ((leads _ _ _).1 first) ((leads _ _ _).1 last)
  · rw [inflight, nextFlight]
    exact orderly.numbered
  · rw [landings, inflight, nextFlight]
    exact orderly.landed
  · intro id who flight held waiting
    rw [landings, inflight, nextFlight]
    rcases waits id who flight held waiting with ⟨old, held', call, waiting'⟩ | found
    · rw [← call]
      exact orderly.waits id old flight held' waiting'
    · exact ⟨orderly.numbered _ _ found, fun _ => found⟩
  · intro empty
    rw [inflight] at empty
    rw [marks empty]
    exact orderly.marks empty

theorem waits_update {id : Nat} {who : Traveller}
    (changed : t'.travellers = Function.update t.travellers id (some who))
    (own : ∀ flight, who.phase = .waiting flight →
      Table.get? t.coordinator.inflight who.call.key = some flight) :
    ∀ other found flight, t'.travellers other = some found → found.phase = .waiting flight →
      (∃ old, t.travellers other = some old ∧ old.call = found.call ∧ old.phase = .waiting flight) ∨
        Table.get? t.coordinator.inflight found.call.key = some flight := by
  intro other found flight held waiting
  rw [changed] at held
  rcases held_of_update held with ⟨rfl, rfl⟩ | ⟨-, before⟩
  · exact .inr (own flight waiting)
  · exact .inl ⟨found, before, rfl, waiting⟩

/-- A new flight is led by the call that began it, and by no other. -/
theorem orderly_takeOff (orderly : t.Orderly) {id startedAt : Nat} {who : Traveller}
    (changed : t'.travellers = Function.update t.travellers id (some who))
    (lead : who.phase.lead? = some (t.coordinator.nextFlight, startedAt))
    (idle : ∀ key flight, ¬ t.Leads id key flight)
    (free : Table.get? t.coordinator.inflight who.call.key = none)
    (landings : t'.landings = t.landings)
    (books : SameBooks (t.coordinator.takeOff who.call.key) t'.coordinator) : t'.Orderly := by
  have inflight (key : String) : Table.get? t'.coordinator.inflight key =
      if key = who.call.key then some t.coordinator.nextFlight
      else Table.get? t.coordinator.inflight key := by
    rw [books.inflight, Coordinator.get?_takeOff]
  have nextFlight : t'.coordinator.nextFlight = t.coordinator.nextFlight + 1 := books.nextFlight
  -- A flight in the table before is still there: the key of the new one was free.
  have stays {key : String} {flight : Nat} (found : Table.get? t.coordinator.inflight key = some flight) :
      Table.get? t'.coordinator.inflight key = some flight := by
    rw [inflight, if_neg, found]
    rintro rfl
    cases free.symm.trans found
  have leads {other : Nat} {key : String} {flight : Nat} (leads : t'.Leads other key flight) :
      other = id ∧ key = who.call.key ∧ flight = t.coordinator.nextFlight ∨
        other ≠ id ∧ t.Leads other key flight := by
    by_cases own : other = id
    · subst own
      obtain ⟨place, number, lead'⟩ := (leads_update_self changed).1 leads
      cases lead.symm.trans lead'
      exact .inl ⟨rfl, place.symm, rfl⟩
    · exact .inr ⟨own, (leads_update_of_ne changed own).1 leads⟩
  have fresh {other : Nat} {key : String} (leads : t.Leads other key t.coordinator.nextFlight) : False :=
    Nat.lt_irrefl _ (orderly.numbered _ _ (orderly.inflight _ _ _ leads))
  constructor
  · intro other key flight leads'
    rcases leads leads' with ⟨-, rfl, rfl⟩ | ⟨-, before⟩
    · rw [inflight, if_pos rfl]
    · exact stays (orderly.inflight other key flight before)
  · intro key flight found
    rw [inflight] at found
    split at found
    · next same =>
      cases found
      exact ⟨id, (leads_update_self changed).2 ⟨same.symm, startedAt, lead⟩⟩
    · obtain ⟨other, before⟩ := orderly.led key flight found
      refine ⟨other, (leads_update_of_ne changed ?_).2 before⟩
      rintro rfl
      exact idle key flight before
  · intro one two key key' flight first last
    rcases leads first with ⟨rfl, -, rfl⟩ | ⟨-, first⟩
    · rcases leads last with ⟨rfl, -, -⟩ | ⟨-, last⟩
      · rfl
      · exact (fresh last).elim
    · rcases leads last with ⟨-, -, rfl⟩ | ⟨-, last⟩
      · exact (fresh first).elim
      · exact orderly.alone one two key key' flight first last
  · intro key flight found
    rw [inflight] at found
    rw [nextFlight]
    split at found
    · cases found
      exact Nat.lt_succ_self _
    · exact Nat.lt_succ_of_lt (orderly.numbered key flight found)
  · intro flight
    -- The new flight is in the table and has not landed; for the others nothing changed.
    rw [landings, orderly.landed, nextFlight]
    constructor
    · rintro ⟨known, gone⟩
      refine ⟨Nat.lt_succ_of_lt known, fun key found => ?_⟩
      rw [inflight] at found
      split at found
      · cases found
        exact Nat.lt_irrefl _ known
      · exact gone key found
    · rintro ⟨known, gone⟩
      refine ⟨Nat.lt_of_le_of_ne (Nat.le_of_lt_succ known) ?_, fun key found => gone key (stays found)⟩
      rintro rfl
      exact gone who.call.key (by rw [inflight, if_pos rfl])
  · intro other found flight held waiting
    have before : ∃ old, t.travellers other = some old ∧ old.call = found.call ∧ old.phase = .waiting flight := by
      rw [changed] at held
      rcases held_of_update held with ⟨rfl, rfl⟩ | ⟨-, before⟩
      · rw [waiting] at lead
        cases lead
      · exact ⟨found, before, rfl, waiting⟩
    obtain ⟨old, held', call, waiting'⟩ := before
    obtain ⟨known, flying⟩ := orderly.waits other old flight held' waiting'
    rw [nextFlight, landings, ← call]
    exact ⟨Nat.lt_succ_of_lt known, fun open_ => stays (flying open_)⟩
  · -- The table is not empty, since the new flight is in it.
    intro empty
    have found : Table.get? t'.coordinator.inflight who.call.key = some t.coordinator.nextFlight := by
      rw [inflight, if_pos rfl]
    rw [empty] at found
    cases found

/-- A flight that lands leaves the table, and its leader is over. -/
theorem orderly_touchDown (orderly : t.Orderly) {id flight startedAt : Nat} {old who : Traveller}
    {landing : Landing} (held : t.travellers id = some old) (lead : old.phase.lead? = some (flight, startedAt))
    (changed : t'.travellers = Function.update t.travellers id (some who))
    (ended : who.phase.lead? = none ∧ ∀ flight, who.phase ≠ .waiting flight)
    (landings : t'.landings = Function.update t.landings flight (some landing))
    (books : SameBooks (t.coordinator.touchDown old.call.key flight) t'.coordinator) : t'.Orderly := by
  have own : t.Leads id old.call.key flight := ⟨old, startedAt, held, rfl, lead⟩
  have flying : Table.get? t.coordinator.inflight old.call.key = some flight := orderly.inflight _ _ _ own
  have inflight (key : String) : Table.get? t'.coordinator.inflight key =
      if key = old.call.key then none else Table.get? t.coordinator.inflight key := by
    rw [books.inflight, Coordinator.get?_touchDown]
    simp only [flying, and_true]
  have nextFlight : t'.coordinator.nextFlight = t.coordinator.nextFlight := books.nextFlight
  have leads {other : Nat} {key : String} {flight' : Nat} (leads : t'.Leads other key flight') :
      other ≠ id ∧ t.Leads other key flight' := by
    by_cases same : other = id
    · subst same
      obtain ⟨-, number, lead'⟩ := (leads_update_self changed).1 leads
      cases ended.1.symm.trans lead'
    · exact ⟨same, (leads_update_of_ne changed same).1 leads⟩
  -- Another call has another flight, and so another key.
  have elsewhere {other : Nat} {key : String} {flight' : Nat} (different : other ≠ id)
      (before : t.Leads other key flight') : key ≠ old.call.key := by
    rintro rfl
    have found := orderly.inflight _ _ _ before
    cases found.symm.trans flying
    exact different (orderly.alone _ _ _ _ _ before own)
  constructor
  · intro other key flight' leads'
    obtain ⟨different, before⟩ := leads leads'
    rw [inflight, if_neg (elsewhere different before)]
    exact orderly.inflight other key flight' before
  · intro key flight' found
    rw [inflight] at found
    split at found
    · cases found
    · next apart =>
      obtain ⟨other, before⟩ := orderly.led key flight' found
      refine ⟨other, (leads_update_of_ne changed ?_).2 before⟩
      rintro rfl
      exact apart (before.call held).symm
  · intro one two key key' flight' first last
    exact orderly.alone one two key key' flight' (leads first).2 (leads last).2
  · intro key flight' found
    rw [inflight] at found
    rw [nextFlight]
    split at found
    · cases found
    · exact orderly.numbered key flight' found
  · intro flight'
    rw [landings, nextFlight]
    by_cases same : flight' = flight
    · subst same
      rw [Function.update_self]
      refine ⟨fun _ => ⟨orderly.numbered _ _ flying, fun key found => ?_⟩, fun _ => rfl⟩
      rw [inflight] at found
      split at found
      · cases found
      · next apart => exact apart (orderly.key_unique found flying)
    · rw [Function.update_of_ne same, orderly.landed]
      have keeps (key : String) : Table.get? t'.coordinator.inflight key = some flight' ↔
          Table.get? t.coordinator.inflight key = some flight' := by
        rw [inflight]
        split
        · next place =>
          subst place
          rw [flying]
          simp [Ne.symm same]
        · exact Iff.rfl
      simp only [ne_eq, keeps]
  · intro other found flight' held' waiting
    have before : t.travellers other = some found := by
      rw [changed] at held'
      rcases held_of_update held' with ⟨rfl, rfl⟩ | ⟨-, before⟩
      · exact absurd waiting (ended.2 flight')
      · exact before
    obtain ⟨known, waits⟩ := orderly.waits other found flight' before waiting
    rw [nextFlight, landings]
    refine ⟨known, fun open_ => ?_⟩
    by_cases same : flight' = flight
    · subst same
      rw [Function.update_self] at open_
      cases open_
    · rw [Function.update_of_ne same] at open_
      have found' := waits open_
      rw [inflight, if_neg]
      · exact found'
      · intro place
        rw [place] at found'
        exact same (Option.some.inj (found'.symm.trans flying))
  · -- With the last flight the marks go.
    intro empty
    rw [books.invalidatedAt]
    rw [books.inflight] at empty
    change (if (t.coordinator.touchDown old.call.key flight).inflight.isEmpty then [] else _) = _
    rw [empty]
    rfl

theorem orderly_shift {event : Event} (orderly : t.Orderly) (shift : Shift t event t') : t'.Orderly := by
  cases shift with
  | idle => exact orderly
  | begins _ fresh =>
    refine orderly.frame (fun other key flight => ?_) rfl rfl (fun _ => rfl) rfl ?_
    · refine leads_update_of_same rfl fun key flight => ?_
      exact ⟨fun leads => (not_leads_of_absent fresh key flight leads).elim, by rintro ⟨-, -, ⟨⟩⟩⟩
    · refine waits_update rfl fun flight waits => ?_
      cases waits
  | marks purge books _ =>
    -- Tags are marked only while there are flights.
    obtain ⟨-, inflight, nextFlight⟩ := World.sequence_mark purge t.coordinator
    refine orderly.frame (fun _ _ _ => leads_of_travellers rfl) (books.inflight.trans inflight)
      (books.nextFlight.trans nextFlight) (fun empty => ?_) rfl
      fun id who flight held waiting => .inl ⟨who, held, rfl, waiting⟩
    rw [books.invalidatedAt]
    cases purge with
    | tags tags =>
      change (if t.coordinator.inflight.isEmpty then _ else _) = _
      rw [empty]
      rfl
    | everything => rfl
  | counts books _ =>
    exact orderly.frame (fun _ _ _ => leads_of_travellers rfl) books.inflight books.nextFlight
      (fun _ => books.invalidatedAt) rfl fun id who flight held waiting => .inl ⟨who, held, rfl, waiting⟩
  | @moves id who cue step _ held genuine _ turn =>
    -- A call that leads nothing before and after its step leaves the flights as they are.
    have quiet (same : step.phase.lead? = who.phase.lead?) (landing : step.landing = none)
        (books : SameBooks t.coordinator step.coordinator)
        (waits : ∀ flight, step.phase = .waiting flight →
          Table.get? t.coordinator.inflight who.call.key = some flight) :
        (t.move id who cue step).Orderly := by
      refine orderly.frame (fun other key flight => ?_) books.inflight books.nextFlight
        (fun _ => books.invalidatedAt) ?_ (waits_update rfl waits)
      · refine leads_update_of_same rfl fun key flight => ?_
        rw [leads_iff_of_held held, Traveller.after_call, Traveller.after_phase, same]
      · simp only [move, landing]
    cases turn with
    | pursues pursues next landing books =>
      subst next
      exact quiet pursues.lead landing books fun flight waits => absurd waits (pursues.ne_waiting flight)
    | joins missed lead found next landing books =>
      refine quiet (by rw [next, lead]; rfl) landing books fun flight waits => ?_
      rw [next] at waits
      cases waits
      exact found
    | leads missed lead free next landing books =>
      have lead' : (who.after cue step.phase).phase.lead? =
          some (t.coordinator.nextFlight, t.coordinator.sequence) := by
        rw [Traveller.after_phase, next]
        rfl
      refine orderly_takeOff orderly rfl lead' ?_ free ?_ books
      · intro key flight leads
        obtain ⟨-, startedAt, lead'⟩ := (leads_iff_of_held held key flight).1 leads
        cases lead.symm.trans lead'
      · simp only [move, landing]
    | ends why lead next landing books =>
      exact quiet (by rw [next, lead]; rfl) landing books (by simp [next])
    | @lands outcome landing flight startedAt why lead next landed books =>
      have ended : (who.after cue step.phase).phase.lead? = none ∧
          ∀ flight, (who.after cue step.phase).phase ≠ .waiting flight := by
        rw [Traveller.after_phase, next]
        refine ⟨rfl, fun flight waits => ?_⟩
        cases waits
      have landings : (t.move id who cue step).landings =
          Function.update t.landings flight (some landing) := by
        simp only [move, landed]
      exact orderly_touchDown orderly held lead rfl ended landings books

end QueryCache.Traffic
