import QueryCache.Proofs.Coordinator.Purge

/-! Whose value a call gives that began after an invalidation.

The cache holds nothing of before that had to go, but a flight from before may still be in the
air, and a call that joins it is told its value. That is the only way, an entry under other tags
aside, in which a call is given a value from before. -/

set_option autoImplicit false

namespace QueryCache

open Service

namespace World

variable {w w' : World} {past : List Nat}

/-- The flights in the air, and how flights that are not ended. -/
structure Flying (w : World) : Prop where
  numbered : ∀ key flight, Table.get? w.service.coordinator.inflight key = some flight →
    flight < w.service.coordinator.nextFlight
  unique : ∀ key other flight, Table.get? w.service.coordinator.inflight key = some flight →
    Table.get? w.service.coordinator.inflight other = some flight → key = other
  down : ∀ flight landing, w.landed flight = some landing →
    flight < w.service.coordinator.nextFlight ∧
      ∀ key, Table.get? w.service.coordinator.inflight key ≠ some flight
  values : ∀ flight value source, w.landed flight = some (.value value, source) → source = some flight

theorem flying_initial (settings : CoordinatorSettings) (now : Time) : (initial settings now).Flying :=
  ⟨nofun, nofun, nofun, nofun⟩

theorem Flying.frame (flying : w.Flying) (landed : w'.landed = w.landed)
    (inflight : w'.service.coordinator.inflight = w.service.coordinator.inflight)
    (nextFlight : w'.service.coordinator.nextFlight = w.service.coordinator.nextFlight) : w'.Flying := by
  constructor
  · rw [inflight, nextFlight]
    exact flying.numbered
  · rw [inflight]
    exact flying.unique
  · rw [landed, inflight, nextFlight]
    exact flying.down
  · rw [landed]
    exact flying.values

/-- A flight that takes off has a number above all that are or were in the air. -/
theorem Flying.takeOff (flying : w.Flying) {key₀ : String} (landed : w'.landed = w.landed)
    (books : SameBooks (w.service.coordinator.takeOff key₀) w'.service.coordinator) : w'.Flying := by
  have after (key : String) : Table.get? w'.service.coordinator.inflight key =
      if key = key₀ then some w.service.coordinator.nextFlight
      else Table.get? w.service.coordinator.inflight key := by
    rw [books.inflight, Coordinator.get?_takeOff]
  have next : w'.service.coordinator.nextFlight = w.service.coordinator.nextFlight + 1 := books.nextFlight
  -- So it can be mistaken neither for one in the air nor for one that is down.
  have new (key : String) : Table.get? w.service.coordinator.inflight key ≠
      some w.service.coordinator.nextFlight := by
    intro found
    have := flying.numbered key _ found
    omega
  constructor
  · intro key flight found
    rw [after] at found
    split at found
    · cases found
      omega
    · have := flying.numbered key flight found
      omega
  · intro key other flight one two
    rw [after] at one two
    split at one
    · next same =>
      cases one
      split at two
      · next same' => rw [same, same']
      · exact absurd two (new other)
    · split at two
      · cases two
        exact absurd one (new key)
      · exact flying.unique key other flight one two
  · intro flight landing found
    rw [landed] at found
    obtain ⟨earlier, none⟩ := flying.down flight landing found
    refine ⟨by omega, fun key held => ?_⟩
    rw [after] at held
    split at held
    · cases held
      omega
    · exact none key held
  · rw [landed]
    exact flying.values

/-- A flight that lands was in the air under one key, and is under none afterwards. -/
theorem Flying.touchDown (flying : w.Flying) {key₀ : String} {flight₀ : Nat} {landing₀ : Landing}
    {source₀ : Option Nat} (inflight : Table.get? w.service.coordinator.inflight key₀ = some flight₀)
    (landed : w'.landed = Function.update w.landed flight₀ (some (landing₀, source₀)))
    (given : ∀ value, landing₀ = .value value → source₀ = some flight₀)
    (books : SameBooks (w.service.coordinator.touchDown key₀ flight₀) w'.service.coordinator) : w'.Flying := by
  have after {key : String} {flight : Nat} (held : Table.get? w'.service.coordinator.inflight key = some flight) :
      key ≠ key₀ ∧ Table.get? w.service.coordinator.inflight key = some flight := by
    rw [books.inflight, Coordinator.get?_touchDown] at held
    split at held
    · cases held
    · next other => exact ⟨fun same => other ⟨same, inflight⟩, held⟩
  have next : w'.service.coordinator.nextFlight = w.service.coordinator.nextFlight := books.nextFlight
  constructor
  · intro key flight found
    rw [next]
    exact flying.numbered key flight (after found).2
  · intro key other flight one two
    exact flying.unique key other flight (after one).2 (after two).2
  · intro flight landing found
    rw [landed] at found
    rw [next]
    by_cases same : flight = flight₀
    · subst same
      refine ⟨flying.numbered _ _ inflight, fun key held => ?_⟩
      exact (after held).1 (flying.unique _ _ _ (after held).2 inflight)
    · rw [Function.update_of_ne same] at found
      obtain ⟨earlier, none⟩ := flying.down flight landing found
      exact ⟨earlier, fun key held => none key (after held).2⟩
  · intro flight value source found
    rw [landed] at found
    by_cases same : flight = flight₀
    · subst same
      rw [Function.update_self] at found
      cases found
      exact given value rfl
    · rw [Function.update_of_ne same] at found
      exact flying.values flight value source found

theorem flying_change (valid : w.Valid) (flying : w.Flying) (change : Change w w') : w'.Flying := by
  cases change with
  | quiet callers history calm books =>
    exact flying.frame history.landed books.inflight books.nextFlight
  | purges purge callers history calm books gone =>
    obtain ⟨-, inflight, nextFlight⟩ := sequence_mark purge w.service.coordinator
    exact flying.frame history.landed (books.inflight.trans inflight) (books.nextFlight.trans nextFlight)
  | follows id call phase source callers idle own stops history calm books =>
    exact flying.frame history.landed books.inflight books.nextFlight
  | leads id call source callers seeking free absent landed origin executions calm books =>
    exact flying.takeOff landed books
  | lands id call flight startedAt old source outcome landing held callers told given landed executions
      others books brings =>
    have leading := valid.leading id _ _ _ ⟨call, old, held, rfl⟩
    refine flying.touchDown leading.inflight landed (fun value same => ?_) books
    subst same
    exact given value told

/-- Nothing of `past` is stored or computed under a key any more. -/
structure Renewed (past : List Nat) (key : String) (w : World) : Prop where
  inflight : ∀ flight, Table.get? w.service.coordinator.inflight key = some flight → flight ∉ past
  stored : ∀ entry flight, Table.get? w.service.memory.entries key = some entry →
    w.origin key = some flight → flight ∉ past

theorem renewed_change (valid : w.Valid) (earlier : ∀ flight ∈ past, flight ∈ w.executions) {key : String}
    (renewed : Renewed past key w) (change : Change w w') : Renewed past key w' := by
  -- Where nothing comes into the cache, what is stored was there before.
  have calmly (history : w'.origin = w.origin) (calm : Calm w.service.host w'.service.host) :
      ∀ entry flight, Table.get? w'.service.memory.entries key = some entry →
        w'.origin key = some flight → flight ∉ past := by
    intro entry flight found own
    obtain ⟨old, held, -⟩ := calm.nothingNew valid.indexed key entry found
    rw [history] at own
    exact renewed.stored old flight held own
  cases change with
  | quiet callers history calm books =>
    exact ⟨by rw [books.inflight]; exact renewed.inflight, calmly history.origin calm⟩
  | purges purge callers history calm books gone =>
    obtain ⟨-, inflight, -⟩ := sequence_mark purge w.service.coordinator
    exact ⟨by rw [books.inflight, inflight]; exact renewed.inflight, calmly history.origin calm⟩
  | follows id call phase source callers idle own stops history calm books =>
    exact ⟨by rw [books.inflight]; exact renewed.inflight, calmly history.origin calm⟩
  | leads id call source callers seeking free absent landed origin executions calm books =>
    refine ⟨fun flight found begun => ?_, calmly origin calm⟩
    rw [books.inflight, Coordinator.get?_takeOff] at found
    split at found
    · -- The execution that begins is a new one.
      cases found
      have := valid.begun _ (earlier _ begun)
      omega
    · exact renewed.inflight flight found begun
  | lands id call flight startedAt old source outcome landing held callers told given landed executions
      others books brings =>
    have leading := valid.leading id _ _ _ ⟨call, old, held, rfl⟩
    obtain ⟨-, -, contents⟩ := contents_after_landing valid leading brings
    refine ⟨fun flight' found => ?_, fun entry flight' found own => ?_⟩
    · rw [books.inflight, Coordinator.get?_touchDown] at found
      split at found
      · cases found
      · exact renewed.inflight flight' found
    · rcases contents key entry found with ⟨rfl, own', -⟩ | ⟨different, kept, held', -⟩
      · -- What is stored is of the flight that was in the air under the key.
        cases own'.symm.trans own
        exact renewed.inflight _ leading.inflight
      · rw [others key different] at own
        exact renewed.stored kept flight' held' own

/-- Where a call may stand that began after an invalidation, where `served` are the executions
that it may have its value from though they had begun before. -/
def Stands (past : List Nat) (served : Nat → Prop) (key : String) (w : World) : Caller → Prop
  | ⟨_, .waiting flight, _⟩ => (flight ∈ past → served flight) ∧
      (Table.get? w.service.coordinator.inflight key = some flight ∨ Renewed past key w ∨
        ∃ landing source, w.landed flight = some (landing, source) ∧ landing ≠ .abandoned)
  | ⟨_, .computing flight _, _⟩ => flight ∉ past
  | ⟨_, .finished (.ok _), source⟩ => ∀ flight, source = some flight → flight ∈ past → served flight
  | ⟨_, .finished (.error _), _⟩ => True
  | _ => False

/-- A call that began after an invalidation is under way, or over. -/
def Tracked (past : List Nat) (served : Nat → Prop) (id : Nat) (key : String) (w : World) : Prop :=
  ∃ caller, w.callers id = some caller ∧ caller.call.key = key ∧ Stands past served key w caller

/-- A flight that is joined stays in the air until it lands, and once it is abandoned nothing
of before is left of its key. -/
theorem joined_change (valid : w.Valid) (flying : w.Flying) (earlier : ∀ flight ∈ past, flight ∈ w.executions)
    (change : Change w w') {key : String} {flight : Nat}
    (joined : Table.get? w.service.coordinator.inflight key = some flight ∨ Renewed past key w ∨
      ∃ landing source, w.landed flight = some (landing, source) ∧ landing ≠ .abandoned) :
    Table.get? w'.service.coordinator.inflight key = some flight ∨ Renewed past key w' ∨
      ∃ landing source, w'.landed flight = some (landing, source) ∧ landing ≠ .abandoned := by
  rcases joined with inflight | renewed | ⟨landing, source, landed, arrived⟩
  · cases change with
    | quiet callers history calm books => exact .inl (books.inflight ▸ inflight)
    | purges purge callers history calm books gone =>
      obtain ⟨-, same, -⟩ := sequence_mark purge w.service.coordinator
      exact .inl ((books.inflight.trans same) ▸ inflight)
    | follows id call phase source callers idle own stops history calm books =>
      exact .inl (books.inflight ▸ inflight)
    | leads id call source callers seeking free absent landed origin executions calm books =>
      left
      have different : key ≠ call.key := by
        rintro rfl
        cases free.symm.trans inflight
      rw [books.inflight, Coordinator.get?_takeOff, if_neg different, inflight]
    | lands id call flight' startedAt old source outcome landing held callers told given landed executions
        others books brings =>
      have leading := valid.leading id _ _ _ ⟨call, old, held, rfl⟩
      by_cases same : key = call.key
      · subst same
        cases leading.inflight.symm.trans inflight
        right
        by_cases left : landing = .abandoned
        · subst left
          -- An abandoned flight stores nothing, and its key had no entry while it was in the air.
          obtain ⟨-, -, contents⟩ := contents_after_landing valid leading brings
          refine .inl ⟨fun other found => ?_, fun entry other found own => ?_⟩
          · rw [books.inflight, Coordinator.get?_touchDown, if_pos ⟨rfl, inflight⟩] at found
            cases found
          · rcases contents _ entry found with ⟨-, -, arrived, -⟩ | ⟨different, -⟩
            · exact absurd rfl arrived
            · exact absurd rfl different
        · exact .inr ⟨landing, source, by rw [landed, Function.update_self], left⟩
      · left
        rw [books.inflight, Coordinator.get?_touchDown, if_neg fun both => same both.1, inflight]
  · exact .inr (.inl (renewed_change valid earlier renewed change))
  · right
    right
    refine ⟨landing, source, ?_, arrived⟩
    cases change with
    | quiet callers history calm books => rw [history.landed, landed]
    | purges purge callers history calm books gone => rw [history.landed, landed]
    | follows id call phase source callers idle own stops history calm books => rw [history.landed, landed]
    | leads id call source callers seeking free absent same origin executions calm books =>
      rw [same, landed]
    | lands id call flight' startedAt old source outcome landing held callers told given landed' executions
        others books brings =>
      have leading := valid.leading id _ _ _ ⟨call, old, held, rfl⟩
      -- A flight lands once.
      have different : flight ≠ flight' := by
        rintro rfl
        exact (flying.down _ _ landed).2 _ leading.inflight
      rw [landed', Function.update_of_ne different, landed]

/-- A call that does not change stands as before. -/
theorem stands_change (valid : w.Valid) (flying : w.Flying)
    (earlier : ∀ flight ∈ past, flight ∈ w.executions) (change : Change w w') {served : Nat → Prop}
    {key : String} {caller : Caller} (stands : Stands past served key w caller) :
    Stands past served key w' caller := by
  obtain ⟨call, phase, source⟩ := caller
  cases phase with
  | waiting flight => exact ⟨stands.1, joined_change valid flying earlier change stands.2⟩
  | computing flight startedAt => exact stands
  | finished outcome => cases outcome <;> exact stands
  | lookup => cases stands
  | discard => cases stands
  | refresh => cases stands
  | storing => cases stands

/-- A call that looks its key up again finds nothing of before. -/
theorem renewed_of_seeking (flying : w.Flying) {served : Nat → Prop} {id : Nat} {call : ReadCall}
    {caller : Caller} (held : w.callers id = some caller) (stands : Stands past served call.key w caller)
    (seeking : w.Seeking id call) : Renewed past call.key w := by
  rcases seeking with fresh | ⟨flight, old, source, waits, abandoned⟩
  · cases fresh.symm.trans held
  · cases waits.symm.trans held
    rcases stands.2 with inflight | renewed | ⟨landing, source', landed, arrived⟩
    · exact absurd inflight ((flying.down _ _ abandoned).2 _)
    · exact renewed
    · cases abandoned.symm.trans landed
      exact absurd rfl arrived

theorem tracked_change (valid : w.Valid) (flying : w.Flying)
    (earlier : ∀ flight ∈ past, flight ∈ w.executions) (change : Change w w') {served : Nat → Prop}
    {id : Nat} {key : String} (tracked : Tracked past served id key w) : Tracked past served id key w' := by
  obtain ⟨⟨call₀, phase₀, source₀⟩, held, rfl, stands⟩ := tracked
  have elsewhere {other : Nat} {caller : Caller} (different : id ≠ other)
      (callers : w'.callers = Function.update w.callers other (some caller)) :
      Tracked past served id call₀.key w' :=
    ⟨_, by rw [callers, Function.update_of_ne different, held], rfl,
      stands_change valid flying earlier change stands⟩
  -- Only a change of the call itself matters: what it does next it does on finding nothing of
  -- before.
  have change' := change
  cases change with
  | quiet callers =>
    exact ⟨_, by rw [callers, held], rfl, stands_change valid flying earlier change' stands⟩
  | purges purge callers =>
    exact ⟨_, by rw [callers, held], rfl, stands_change valid flying earlier change' stands⟩
  | follows other call phase source callers idle own stops history calm books =>
    by_cases same : id = other
    · subst same
      obtain rfl : call₀ = call := own _ held
      refine ⟨⟨call₀, phase, source⟩, by rw [callers, Function.update_self], rfl, ?_⟩
      rcases stops with ⟨flight, rfl, seeking, inflight⟩ | ⟨failure, rfl⟩ | ⟨value, rfl, answered⟩
      · have renewed := renewed_of_seeking flying held stands seeking
        refine ⟨fun begun => absurd begun (renewed.inflight flight inflight), .inl ?_⟩
        rw [books.inflight, inflight]
      · trivial
      · intro flight own begun
        cases answered with
        | cached seeking found decoded =>
          have renewed := renewed_of_seeking flying held stands seeking
          exact absurd begun (renewed.stored _ flight (stored_of_retrieve valid found) own)
        | told waits landed =>
          cases waits.symm.trans held
          cases (flying.values _ _ _ landed).symm.trans own
          exact stands.1 begun
        | ended stopped =>
          cases stopped.symm.trans held
          exact stands flight own begun
    · exact elsewhere same callers
  | leads other call source callers seeking free absent landed origin executions calm books =>
    by_cases same : id = other
    · subst same
      have own : call₀ = call := by
        rcases seeking with fresh | ⟨flight, old, source, waits, -⟩
        · cases fresh.symm.trans held
        · cases waits.symm.trans held
          rfl
      subst own
      refine ⟨⟨call₀, .computing _ _, source⟩, by rw [callers, Function.update_self], rfl, ?_⟩
      intro begun
      have := valid.begun _ (earlier _ begun)
      omega
    · exact elsewhere same callers
  | lands other call flight startedAt old source outcome landing computes callers told given landed
      executions others books brings =>
    by_cases same : id = other
    · subst same
      cases computes.symm.trans held
      refine ⟨⟨call₀, .finished outcome, source⟩, by rw [callers, Function.update_self], rfl, ?_⟩
      cases outcome with
      | error failure => trivial
      | ok value =>
        intro flight' own begun
        cases (given value rfl).symm.trans own
        exact absurd begun stands
    · exact elsewhere same callers

/-- Where a new call stands after its first look-up. -/
theorem tracked_begin (valid : w.Valid) (earlier : ∀ flight ∈ past, flight ∈ w.executions) {id : Nat}
    (fresh : w.callers id = none) (call : ReadCall) :
    Tracked past (fun flight =>
      (∃ source, (w.act (.begin id call)).callers id = some ⟨call, .waiting flight, source⟩) ∨
        ∃ entry, w.retrieve call.key = some entry ∧ w.origin call.key = some flight)
      id call.key (w.act (.begin id call)) := by
  have seeks := @seeks_proceed call w.service valid.faultless valid.indexed true
  -- The call is new, so its first look-up is one run of the coordinator until it stops.
  have acts : w.act (.begin id call) = w.park id call (w.origin call.key)
      (w.service.proceed store call 4 (.lookup (.joining true))) := by
    rw [act, if_neg (by simp [fresh])]
    rfl
  rw [acts]
  generalize w.service.proceed store call 4 (.lookup (.joining true)) = stop at seeks
  refine ⟨⟨call, stop.1, w.origin call.key⟩, Function.update_self _ _ _, rfl, ?_⟩
  cases seeks with
  | hit calm same found decoded => exact fun flight own begun => .inr ⟨_, found, own⟩
  | failed calm same _ _ => trivial
  | missed _ misses =>
    cases misses with
    | joins calm same found =>
      refine ⟨fun begun => .inl ⟨_, Function.update_self _ _ _⟩, .inl ?_⟩
      exact (congrArg (Table.get? · call.key) same.inflight).trans found
    | leads calm same free absent =>
      intro begun
      have := valid.begun _ (earlier _ begun)
      omega

theorem flying_run (valid : w.Valid) (flying : w.Flying) (events : List Event) :
    (w.run events).Flying := by
  have both := @run_keeps (fun w => w.Valid ∧ w.Flying)
    (fun _ event both => ⟨valid_act both.1 event,
      flying_change both.1 both.2 (change_act both.1.toSteady event)⟩) w ⟨valid, flying⟩ events
  exact both.2

theorem executions_act (valid : w.Valid) (event : Event) :
    ∀ flight ∈ w.executions, flight ∈ (w.act event).executions := by
  intro flight begun
  cases change_act valid.toSteady event with
  | quiet callers history => rwa [history.executions]
  | purges purge callers history => rwa [history.executions]
  | follows id call phase source callers idle own stops history => rwa [history.executions]
  | leads id call source callers seeking free absent landed origin executions =>
    rw [executions]
    exact List.mem_cons_of_mem _ begun
  | lands id call flight' startedAt old source outcome landing held callers told given landed executions =>
    rwa [executions]

theorem tracked_run (valid : w.Valid) (flying : w.Flying)
    (earlier : ∀ flight ∈ past, flight ∈ w.executions) {served : Nat → Prop} {id : Nat} {key : String}
    (tracked : Tracked past served id key w) (events : List Event) :
    Tracked past served id key (w.run events) := by
  have all := @run_keeps
    (fun w => w.Valid ∧ w.Flying ∧ (∀ flight ∈ past, flight ∈ w.executions) ∧
      Tracked past served id key w)
    (fun w event ⟨valid, flying, earlier, tracked⟩ =>
      have change := change_act valid.toSteady event
      ⟨valid_act valid event, flying_change valid flying change,
        fun flight begun => executions_act valid event flight (earlier flight begun),
        tracked_change valid flying earlier change tracked⟩)
    w ⟨valid, flying, earlier, tracked⟩ events
  exact all.2.2.2

/-- A call that begins now joins a flight whose execution is one of `past`. -/
def JoinsPast (past : List Nat) (w : World) (id : Nat) (call : ReadCall) (flight : Nat) : Prop :=
  flight ∈ past ∧ ∃ source, (w.act (.begin id call)).callers id = some ⟨call, .waiting flight, source⟩

/-- A call that begins now finds the value of an execution of `past`, under tags that did not
have to go. -/
def FindsPast (past : List Nat) (purge : Purge) (w : World) (key : String) (flight : Nat) : Prop :=
  flight ∈ past ∧ ∃ entry, w.retrieve key = some entry ∧ w.origin key = some flight ∧
    ¬ purge.Covers entry.tags

/-- A call that began after an invalidation gives a value from after it, unless it joined a flight
from before or found an entry that did not have to go. -/
theorem fresh_iff (settings : CoordinatorSettings) (now : Time) (before between after : List Event)
    {event : Event} {purge : Purge} (purges : event.purge? = some purge) {id flight : Nat}
    {call : ReadCall} {value : Value} :
    let w := (initial settings now).run before
    let begun := (w.act event).run between
    let ended := (begun.act (.begin id call)).run after
    begun.callers id = none → ended.outcome? id = some (.ok value) →
    ended.source? id = some flight →
    (flight ∉ w.executions ↔
      ¬ JoinsPast w.executions begun id call flight ∧
        ¬ FindsPast w.executions purge begun call.key flight) := by
  intro w begun ended fresh gives own
  have valid : w.Valid := valid_run (valid_initial settings now) before
  have flying : w.Flying := flying_run (valid_initial settings now) (flying_initial settings now) before
  have valid₂ := valid_act valid event
  have flying₂ := flying_change valid flying (change_act valid.toSteady event)
  have guarded := guarded_run valid₂ (guarded_act valid purges) between
  have valid₃ : begun.Valid := valid_run valid₂ between
  have flying₃ : begun.Flying := flying_run valid₂ flying₂ between
  constructor
  · intro new
    exact ⟨fun joins => new joins.1, fun finds => new finds.1⟩
  · rintro ⟨noJoin, noFind⟩ old
    -- The call is followed from its first look-up to its end: a value of before came by a flight it
    -- joined or by an entry it found.
    obtain ⟨caller, held, -, stands⟩ := tracked_run (valid_act valid₃ (.begin id call))
      (flying_change valid₃ flying₃ (change_act valid₃.toSteady _))
      (fun flight begun => executions_act valid₃ _ flight (guarded.earlier flight begun))
      (tracked_begin valid₃ guarded.earlier fresh call) after
    obtain ⟨call', source, ended⟩ := outcome?_eq_some.1 gives
    cases ended.symm.trans held
    simp only [source?, ended, Option.bind_some] at own
    rcases stands flight own old with waits | ⟨entry, found, own⟩
    · exact noJoin ⟨old, waits⟩
    · refine noFind ⟨old, entry, found, own, ?_⟩
      -- All that had to go was gone by then.
      exact guarded.gone _ entry flight (stored_of_retrieve valid₃ found) own old

/-- The read of another flight was in the air when its tag was invalidated; a call that begins
while nothing of its key is in the air gives a value of its own. -/
theorem fresh_iff_nextFlight :
    let read (key : String) : ReadCall := { key := key, tags := ["t"] }
    let w := (initial {} (Binary64.ofInt 1000)).run [.begin 0 (read "a")]
    let begun := (w.act (.invalidate ["t"] false)).run [.computed 0 (.ok (.int 1))]
    let ended := (begun.act (.begin 1 (read "a"))).run [.computed 1 (.ok (.int 2))]
    (ended.outcome? 1).isSome ∧ ended.source? 1 = some 1 ∧ 1 ∉ w.executions ∧
      ¬ JoinsPast w.executions begun 1 (read "a") 1 := by
  intro read w begun ended
  have own : ended.source? 1 = some 1 := by decide +kernel
  obtain ⟨value, gives⟩ := gives_value (by decide +kernel : (ended.outcome? 1).map Except.isOk = some true)
  have new : 1 ∉ w.executions := by decide +kernel
  obtain ⟨noJoin, -⟩ := (fresh_iff {} (Binary64.ofInt 1000) [.begin 0 (read "a")]
    [.computed 0 (.ok (.int 1))] [.computed 1 (.ok (.int 2))]
    (rfl : (Event.invalidate ["t"] false).purge? = some (.tags ["t"])) (by decide +kernel)
    gives own).1 new
  exact ⟨by simp [gives], own, new, noJoin⟩

/-- A call that begins after the invalidation of its tag returned joins the flight from before,
and is told its value. -/
theorem joined_flight_stale : ¬ ∀ (settings : CoordinatorSettings) (now : Time)
    (before between after : List Event) (tags : List String) (strict : Bool) (id flight : Nat)
    (call : ReadCall) (value : Value),
    let w := (initial settings now).run before
    let begun := (w.act (.invalidate tags strict)).run between
    let ended := (begun.act (.begin id call)).run after
    w.Returns (.invalidate tags strict) → begun.callers id = none → (∃ tag ∈ tags, tag ∈ call.tags) →
    ended.outcome? id = some (.ok value) → ended.source? id = some flight →
    flight ∉ w.executions := by
  intro claim
  let read : ReadCall := { key := "k", tags := ["t"] }
  let w := (initial {} (Binary64.ofInt 1000)).run [.begin 0 read]
  have returns : w.Returns (.invalidate ["t"] false) :=
    returns_of_purge (valid_run (valid_initial {} (Binary64.ofInt 1000)) [.begin 0 read]) rfl
  -- The second call begins while the flight of the first is in the air.
  have told : ∃ value, (((w.act (.invalidate ["t"] false)).act (.begin 1 read)).run
      [.computed 0 (.ok (.int 1)), .hear 1]).outcome? 1 = some (.ok value) :=
    gives_value (by decide +kernel)
  obtain ⟨value, gives⟩ := told
  have new := claim {} (Binary64.ofInt 1000) [.begin 0 read] []
    [.computed 0 (.ok (.int 1)), .hear 1] ["t"] false 1 0 read value returns (by decide +kernel)
    ⟨"t", by simp, by simp [read]⟩ gives (by decide +kernel)
  exact new (by decide +kernel)

end World

end QueryCache
