import QueryCache.Proofs.Coordinator.Change

/-! The flights of every reachable world.

A call that computes has the only flight of its key, which no entry of the cache belongs to, and
an entry of the cache comes from an execution that has begun. -/

set_option autoImplicit false

namespace QueryCache

open Service

namespace Coordinator

theorem get?_takeOff (c : Coordinator) (key other : String) :
    Table.get? (c.takeOff key).inflight other =
      if other = key then some c.nextFlight else Table.get? c.inflight other :=
  Table.get?_put c.inflight key other c.nextFlight

theorem get?_touchDown (c : Coordinator) (key other : String) (flight : Nat) :
    Table.get? (c.touchDown key flight).inflight other =
      if other = key ∧ Table.get? c.inflight key = some flight then none
      else Table.get? c.inflight other := by
  unfold touchDown
  by_cases own : Table.get? c.inflight key = some flight
  · simp only [own, if_true, and_true]
    exact Table.get?_erase c.inflight key other
  · simp only [own, if_false, and_false]

theorem get?_foldl_put (tags : List String) (marks : Table Nat) (number : Nat) (tag : String) :
    Table.get? (tags.foldl (fun marks tag => Table.put marks tag number) marks) tag =
      if tag ∈ tags then some number else Table.get? marks tag := by
  induction tags generalizing marks with
  | nil => simp
  | cons first rest ih =>
    rw [List.foldl_cons, ih, Table.get?_put]
    -- The last mark of a tag counts, so what comes later in the list decides.
    by_cases later : tag ∈ rest
    · simp [later]
    · by_cases same : tag = first
      · simp [same]
      · simp [later, same]

/-- Tags are out of date when one of them was invalidated later, or everything was. -/
theorem staleSince_iff {c : Coordinator} {startedAt : Nat} {tags : List String} :
    c.staleSince startedAt tags = true ↔ startedAt < c.clearedAt ∨
      ∃ tag ∈ tags, startedAt < (Table.get? c.invalidatedAt tag).getD 0 := by
  simp [staleSince]

/-- What was out of date stays so when more is invalidated. -/
theorem staleSince_mark {c : Coordinator} {startedAt : Nat} {tags : List String} (purge : Purge)
    (known : startedAt ≤ c.sequence) (stale : c.staleSince startedAt tags = true) :
    (purge.mark c).staleSince startedAt tags = true := by
  rw [staleSince_iff] at stale ⊢
  cases purge with
  | everything =>
    left
    change startedAt < c.sequence + 1
    omega
  | tags purged =>
    rcases stale with cleared | ⟨tag, member, later⟩
    · exact .inl cleared
    · right
      refine ⟨tag, member, ?_⟩
      change startedAt < (Table.get? (if c.inflight.isEmpty then c.invalidatedAt else _) tag).getD 0
      split
      · exact later
      · rw [get?_foldl_put]
        split
        · change startedAt < c.sequence + 1
          omega
        · exact later

/-- What is invalidated while a flight is in the air is out of date for it. -/
theorem staleSince_mark_of_covers {c : Coordinator} {startedAt : Nat} {tags : List String} {purge : Purge}
    (known : startedAt ≤ c.sequence) (busy : c.inflight ≠ []) (covers : purge.Covers tags) :
    (purge.mark c).staleSince startedAt tags = true := by
  rw [staleSince_iff]
  cases purge with
  | everything =>
    left
    change startedAt < c.sequence + 1
    omega
  | tags purged =>
    obtain ⟨tag, member, inside⟩ := covers
    right
    refine ⟨tag, inside, ?_⟩
    change startedAt < (Table.get? (if c.inflight.isEmpty then c.invalidatedAt else _) tag).getD 0
    -- No mark is made while no flight is in the air, which is why one has to be here.
    rw [if_neg (by simpa using busy), get?_foldl_put, if_pos member]
    change startedAt < c.sequence + 1
    omega

theorem staleSince_takeOff (c : Coordinator) (key : String) (startedAt : Nat) (tags : List String) :
    (c.takeOff key).staleSince startedAt tags = c.staleSince startedAt tags := rfl

/-- The marks stay as long as any flight is in the air. -/
theorem staleSince_touchDown {c : Coordinator} {key other : String} {flight : Nat}
    (busy : Table.get? (c.touchDown key flight).inflight other ≠ none) (startedAt : Nat)
    (tags : List String) :
    (c.touchDown key flight).staleSince startedAt tags = c.staleSince startedAt tags := by
  have kept : (c.touchDown key flight).invalidatedAt = c.invalidatedAt := by
    have some : (c.touchDown key flight).inflight ≠ [] := by
      intro empty
      rw [empty] at busy
      exact busy rfl
    -- The marks are dropped only with the last flight.
    exact if_neg (by simpa [touchDown] using some)
  rw [staleSince, staleSince, kept]
  rfl

end Coordinator

namespace World

variable {w w' : World}

/-- A call computes a key in a flight that began under some number. -/
def Computing (w : World) (id : Nat) (key : String) (flight startedAt : Nat) : Prop :=
  ∃ call source, w.callers id = some ⟨call, .computing flight startedAt, source⟩ ∧ call.key = key

/-- The leader of a flight. -/
structure Leading (w : World) (key : String) (flight startedAt : Nat) : Prop where
  inflight : Table.get? w.service.coordinator.inflight key = some flight
  known : startedAt ≤ w.service.coordinator.sequence
  begun : flight ∈ w.executions
  absent : Table.get? w.service.memory.entries key = none

structure Valid (w : World) : Prop extends Steady w where
  leading : ∀ id key flight startedAt, w.Computing id key flight startedAt →
    w.Leading key flight startedAt
  alone : ∀ id other key flight flight' startedAt startedAt', w.Computing id key flight startedAt →
    w.Computing other key flight' startedAt' → id = other
  begun : ∀ flight ∈ w.executions, flight < w.service.coordinator.nextFlight
  origins : ∀ key entry, Table.get? w.service.memory.entries key = some entry →
    ∃ flight ∈ w.executions, w.origin key = some flight

theorem valid_initial (settings : CoordinatorSettings) (now : Time) :
    (initial settings now).Valid := by
  refine ⟨⟨rfl, ?_, ?_⟩, ?_, ?_, ?_, ?_⟩
  · intro key entry found
    cases found
  · intro id caller held
    cases held
  · rintro id key flight startedAt ⟨call, source, held, -⟩
    cases held
  · rintro id other key flight flight' startedAt startedAt' ⟨call, source, held, -⟩
    cases held
  · nofun
  · nofun

/-! ## Who computes after a change -/

theorem computing_of_callers (same : w'.callers = w.callers) {id : Nat} {key : String}
    {flight startedAt : Nat} : w'.Computing id key flight startedAt ↔ w.Computing id key flight startedAt := by
  rw [Computing, Computing, same]

/-- The call that changed aside, the same calls compute. -/
theorem computing_update_of_ne {id other : Nat} {caller : Caller}
    (changed : w'.callers = Function.update w.callers id (some caller)) (different : other ≠ id)
    {key : String} {flight startedAt : Nat} :
    w'.Computing other key flight startedAt ↔ w.Computing other key flight startedAt := by
  rw [Computing, Computing, changed, Function.update_of_ne different]

theorem computing_update_self {id : Nat} {caller : Caller}
    (changed : w'.callers = Function.update w.callers id (some caller)) {key : String}
    {flight startedAt : Nat} : w'.Computing id key flight startedAt ↔
      caller.phase = .computing flight startedAt ∧ caller.call.key = key := by
  rw [Computing, changed, Function.update_self]
  constructor
  · rintro ⟨call, source, same, place⟩
    cases same
    exact ⟨rfl, place⟩
  · rintro ⟨phase, place⟩
    exact ⟨caller.call, caller.source, by rw [← phase], place⟩

/-! ## Validity is kept -/

/-- A leader keeps its lead while nothing comes into the cache under its key and its flight
stays in the air. -/
theorem Leading.keep {key : String} {flight startedAt : Nat} (leading : w.Leading key flight startedAt)
    (inflight : Table.get? w'.service.coordinator.inflight key =
      Table.get? w.service.coordinator.inflight key)
    (sequence : w.service.coordinator.sequence ≤ w'.service.coordinator.sequence)
    (executions : ∀ flight ∈ w.executions, flight ∈ w'.executions)
    (absent : Table.get? w'.service.memory.entries key = none) : w'.Leading key flight startedAt :=
  ⟨inflight.trans leading.inflight, Nat.le_trans leading.known sequence, executions flight leading.begun, absent⟩

theorem origins_keep (valid : w.Valid) (history : SameHistory w w')
    (calm : Calm w.service.host w'.service.host) :
    ∀ key entry, Table.get? w'.service.memory.entries key = some entry →
      ∃ flight ∈ w'.executions, w'.origin key = some flight := by
  intro key entry found
  obtain ⟨old, held, -⟩ := calm.nothingNew valid.indexed key entry found
  rw [history.origin, history.executions]
  exact valid.origins key old held

theorem sequence_mark (purge : Purge) (c : Coordinator) :
    (purge.mark c).sequence = c.sequence + 1 ∧ (purge.mark c).inflight = c.inflight ∧
      (purge.mark c).nextFlight = c.nextFlight := by
  cases purge <;> exact ⟨rfl, rfl, rfl⟩

/-- Validity is kept while the same calls compute. -/
theorem Valid.frame (valid : w.Valid)
    (rests : ∀ id caller, w'.callers id = some caller → Rests caller.phase)
    (same : ∀ id key flight startedAt,
      w'.Computing id key flight startedAt ↔ w.Computing id key flight startedAt)
    (history : SameHistory w w') (calm : Calm w.service.host w'.service.host)
    (inflight : w'.service.coordinator.inflight = w.service.coordinator.inflight)
    (nextFlight : w'.service.coordinator.nextFlight = w.service.coordinator.nextFlight)
    (sequence : w.service.coordinator.sequence ≤ w'.service.coordinator.sequence) : w'.Valid := by
  refine ⟨⟨calm.faults.trans valid.faultless, calm.indexed valid.indexed, rests⟩, ?_, ?_, ?_,
    origins_keep valid history calm⟩
  · intro id key flight startedAt computing
    have leading := valid.leading id key flight startedAt ((same _ _ _ _).1 computing)
    exact leading.keep (by rw [inflight]) sequence (by simp [history.executions])
      (calm.absent valid.indexed leading.absent)
  · intro id other key flight flight' startedAt startedAt' first last
    exact valid.alone id other key flight flight' startedAt startedAt' ((same _ _ _ _).1 first)
      ((same _ _ _ _).1 last)
  · rw [history.executions, nextFlight]
    exact valid.begun

/-- Who computes once a call leads a new flight: the others have other keys. -/
theorem computing_after_lead (valid : w.Valid) {id : Nat} {caller : Caller} {begun number : Nat}
    (callers : w'.callers = Function.update w.callers id (some caller))
    (phase : caller.phase = .computing begun number)
    (free : Table.get? w.service.coordinator.inflight caller.call.key = none) {other : Nat} {key : String}
    {flight startedAt : Nat} (computing : w'.Computing other key flight startedAt) :
    other = id ∧ key = caller.call.key ∧ flight = begun ∧ startedAt = number ∨
      other ≠ id ∧ key ≠ caller.call.key ∧ w.Computing other key flight startedAt := by
  by_cases same : other = id
  · subst same
    obtain ⟨phase', place⟩ := (computing_update_self callers).1 computing
    rw [phase] at phase'
    cases phase'
    exact .inl ⟨rfl, place.symm, rfl, rfl⟩
  · have earlier := (computing_update_of_ne callers same).1 computing
    refine .inr ⟨same, ?_, earlier⟩
    rintro rfl
    -- Another that computes the key would have a flight of it in the air.
    cases free.symm.trans (valid.leading _ _ _ _ earlier).inflight

/-- Who computes once a flight has landed: the others, and they have other keys. -/
theorem computing_after_landing (valid : w.Valid) {id flight₀ startedAt₀ : Nat} {call : ReadCall}
    {old source : Option Nat} {outcome : Except Failure Value}
    (held : w.callers id = some ⟨call, .computing flight₀ startedAt₀, old⟩)
    (callers : w'.callers = Function.update w.callers id (some ⟨call, .finished outcome, source⟩))
    {other : Nat} {key : String} {flight startedAt : Nat}
    (computing : w'.Computing other key flight startedAt) :
    other ≠ id ∧ key ≠ call.key ∧ w.Computing other key flight startedAt := by
  have different : other ≠ id := by
    rintro rfl
    cases ((computing_update_self callers).1 computing).1
  have earlier := (computing_update_of_ne callers different).1 computing
  refine ⟨different, ?_, earlier⟩
  rintro rfl
  -- Another that computes the key would be the one that landed.
  exact different (valid.alone _ _ _ _ _ _ _ earlier ⟨call, old, held, rfl⟩)

/-- After a landing an entry is the one that was stored, or was there under another key. -/
theorem contents_after_landing (valid : w.Valid) {call : ReadCall} {flight startedAt : Nat}
    {landing : Landing} (leading : w.Leading call.key flight startedAt)
    (stored : Brings w w' call flight startedAt landing) :
    w'.service.host.faults = w.service.host.faults ∧ w'.service.memory.Indexed ∧
      ∀ key entry, Table.get? w'.service.memory.entries key = some entry →
        (key = call.key ∧ w'.origin call.key = some flight ∧ landing ≠ .abandoned ∧
          ∃ tags, (∀ tag, tag ∈ entry.tags ↔ tag ∈ tags) ∧
            w.service.coordinator.staleSince startedAt tags = false) ∨
        key ≠ call.key ∧ ∃ old, Table.get? w.service.memory.entries key = some old ∧
          old.key = entry.key ∧ old.tags = entry.tags ∧ old.payload = entry.payload := by
  have elsewhere {key : String} {old : CacheEntry}
      (kept : Table.get? w.service.memory.entries key = some old) : key ≠ call.key := by
    rintro rfl
    cases leading.absent.symm.trans kept
  -- The leader found no entry of its key, so what was there before has another key.
  rcases stored with calm | ⟨entry, tags, stored, place, listed, fresh, own, arrived⟩
  · refine ⟨calm.faults, calm.indexed valid.indexed, fun key found held => .inr ?_⟩
    obtain ⟨old, kept, same⟩ := calm.nothingNew valid.indexed key found held
    exact ⟨elsewhere kept, old, kept, same⟩
  · have free : Table.get? w.service.memory.entries entry.key = none := place ▸ leading.absent
    refine ⟨stored.faults, stored.indexed valid.indexed free, fun key found held => ?_⟩
    rcases stored.contents valid.indexed free key found held with ⟨rfl, rfl⟩ | ⟨old, kept, same⟩
    · exact .inl ⟨place, own, arrived, tags, listed, fresh⟩
    · exact .inr ⟨elsewhere kept, old, kept, same⟩

theorem rests_update {id : Nat} {caller : Caller} (valid : w.Valid)
    (changed : w'.callers = Function.update w.callers id (some caller)) (rests : Rests caller.phase) :
    ∀ id caller, w'.callers id = some caller → Rests caller.phase := by
  intro other found held
  rw [changed] at held
  by_cases same : other = id
  · subst same
    rw [Function.update_self] at held
    cases held
    exact rests
  · rw [Function.update_of_ne same] at held
    exact valid.rests other found held

theorem valid_change (valid : w.Valid) (change : Change w w') : w'.Valid := by
  cases change with
  | quiet callers history calm books =>
    refine valid.frame (callers ▸ valid.rests) (fun _ _ _ _ => computing_of_callers callers) history
      calm books.inflight books.nextFlight (Nat.le_of_eq books.sequence.symm)
  | purges purge callers history calm books gone =>
    obtain ⟨sequence, inflight, nextFlight⟩ := sequence_mark purge w.service.coordinator
    refine valid.frame (callers ▸ valid.rests) (fun _ _ _ _ => computing_of_callers callers) history
      calm (books.inflight.trans inflight) (books.nextFlight.trans nextFlight) ?_
    rw [books.sequence, sequence]
    omega
  | follows id call phase source callers idle own stops history calm books =>
    have stopped : Rests phase ∧ ∀ flight startedAt, phase ≠ .computing flight startedAt := by
      rcases stops with ⟨flight, rfl, -⟩ | ⟨failure, rfl⟩ | ⟨value, rfl, -⟩ <;>
        exact ⟨trivial, nofun⟩
    refine valid.frame (rests_update valid callers stopped.1) (fun other key flight startedAt => ?_)
      history calm books.inflight books.nextFlight (Nat.le_of_eq books.sequence.symm)
    by_cases same : other = id
    · subst same
      constructor
      · intro computing
        exact absurd ((computing_update_self callers).1 computing).1 (stopped.2 _ _)
      · rintro ⟨call, source, held, -⟩
        exact absurd held (idle _ _ _ _)
    · exact computing_update_of_ne callers same
  | leads id call source callers seeking free absent landed origin executions calm books =>
    -- The new flight has a key of which none was in the air, and a number that none had.
    have after := @computing_after_lead w w' valid id _ _ _ callers rfl free
    refine ⟨⟨calm.faults.trans valid.faultless, calm.indexed valid.indexed,
      rests_update valid callers trivial⟩, ?_, ?_, ?_, ?_⟩
    · intro other key flight startedAt computing
      rcases after computing with ⟨rfl, rfl, rfl, rfl⟩ | ⟨-, different, earlier⟩
      · refine ⟨?_, Nat.le_of_eq books.sequence.symm, by simp [executions], absent⟩
        rw [books.inflight, Coordinator.get?_takeOff, if_pos rfl]
      · have leading := valid.leading other key flight startedAt earlier
        refine leading.keep ?_ (Nat.le_of_eq books.sequence.symm) (by simp +contextual [executions])
          (calm.absent valid.indexed leading.absent)
        rw [books.inflight, Coordinator.get?_takeOff, if_neg different]
    · intro first last key flight flight' startedAt startedAt' one two
      rcases after one with ⟨rfl, place, -, -⟩ | ⟨-, apart, one⟩
      · rcases after two with ⟨rfl, -, -, -⟩ | ⟨-, apart, -⟩
        · rfl
        · exact absurd place apart
      · rcases after two with ⟨rfl, place, -, -⟩ | ⟨-, -, two⟩
        · exact absurd place apart
        · exact valid.alone _ _ _ _ _ _ _ one two
    · intro flight begun
      rw [books.nextFlight]
      change flight < w.service.coordinator.nextFlight + 1
      rw [executions, List.mem_cons] at begun
      rcases begun with rfl | begun
      · omega
      · have := valid.begun flight begun
        omega
    · intro key entry found
      obtain ⟨old, held, -⟩ := calm.nothingNew valid.indexed key entry found
      obtain ⟨flight, begun, own⟩ := valid.origins key old held
      rw [origin, executions]
      exact ⟨flight, List.mem_cons_of_mem _ begun, own⟩
  | lands id call flight startedAt old source outcome landing held callers told given landed executions
      others books stored =>
    -- The one entry that may come in has the key of the flight that lands, which no other call
    -- computes.
    have after := @computing_after_landing w w' valid id _ _ _ _ _ _ held callers
    have leading₀ := valid.leading id _ _ _ ⟨call, old, held, rfl⟩
    obtain ⟨faults, indexed, contents⟩ := contents_after_landing valid leading₀ stored
    refine ⟨⟨faults.trans valid.faultless, indexed, rests_update valid callers trivial⟩, ?_, ?_, ?_, ?_⟩
    · intro other key flight startedAt computing
      obtain ⟨-, different, earlier⟩ := after computing
      have leading := valid.leading other key flight startedAt earlier
      refine leading.keep ?_ (Nat.le_of_eq books.sequence.symm) (by simp [executions]) ?_
      · rw [books.inflight, Coordinator.get?_touchDown, if_neg fun both => different both.1]
      · by_contra some
        obtain ⟨entry, found⟩ := Option.ne_none_iff_exists'.1 some
        rcases contents key entry found with ⟨same, -⟩ | ⟨-, old, kept, -⟩
        · exact different same
        · cases leading.absent.symm.trans kept
    · intro first last key flight flight' startedAt startedAt' one two
      exact valid.alone _ _ _ _ _ _ _ (after one).2.2 (after two).2.2
    · rw [executions, books.nextFlight]
      exact valid.begun
    · intro key entry found
      rw [executions]
      rcases contents key entry found with ⟨rfl, own, -⟩ | ⟨different, old, kept, -⟩
      · exact ⟨flight, leading₀.begun, own⟩
      · rw [others key different]
        exact valid.origins key old kept

end World

end QueryCache
