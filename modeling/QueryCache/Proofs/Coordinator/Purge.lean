import QueryCache.Proofs.Coordinator.Flights

/-! An invalidation that returned is for good.

From then on no entry that had to go is in the cache with the value of an execution that had
begun by then: what was stored is gone, and what is still computed will be found out of date
when it is to be stored. -/

set_option autoImplicit false

namespace QueryCache

open Service

/-- Only the set of the tags counts. -/
theorem Purge.covers_congr {purge : Purge} {tags other : List String}
    (same : ∀ tag, tag ∈ tags ↔ tag ∈ other) : purge.Covers tags ↔ purge.Covers other := by
  cases purge with
  | tags purged => simp only [Covers, same]
  | everything => exact Iff.rfl

/-- What an event invalidates. -/
def Event.purge? : Event → Option Purge
  | .invalidate tags _ => some (.tags tags)
  | .clear => some .everything
  | _ => none

namespace World

variable {w w' : World} {purge : Purge} {past : List Nat}

/-- Whether an invalidation that happens now returns without a failure. -/
def Returns (w : World) : Event → Prop
  | .invalidate tags strict => (w.service.invalidate store tags strict).1 = .ok true
  | .clear => (w.service.clear store).1 = .ok ()
  | _ => False

/-- The world after an invalidation, where `past` are the executions that had begun by then. -/
structure Guarded (purge : Purge) (past : List Nat) (w : World) : Prop where
  earlier : ∀ flight ∈ past, flight ∈ w.executions
  outdated : ∀ id key flight startedAt, w.Computing id key flight startedAt → flight ∈ past →
    ∀ tags, purge.Covers tags → w.service.coordinator.staleSince startedAt tags = true
  gone : ∀ key entry flight, Table.get? w.service.memory.entries key = some entry →
    w.origin key = some flight → flight ∈ past → ¬ purge.Covers entry.tags

/-- An invalidation finds every flight in the air, and leaves no entry that it covers. -/
theorem guarded_of_purge (valid : w.Valid) (callers : w'.callers = w.callers)
    (executions : w'.executions = w.executions)
    (books : SameBooks (purge.mark w.service.coordinator) w'.service.coordinator)
    (gone : ∀ key entry, Table.get? w'.service.memory.entries key = some entry →
      ¬ purge.Covers entry.tags) : Guarded purge w.executions w' := by
  refine ⟨by simp [executions], ?_, fun key entry _ found _ _ => gone key entry found⟩
  intro id key flight startedAt computing begun tags covers
  have leading := valid.leading _ _ _ _ ((computing_of_callers callers).1 computing)
  have busy : w.service.coordinator.inflight ≠ [] := by
    intro empty
    have inflight := leading.inflight
    rw [empty] at inflight
    cases inflight
  rw [books.staleSince]
  exact Coordinator.staleSince_mark_of_covers leading.known busy covers

/-- What is guarded stays so while the same calls compute. -/
theorem Guarded.frame (guarded : Guarded purge past w) (valid : w.Valid)
    (same : ∀ id key flight startedAt,
      w'.Computing id key flight startedAt → w.Computing id key flight startedAt)
    (history : SameHistory w w') (calm : Calm w.service.host w'.service.host)
    (stale : ∀ startedAt tags, startedAt ≤ w.service.coordinator.sequence →
      w.service.coordinator.staleSince startedAt tags = true →
      w'.service.coordinator.staleSince startedAt tags = true) : Guarded purge past w' := by
  refine ⟨by rw [history.executions]; exact guarded.earlier, ?_, ?_⟩
  · intro id key flight startedAt computing begun tags covers
    have before := same _ _ _ _ computing
    exact stale _ _ (valid.leading _ _ _ _ before).known
      (guarded.outdated _ _ _ _ before begun tags covers)
  · intro key entry flight found own begun
    obtain ⟨old, held, -, tags, -⟩ := calm.nothingNew valid.indexed key entry found
    rw [history.origin] at own
    rw [← tags]
    exact guarded.gone key old flight held own begun

theorem guarded_change (valid : w.Valid) (guarded : Guarded purge past w) (change : Change w w') :
    Guarded purge past w' := by
  cases change with
  | quiet callers history calm books =>
    refine guarded.frame valid (fun _ _ _ _ => (computing_of_callers callers).1) history calm ?_
    intro startedAt tags _ stale
    rwa [books.staleSince]
  | purges other callers history calm books gone =>
    refine guarded.frame valid (fun _ _ _ _ => (computing_of_callers callers).1) history calm ?_
    intro startedAt tags known stale
    rw [books.staleSince]
    exact Coordinator.staleSince_mark other known stale
  | follows id call phase source callers idle own stops history calm books =>
    refine guarded.frame valid (fun other key flight startedAt computing => ?_) history calm ?_
    · by_cases same : other = id
      · subst same
        obtain ⟨phase', -⟩ := (computing_update_self callers).1 computing
        rcases stops with ⟨flight, rfl, -⟩ | ⟨failure, rfl⟩ | ⟨value, rfl, -⟩ <;> cases phase'
      · exact (computing_update_of_ne callers same).1 computing
    · intro startedAt tags _ stale
      rwa [books.staleSince]
  | leads id call source callers seeking free absent landed origin executions calm books =>
    refine ⟨fun flight begun => ?_, ?_, ?_⟩
    · rw [executions]
      exact List.mem_cons_of_mem _ (guarded.earlier flight begun)
    · intro other key flight startedAt computing begun tags covers
      rcases computing_after_lead valid callers rfl free computing with
        ⟨-, -, rfl, -⟩ | ⟨-, -, earlier⟩
      · -- The new flight has a number that no execution had.
        have := valid.begun _ (guarded.earlier _ begun)
        omega
      · rw [books.staleSince, Coordinator.staleSince_takeOff]
        exact guarded.outdated _ _ _ _ earlier begun tags covers
    · intro key entry flight found own begun
      obtain ⟨old, held, -, tags, -⟩ := calm.nothingNew valid.indexed key entry found
      rw [origin] at own
      rw [← tags]
      exact guarded.gone key old flight held own begun
  | lands id call flight startedAt old source outcome landing held callers told given landed executions
      others books brings =>
    have own₀ : w.Computing id call.key flight startedAt := ⟨call, old, held, rfl⟩
    obtain ⟨-, -, contents⟩ := contents_after_landing valid (valid.leading _ _ _ _ own₀) brings
    refine ⟨by rw [executions]; exact guarded.earlier, ?_, ?_⟩
    · intro other key flight' startedAt' computing begun tags covers
      obtain ⟨-, different, earlier⟩ := computing_after_landing valid held callers computing
      have inflight := (valid.leading _ _ _ _ earlier).inflight
      -- Another flight is still in the air, so the marks of tags are still there.
      have busy : Table.get? (w.service.coordinator.touchDown call.key flight).inflight key ≠ none := by
        rw [Coordinator.get?_touchDown, if_neg fun both => different both.1, inflight]
        exact Option.some_ne_none _
      rw [books.staleSince, Coordinator.staleSince_touchDown busy]
      exact guarded.outdated _ _ _ _ earlier begun tags covers
    · intro key entry flight' found own begun
      rcases contents key entry found with ⟨rfl, own', -, tags, listed, fresh⟩ | ⟨different, old, kept, -, tags, -⟩
      · cases own'.symm.trans own
        intro covers
        have stale := guarded.outdated _ _ _ _ own₀ begun tags ((Purge.covers_congr listed).1 covers)
        cases fresh.symm.trans stale
      · rw [others key different] at own
        rw [← tags]
        exact guarded.gone key old flight' kept own begun

theorem guarded_act (valid : w.Valid) {event : Event} (purges : event.purge? = some purge) :
    Guarded purge w.executions (w.act event) := by
  cases event with
  | invalidate tags strict =>
    cases purges
    obtain ⟨s', stop, calm, books, gone⟩ := invalidate_takes valid.faultless tags strict
    have service : (w.act (.invalidate tags strict)).service = s' := by
      rw [act]
      exact congrArg Prod.snd stop
    rcases books with books | ⟨rfl, books⟩
    · have guarded : Guarded (.tags (tagSet tags)) w.executions (w.act (.invalidate tags strict)) := by
        refine guarded_of_purge valid rfl rfl (service ▸ books) ?_
        rw [service]
        rintro key entry found ⟨tag, member, inside⟩
        exact gone valid.indexed key entry found tag (mem_tagSet.1 member) inside
      have covers (own : List String) : (Purge.tags tags).Covers own ↔ (Purge.tags (tagSet tags)).Covers own := by
        simp [Purge.Covers]
      exact ⟨guarded.earlier, fun id key flight startedAt computing begun own covered =>
          guarded.outdated id key flight startedAt computing begun own ((covers own).1 covered),
        fun key entry flight found own begun covered =>
          guarded.gone key entry flight found own begun ((covers _).1 covered)⟩
    · exact ⟨fun _ begun => begun, by simp [Purge.Covers], by simp [Purge.Covers]⟩
  | clear =>
    cases purges
    obtain ⟨s', stop, calm, books, gone⟩ := clear_takes valid.faultless
    have service : (w.act .clear).service = s' := by
      rw [act]
      exact congrArg Prod.snd stop
    refine guarded_of_purge valid rfl rfl (service ▸ books) ?_
    rw [service]
    intro key entry found
    cases (gone key).symm.trans found
  | _ => cases purges

theorem valid_act (valid : w.Valid) (event : Event) : (w.act event).Valid :=
  valid_change valid (change_act valid.toSteady event)

theorem valid_run (valid : w.Valid) (events : List Event) : (w.run events).Valid :=
  @run_keeps Valid (fun _ event valid => valid_act valid event) w valid events

/-- What an invalidation guards stays guarded, whatever happens. -/
theorem guarded_run (valid : w.Valid) (guarded : Guarded purge past w) (events : List Event) :
    Guarded purge past (w.run events) := by
  have both := @run_keeps (fun w => w.Valid ∧ Guarded purge past w)
    (fun _ event both =>
      ⟨valid_act both.1 event, guarded_change both.1 both.2 (change_act both.1.toSteady event)⟩)
    w ⟨valid, guarded⟩ events
  exact both.2

theorem stored_of_retrieve (valid : w.Valid) {key : String} {entry : CacheEntry}
    (found : w.retrieve key = some entry) : Table.get? w.service.memory.entries key = some entry :=
  (MemoryCache.get_keeps valid.indexed w.service.host.now key).2.2.2 entry found

theorem returns_of_purge (valid : w.Valid) {event : Event} (purges : event.purge? = some purge) :
    w.Returns event := by
  cases event with
  | invalidate tags strict =>
    obtain ⟨s', stop, -⟩ := invalidate_takes valid.faultless tags strict
    exact congrArg Prod.fst stop
  | clear =>
    obtain ⟨s', stop, -⟩ := clear_takes valid.faultless
    exact congrArg Prod.fst stop
  | _ => cases purges

/-- An invalidation returns, and whatever happens from then on, each entry that can be retrieved
has the value of some execution, and of one that had begun before the invalidation only if the
entry did not have to go. -/
theorem purged_for_good (settings : CoordinatorSettings) (now : Time) (before after : List Event)
    {event : Event} {purge : Purge} (purges : event.purge? = some purge) :
    let w := (initial settings now).run before
    w.Returns event ∧ ∀ key entry, ((w.act event).run after).retrieve key = some entry →
      ∃ flight, ((w.act event).run after).origin key = some flight ∧
        (flight ∈ w.executions → ¬ purge.Covers entry.tags) := by
  intro w
  have valid : w.Valid := valid_run (valid_initial settings now) before
  have guarded := guarded_run (valid_act valid event) (guarded_act valid purges) after
  have valid' := valid_run (valid_act valid event) after
  refine ⟨returns_of_purge valid purges, fun key entry found => ?_⟩
  have stored := stored_of_retrieve valid' found
  obtain ⟨flight, -, own⟩ := valid'.origins key entry stored
  exact ⟨flight, own, guarded.gone key entry flight stored own⟩

/-- Two reads are computing when their common tag is invalidated. Neither value is kept, and the
next read of one key stores its own. -/
theorem purged_for_good_twoFlights : ∃ w last : World,
    w = (initial {} (Binary64.ofInt 1000)).run
      [.begin 0 { key := "a", tags := ["t"] }, .begin 1 { key := "b", tags := ["t"] }] ∧
    last = (w.act (.invalidate ["t"] false)).run [.computed 1 (.ok (.int 1)), .cancel 0,
      .begin 2 { key := "a", tags := ["t"] }, .computed 2 (.ok (.int 2))] ∧
    last.retrieve "b" = none ∧ ∃ entry, last.retrieve "a" = some entry ∧ entry.tags = ["t"] ∧
      ∃ flight, last.origin "a" = some flight ∧ flight ∉ w.executions := by
  obtain ⟨-, sound⟩ := purged_for_good {} (Binary64.ofInt 1000)
    [.begin 0 { key := "a", tags := ["t"] }, .begin 1 { key := "b", tags := ["t"] }]
    [.computed 1 (.ok (.int 1)), .cancel 0, .begin 2 { key := "a", tags := ["t"] },
      .computed 2 (.ok (.int 2))]
    (rfl : (Event.invalidate ["t"] false).purge? = some (.tags ["t"]))
  refine ⟨_, _, rfl, rfl, by decide +kernel, ?_⟩
  suffices kept : Option.map (·.tags) (World.retrieve _ "a") = some ["t"] by
    obtain ⟨entry, found, tags⟩ := Option.map_eq_some_iff.1 kept
    obtain ⟨flight, own, fresh⟩ := sound "a" entry found
    refine ⟨entry, found, tags, flight, own, fun begun => fresh begun ?_⟩
    exact ⟨"t", by simp, by simp [tags]⟩
  decide +kernel

end World

end QueryCache
