import QueryCache.Proofs.Coordinator.Remote
import QueryCache.Proofs.Coordinator.SingleFlight

/-! Entries that an invalidation overtakes.

What is computed while its tags are invalidated is out of date when it would be stored, and the
server drops what it already holds. Between the two is an entry that was sent before the
invalidation and arrives after it: nothing looks for it again. -/

set_option autoImplicit false

namespace QueryCache

namespace Traffic

variable {t t' : Traffic} {event : Event}

/-- Of each invalidation it is known what is out of date since. -/
structure Marked (t : Traffic) : Prop where
  orderly : t.Orderly
  started : ∀ id who flight startedAt, t.travellers id = some who →
    who.phase.lead? = some (flight, startedAt) → startedAt ≤ t.coordinator.sequence
  begun : ∀ flight ∈ t.executions, flight < t.coordinator.nextFlight
  /-- A leader whose execution has begun computes, or stores what it computed. -/
  computes : ∀ id who flight startedAt, t.travellers id = some who →
    who.phase.lead? = some (flight, startedAt) → flight ∈ t.executions →
      who.phase = .computing flight startedAt ∨
        ∃ value entry, who.phase = .storing flight startedAt value entry
  past : ∀ id job, t.invalidations id = some job → ∀ flight ∈ job.past, flight ∈ t.executions
  stale : ∀ number job, t.invalidations number = some job →
    ∀ id who flight startedAt, t.travellers id = some who → who.phase = .computing flight startedAt →
      flight ∈ job.past → ∀ tags, (∃ tag ∈ job.tags, tag ∈ tags) →
        t.coordinator.staleSince startedAt tags = true

theorem marked_initial (settings : CoordinatorSettings) : (initial settings).Marked := by
  constructor
  · exact orderly_initial settings
  · intro id who flight startedAt held
    cases held
  · intro flight begun
    cases begun
  · intro id who flight startedAt held
    cases held
  · intro id job held
    cases held
  · intro number job held
    cases held

section

variable {id : Nat} {who : Traveller} {cue : Cue} {step : Step}

/-- What is out of date for the leader of another flight stays so. -/
theorem staleSince_move (orderly : t.Orderly) (held : t.travellers id = some who)
    (turn : Turn t.coordinator who.call who.phase cue step) {other flight startedAt : Nat} {leader : Traveller}
    (apart : other ≠ id) (held' : t.travellers other = some leader)
    (lead : leader.phase.lead? = some (flight, startedAt)) (tags : List String) :
    step.coordinator.staleSince startedAt tags = t.coordinator.staleSince startedAt tags := by
  rcases turn.change with books | books | ⟨landed, number, own, books⟩
  · exact books.staleSince startedAt tags
  · exact books.staleSince startedAt tags
  · have mine : t.Leads id who.call.key landed := ⟨who, number, held, rfl, own⟩
    have theirs : t.Leads other leader.call.key flight := ⟨leader, startedAt, held', rfl, lead⟩
    have flying := orderly.inflight _ _ _ theirs
    -- The flight that lands is not the only one, so that the marks stay.
    have busy : Table.get? (t.coordinator.touchDown who.call.key landed).inflight leader.call.key ≠ none := by
      rw [Coordinator.get?_touchDown, if_neg, flying]
      · nofun
      · rintro ⟨same, _⟩
        rw [same] at flying theirs
        cases flying.symm.trans (orderly.inflight _ _ _ mine)
        exact apart (orderly.alone _ _ _ _ _ theirs mine)
    rw [books.staleSince, Coordinator.staleSince_touchDown busy]

theorem marked_move (marked : t.Marked) (held : t.travellers id = some who)
    (turn : Turn t.coordinator who.call who.phase cue step) (orderly : (t.move id who cue step).Orderly) :
    (t.move id who cue step).Marked := by
  have leads {other : Nat} {found : Traveller} {flight startedAt : Nat} (held' : t.travellers other = some found)
      (lead : found.phase.lead? = some (flight, startedAt)) : t.Leads other found.call.key flight :=
    ⟨found, startedAt, held', rfl, lead⟩
  obtain ⟨-, sequence, nextFlight⟩ := turn.books
  -- An execution that begins now is that of a flight that was led before.
  have begins {flight startedAt : Nat} (computing : step.phase = .computing flight startedAt) :
      who.phase.lead? = some (flight, startedAt) ∧ flight ∉ t.executions := by
    have pursues := turn.pursued computing ⟨nofun, nofun, nofun⟩
    have lead : who.phase.lead? = some (flight, startedAt) := pursues.lead.symm
    refine ⟨lead, fun begun => ?_⟩
    generalize at_ : who.phase = before at pursues
    cases pursues with
    | computes missed =>
      rcases marked.computes id who flight startedAt held lead begun with phase | ⟨value, entry, phase⟩
      · cases at_.symm.trans phase
        cases missed
      · cases at_.symm.trans phase
        cases missed
  constructor
  · exact orderly
  · intro other found flight startedAt held' lead
    change startedAt ≤ step.coordinator.sequence
    rw [sequence]
    rcases held_of_update held' with ⟨rfl, rfl⟩ | ⟨-, before⟩
    · rcases turn.lead lead with ⟨lead', -⟩ | ⟨-, -, rfl, -⟩
      · exact marked.started other who flight startedAt held lead'
      · exact Nat.le_refl _
    · exact marked.started other found flight startedAt before lead
  · intro flight begun
    refine Nat.lt_of_lt_of_le ?_ nextFlight
    rcases (executions_move flight).1 begun with before | ⟨startedAt, computing⟩
    · exact marked.begun flight before
    · exact marked.orderly.numbered _ _ (marked.orderly.inflight _ _ _ (leads held (begins computing).1))
  · intro other found flight startedAt held' lead begun
    rcases held_of_update held' with ⟨rfl, rfl⟩ | ⟨apart, before⟩
    · rcases (executions_move flight).1 begun with begun | ⟨number, computing⟩
      · rcases turn.lead lead with ⟨lead', pursues⟩ | ⟨-, rfl, -, -⟩
        · have working := marked.computes other who flight startedAt held lead' begun
          rw [Traveller.after_phase]
          generalize who.phase = phase at pursues working
          generalize step.phase = next at pursues lead
          rcases working with rfl | ⟨value, entry, rfl⟩
          · cases pursues with
            | computes missed => cases missed
            | stores =>
              cases lead
              exact .inr ⟨_, _, rfl⟩
          · cases pursues with
            | computes missed => cases missed
        · exact absurd (marked.begun _ begun) (Nat.lt_irrefl _)
      · rw [Traveller.after_phase, computing] at lead ⊢
        cases lead
        exact .inl rfl
    · rcases (executions_move flight).1 begun with begun | ⟨number, computing⟩
      · exact marked.computes other found flight startedAt before lead begun
      · exact absurd (marked.orderly.alone _ _ _ _ _ (leads before lead) (leads held (begins computing).1)) apart
  · intro number job held' flight member
    exact (executions_move flight).2 (.inl (marked.past number job held' flight member))
  · intro number job held' other found flight startedAt held'' computing member tags covers
    rcases held_of_update held'' with ⟨rfl, rfl⟩ | ⟨apart, before⟩
    · -- It begins to compute only now, after the invalidation was called.
      exact absurd (marked.past number job held' flight member) (begins computing).2
    · change step.coordinator.staleSince startedAt tags = true
      rw [staleSince_move marked.orderly held turn apart before (by rw [computing]; rfl)]
      exact marked.stale number job held' other found flight startedAt before computing member tags covers

end

/-- This stays so while no call begins to lead, what was out of date is so still, and the tags of an
invalidation that begins are out of date at once. -/
theorem Marked.frame (marked : t.Marked) (orderly : t'.Orderly)
    (travellers : ∀ id who flight startedAt, t'.travellers id = some who →
      who.phase.lead? = some (flight, startedAt) → t.travellers id = some who)
    (executions : t'.executions = t.executions) (sequence : t.coordinator.sequence ≤ t'.coordinator.sequence)
    (nextFlight : t'.coordinator.nextFlight = t.coordinator.nextFlight)
    (keeps : ∀ startedAt tags, startedAt ≤ t.coordinator.sequence →
      t.coordinator.staleSince startedAt tags = true → t'.coordinator.staleSince startedAt tags = true)
    (jobs : ∀ number job, t'.invalidations number = some job → t.Known event number job ∨
      t.Fresh number job ∧ ∀ id who flight startedAt, t.travellers id = some who →
        who.phase = .computing flight startedAt → ∀ tags, (∃ tag ∈ job.tags, tag ∈ tags) →
          t'.coordinator.staleSince startedAt tags = true) : t'.Marked := by
  constructor
  · exact orderly
  · intro id who flight startedAt held lead
    exact Nat.le_trans (marked.started id who flight startedAt (travellers _ _ _ _ held lead) lead) sequence
  · rw [executions, nextFlight]
    exact marked.begun
  · intro id who flight startedAt held lead
    rw [executions]
    exact marked.computes id who flight startedAt (travellers _ _ _ _ held lead) lead
  · intro number job later flight member
    rw [executions]
    rcases jobs number job later with ⟨old, held, -, past, -⟩ | ⟨⟨-, past, -⟩, -⟩
    · exact marked.past number old held flight (past ▸ member)
    · exact past ▸ member
  · intro number job later id who flight startedAt held computing member tags covers
    have lead : who.phase.lead? = some (flight, startedAt) := by
      rw [computing]
      rfl
    have held := travellers _ _ _ _ held lead
    rcases jobs number job later with ⟨old, found, same, past, -⟩ | ⟨-, fresh⟩
    · apply keeps startedAt tags (marked.started id who flight startedAt held lead)
      exact marked.stale number old found id who flight startedAt held computing (past ▸ member) tags (same ▸ covers)
    · exact fresh id who flight startedAt held computing tags covers

theorem marked_shift (marked : t.Marked) (shift : Shift t event t') : t'.Marked := by
  have orderly := orderly_shift marked.orderly shift
  cases shift with
  | idle => exact marked
  | begins _ fresh =>
    refine marked.frame orderly (fun other who flight startedAt held lead => ?_) rfl (Nat.le_refl _) rfl
      (fun _ _ _ stale => stale) fun number job found => .inl (@Known.refl _ event _ _ found)
    rcases held_of_update held with ⟨rfl, rfl⟩ | ⟨-, before⟩
    · cases lead
    · exact before
  | moves _ held _ _ turn => exact marked_move marked held turn orderly
  | marks purge books jobs =>
    obtain ⟨sequence, -, nextFlight⟩ := World.sequence_mark purge t.coordinator
    refine marked.frame orderly (fun _ _ _ _ held _ => held) rfl ?_ (books.nextFlight.trans nextFlight) ?_
      fun number job later => (jobs number job later).imp_right fun begins => ⟨begins.1, ?_⟩
    · rw [books.sequence, sequence]
      exact Nat.le_succ _
    · intro startedAt tags known stale
      rw [books.staleSince]
      exact Coordinator.staleSince_mark purge known stale
    · obtain ⟨-, rfl⟩ := begins
      intro id who flight startedAt held computing tags covers
      have lead : who.phase.lead? = some (flight, startedAt) := by
        rw [computing]
        rfl
      rw [books.staleSince]
      -- The flight is in the air, so that its tags are marked.
      refine Coordinator.staleSince_mark_of_covers (marked.started id who flight startedAt held lead)
        (fun empty => ?_) covers
      have flying := marked.orderly.inflight _ _ _ ⟨who, startedAt, held, rfl, lead⟩
      rw [empty] at flying
      cases flying
  | counts books jobs =>
    refine marked.frame orderly (fun _ _ _ _ held _ => held) rfl (Nat.le_of_eq books.sequence.symm) books.nextFlight ?_
      fun number job later => (jobs number job later).imp_right fun begins => ⟨begins.1, ?_⟩
    · intro startedAt tags _ stale
      rw [books.staleSince]
      exact stale
    · rintro - - - - - - - ⟨tag, member, -⟩
      rw [begins.2] at member
      cases member

end Traffic

namespace Remote

variable {r r' : Remote} {event : Event}

/-- The server holds an entry of a flight, or it is on its way there. -/
def Present (r : Remote) (flight : Nat) (entry : CacheEntry) : Prop :=
  (∃ key, r.held key = some (entry, some flight)) ∨ ∃ id, r.Sends id flight entry

/-- What an invalidation has left is what was under way when the server dealt with it. -/
structure Settled (r : Remote) : Prop where
  marked : r.traffic.Marked
  left : ∀ number job missed, r.traffic.invalidations number = some job → r.missed number = some missed →
    ∀ flight entry, r.Present flight entry → flight ∈ job.past → (∃ tag ∈ job.tags, tag ∈ entry.tags) →
      missed flight
  unheard : ∀ number, r.traffic.invalidations number = none → r.missed number = none
  answered : ∀ number removed, r.verdicts number = some (.ok removed) → (r.missed number).isSome
  ended : ∀ number job, r.traffic.invalidations number = some job → job.phase = .finished (.ok true) →
    job.tags = [] ∨ (r.missed number).isSome

theorem settled_initial (settings : CoordinatorSettings) (held : String → Option CacheEntry) :
    (initial settings held).Settled := by
  constructor
  · exact Traffic.marked_initial settings
  · intro number job missed found
    cases found
  · intro number _
    rfl
  · intro number removed found
    cases found
  · intro number job found
    cases found

theorem present_serve {id : Nat} {fate : Fate} {who : Traveller} {reply : Reply}
    (held : r.traffic.travellers id = some who) (open_ : r.replies id = none) {flight : Nat} {entry : CacheEntry}
    (present : Present { r with
      held := r.held.after fate who.call.key who.phase
      replies := Function.update r.replies id (some reply) } flight entry) : r.Present flight entry := by
  rcases present with ⟨key, found⟩ | ⟨other, waits, sends⟩
  · rcases Holdings.after_eq_some found with before | ⟨-, flight', startedAt, value, entry', storing, same⟩
    · exact .inl ⟨key, before⟩
    · cases same
      exact .inr ⟨id, open_, who, startedAt, value, held, storing⟩
  · right
    refine ⟨other, ?_, sends⟩
    by_cases own : other = id
    · rw [own, open_]
    · simpa only [Function.update_of_ne own] using waits

/-- What a call sends when it has heard something is not out of date. -/
theorem present_hear {id : Nat} {who : Traveller} {cue : Cue} {step : Step}
    (turn : Turn r.traffic.coordinator who.call who.phase cue step) {flight : Nat} {entry : CacheEntry}
    (present : Present { r with
      traffic := r.traffic.move id who cue step
      replies := Function.update r.replies id none } flight entry) :
    r.Present flight entry ∨ ∃ startedAt tags, who.phase = .computing flight startedAt ∧
      (∀ tag, tag ∈ entry.tags ↔ tag ∈ tags) ∧
      r.traffic.coordinator.staleSince startedAt tags = false := by
  rcases present with held | ⟨other, waits, found, startedAt, value, held, storing⟩
  · exact .inl (.inl held)
  · rcases Traffic.held_of_update held with ⟨rfl, rfl⟩ | ⟨apart, before⟩
    · right
      rw [Traveller.after_phase] at storing
      have pursues := turn.pursued storing ⟨nofun, nofun, nofun⟩
      generalize who.phase = phase at pursues
      cases pursues with
      | stores encoded key tags fresh => exact ⟨startedAt, _, rfl, tags, fresh⟩
    · left
      right
      refine ⟨other, ?_, found, startedAt, value, before, storing⟩
      simpa only [Function.update_of_ne apart] using waits

theorem settled_shift (settled : r.Settled) (shift : Shift r event r') : r'.Settled := by
  obtain ⟨e, traffic, -⟩ := shift.traffic
  have marked := Traffic.marked_shift settled.marked traffic
  cases shift with
  | idle => exact settled
  | serves own held open_ replies =>
    refine ⟨marked, ?_, settled.unheard, settled.answered, settled.ended⟩
    intro number job missed found known flight entry present
    exact settled.left number job missed found known flight entry (present_serve held open_ present)
  | @hears id who cue step heard held steps =>
    refine ⟨marked, ?_, settled.unheard, settled.answered, settled.ended⟩
    intro number job missed found known flight entry present past covers
    rcases present_hear (turn_of_step? steps) present with before | ⟨startedAt, tags, computing, same, fresh⟩
    · exact settled.left number job missed found known flight entry before past covers
    · -- Its tags were marked while it was computed, and then it is not sent.
      have stale := settled.marked.stale number job found id who flight startedAt held computing past tags
        (covers.imp fun tag member => ⟨member.1, (same tag).1 member.2⟩)
      cases fresh.symm.trans stale
  | @drives e verdicts drives fewer =>
    have sends {id flight : Nat} {entry : CacheEntry} (sends : Sends { r with
        traffic := r.traffic.act e
        verdicts := verdicts } id flight entry) : r.Sends id flight entry := by
      obtain ⟨waits, who, startedAt, value, held, storing⟩ := sends
      rcases drives.travellers held with before | begins
      · exact ⟨waits, who, startedAt, value, before, storing⟩
      · cases storing.symm.trans begins
    constructor
    · exact marked
    · intro number job missed found known flight entry present past covers
      rcases drives.invalidations found with ⟨old, held, same, past', -⟩ | ⟨fresh, -, -⟩
      · have before : r.Present flight entry := present.imp_right fun ⟨id, sent⟩ => ⟨id, sends sent⟩
        exact settled.left number old missed held known flight entry before (past' ▸ past) (same ▸ covers)
      · cases known.symm.trans (settled.unheard number fresh)
    · intro number none_
      apply settled.unheard
      by_contra known
      exact Traffic.invalidations_act r.traffic e known none_
    · intro number removed found
      exact settled.answered number removed (fewer number _ found)
    · intro number job found ended
      rcases drives.invalidations found with ⟨old, held, same, -, success⟩ | ⟨-, -, empty⟩
      · rcases success ended with before | ⟨removed, rfl⟩
        · exact same ▸ settled.ended number old held before
        · cases drives with
          | verdict answered => exact .inr (settled.answered number removed answered)
      · exact .inl (empty ended)
  | @purges id fate removed job own held =>
    -- What the server holds of these tags is gone, so that only what is under way can be left.
    have heard (number : Nat) : (r.missed number).isSome →
        (Function.update r.missed id (some fun flight => ∃ id entry, r.Sends id flight entry) number).isSome := by
      intro before
      by_cases same : number = id
      · subst same
        rw [Function.update_self]
        rfl
      · rwa [Function.update_of_ne same]
    constructor
    · exact marked
    · intro number job' missed found known flight entry present past covers
      rcases Traffic.held_of_update known with ⟨rfl, rfl⟩ | ⟨-, known⟩
      · cases held.symm.trans found
        rcases present with ⟨key, kept⟩ | ⟨other, sends⟩
        · exact absurd covers (Holdings.without_eq_some kept).2
        · exact ⟨other, entry, sends⟩
      · have before : r.Present flight entry :=
          present.imp_left fun ⟨key, kept⟩ => ⟨key, (Holdings.without_eq_some kept).1⟩
        exact settled.left number job' missed found known flight entry before past covers
    · intro number none_
      have apart : number ≠ id := by
        rintro rfl
        cases held.symm.trans none_
      exact (Function.update_of_ne apart _ _).trans (settled.unheard number none_)
    · intro number removed' answered
      rcases Traffic.held_of_update answered with ⟨rfl, -⟩ | ⟨-, before⟩
      · exact congrArg Option.isSome (Function.update_self number _ r.missed)
      · exact heard number (settled.answered number removed' before)
    · intro number job' found ended
      exact (settled.ended number job' found ended).imp_right (heard number)
  | @refuses id fate removed e own =>
    refine ⟨marked, settled.left, settled.unheard, ?_, settled.ended⟩
    intro number removed' answered
    rcases Traffic.held_of_update answered with ⟨rfl, refused⟩ | ⟨-, before⟩
    · cases refused
    · exact settled.answered number removed' before
  | @expires key own =>
    refine ⟨marked, ?_, settled.unheard, settled.answered, settled.ended⟩
    intro number job missed found known flight entry present
    apply settled.left number job missed found known flight entry
    exact present.imp_left fun ⟨other, kept⟩ => ⟨other, (Traffic.held_of_erase kept).2⟩

theorem settled_run (settled : r.Settled) (events : List Event) : (r.run events).Settled :=
  run_shifts (fun _ _ _ (_ : True) settled shift => settled_shift settled shift) settled events fun _ _ => trivial

/-- Whatever happens, in whatever order: when an invalidation has succeeded, of the executions that
had begun before it was called the server holds no entry of its tags but one that was under way
when the server dealt with the invalidation. -/
theorem left_by_invalidation (settings : CoordinatorSettings) (held : String → Option CacheEntry)
    (events : List Event) {number : Nat} {job : Invalidation} :
    let r := (initial settings held).run events
    r.traffic.invalidations number = some job → job.phase = .finished (.ok true) →
    ∀ key entry flight, r.held key = some (entry, some flight) → flight ∈ job.past →
      (∃ tag ∈ job.tags, tag ∈ entry.tags) → ∃ missed, r.missed number = some missed ∧ missed flight := by
  intro r found ended key entry flight kept past covers
  have settled : r.Settled := settled_run (settled_initial settings held) events
  rcases settled.ended number job found ended with none_ | heard
  · obtain ⟨tag, member, -⟩ := covers
    rw [none_] at member
    cases member
  · obtain ⟨missed, known⟩ := Option.isSome_iff_exists.1 heard
    exact ⟨missed, known, settled.left number job missed found known flight entry (.inl ⟨key, kept⟩) past covers⟩

end Remote

def InvalidationPhase.isSuccess : InvalidationPhase → Bool
  | .finished (.ok true) => true
  | _ => false

theorem InvalidationPhase.isSuccess_iff {phase : InvalidationPhase} :
    phase.isSuccess = true ↔ phase = .finished (.ok true) := by
  constructor
  · intro succeeded
    unfold isSuccess at succeeded
    split at succeeded
    · rfl
    · cases succeeded
  · rintro rfl
    rfl

namespace Remote

/-- A call sends its entry, an invalidation of its tag comes and goes, and then the entry arrives. -/
def overtaken : List Event :=
  [.begin 0 { key := "k", tags := ["t"] }, .serve 0 .done, .answer 0, .serve 0 .done, .answer 0,
    .computed 0 (Binary64.ofInt 1000) (.ok (.int 1)), .invalidate 0 ["t"] false, .purge 0 .done 0, .verdict 0,
    .serve 0 .done]

/-- The invalidation has succeeded, and what it had to remove is there. -/
theorem overtaken_held : ∃ job entry,
    ((initial {} fun _ => none).run overtaken).traffic.invalidations 0 = some job ∧
    job.phase = .finished (.ok true) ∧ 0 ∈ job.past ∧ (∃ tag ∈ job.tags, tag ∈ entry.tags) ∧
    ((initial {} fun _ => none).run overtaken).held "k" = some (entry, some 0) := by
  have ended : (((initial {} fun _ => none).run overtaken).traffic.invalidations 0).any (fun job =>
      job.phase.isSuccess && job.past == [0] && job.tags == ["t"]) = true := by
    decide +kernel
  have kept : (((initial {} fun _ => none).run overtaken).held "k").any (fun kept =>
      kept.2 == some 0 && kept.1.tags == ["t"]) = true := by
    decide +kernel
  obtain ⟨job, found, ended⟩ := (Option.any_eq_true _ _).1 ended
  obtain ⟨⟨entry, flight⟩, held, kept⟩ := (Option.any_eq_true _ _).1 kept
  simp only [Bool.and_eq_true, beq_iff_eq, InvalidationPhase.isSuccess_iff] at ended kept
  obtain ⟨⟨succeeded, past⟩, tags⟩ := ended
  obtain ⟨rfl, own⟩ := kept
  exact ⟨job, entry, found, succeeded, by simp [past], ⟨"t", by simp [tags], by simp [own]⟩, held⟩

/-- Of the invalidation that succeeded it is on record that the entry was under way. -/
theorem left_by_invalidation_overtaken : ∃ job entry missed,
    ((initial {} fun _ => none).run overtaken).traffic.invalidations 0 = some job ∧
    ((initial {} fun _ => none).run overtaken).held "k" = some (entry, some 0) ∧
    ((initial {} fun _ => none).run overtaken).missed 0 = some missed ∧ missed 0 := by
  obtain ⟨job, entry, found, ended, past, covers, held⟩ := overtaken_held
  obtain ⟨missed, known, own⟩ :=
    left_by_invalidation {} (fun _ => none) overtaken found ended "k" entry 0 held past covers
  exact ⟨job, entry, missed, found, held, known, own⟩

/-- An entry may stay though the invalidation of its tag has succeeded: it arrived late; or it is in
memory, where an entry whose time is already over takes the old tags of its key away and leaves the
old payload. -/
theorem stale_entry_survives :
    (¬ ∀ (settings : CoordinatorSettings) (held : String → Option CacheEntry) (events : List Event)
      (number : Nat) (job : Invalidation),
      let r := (initial settings held).run events
      r.traffic.invalidations number = some job → job.phase = .finished (.ok true) →
      ∀ key entry flight, r.held key = some (entry, some flight) → flight ∈ job.past →
        ¬ ∃ tag ∈ job.tags, tag ∈ entry.tags) ∧
    let first := Service.read CacheHost.store { key := "k", tags := ["t"] } (pure (.int 1)) ⟨{}, {}⟩
    let away := first.2.host.expectFaults .get [some (.backend "refused"), some (.backend "refused")]
    let last := Service.read CacheHost.store { key := "k", tags := ["t"], ttl := some (.whole (-1)) }
      (pure (.int 2)) ⟨first.2.coordinator, away⟩
    let purged := Service.invalidate CacheHost.store ["t"] false last.2
    first.1.isOk = true ∧ last.1.isOk = true ∧ purged.1 = .ok true ∧
      ∃ entry, (purged.2.host.memory.get purged.2.host.now "k").1 = some entry ∧ "t" ∈ entry.tags := by
  constructor
  · intro claim
    obtain ⟨job, entry, found, ended, past, covers, held⟩ := overtaken_held
    exact claim {} (fun _ => none) overtaken 0 job found ended "k" entry 0 held past covers
  · intro first away last purged
    have kept : (purged.2.host.memory.get purged.2.host.now "k").1.any (fun entry => entry.tags == ["t"]) = true := by
      decide +kernel
    have succeeded : (InvalidationPhase.finished purged.1).isSuccess = true := by
      decide +kernel
    have answered : first.1.isOk = true ∧ last.1.isOk = true := by
      constructor <;> decide +kernel
    refine ⟨answered.1, answered.2, ?_⟩
    clear_value purged
    obtain ⟨entry, held, own⟩ := (Option.any_eq_true _ _).1 kept
    rw [InvalidationPhase.isSuccess_iff, InvalidationPhase.finished.injEq] at succeeded
    exact ⟨succeeded, entry, held, by simp [beq_iff_eq.1 own]⟩

end Remote

end QueryCache
