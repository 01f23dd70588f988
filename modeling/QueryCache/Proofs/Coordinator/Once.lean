import QueryCache.Proofs.Coordinator.Outcomes
import QueryCache.Proofs.Coordinator.Remote

/-! One execution for all calls of a key.

While nothing fails, nobody goes away and nothing is taken out of the cache, the first call that
leads computes, and it stores before its flight lands. A call that missed before that looks the key
up again when it leads, and finds what was stored. -/

set_option autoImplicit false

namespace QueryCache

/-- A value that can be stored and read back. -/
def CoordinatorSettings.Keeps (settings : CoordinatorSettings) (value : Value) : Prop :=
  ∃ payload back, settings.codec.encode value = .ok payload ∧ settings.codec.decode payload = .ok back

/-- The seconds that the entry of a call is to live are in range. -/
def CoordinatorSettings.Fits (settings : CoordinatorSettings) (call : ReadCall) : Prop :=
  ({ settings := settings } : Coordinator).lifetime call |>.toBinary?.isSome

namespace Remote

/-- The server, the renewals and the computations do what they are to do, and nothing is cancelled,
invalidated or over. -/
def Event.Proper (settings : CoordinatorSettings) : Event → Prop
  | .serve _ fate => fate = .done
  | .answer _ | .told _ => True
  | .renewed _ reply => ∀ e, reply = .error e → e.isUnavailable = true
  | .computed _ _ result => ∃ value, result = .ok value ∧ settings.Keeps value
  | _ => False

/-- Calls of one key begin, and what they wait for comes. -/
def Event.Steady (settings : CoordinatorSettings) (key : String) : Event → Prop
  | .begin _ call => call.key = key
  | event => event.Proper settings

variable {settings : CoordinatorSettings} {key : String} {start : Option CacheEntry} {r r' : Remote}
  {event : Event}

/-- An entry that was there from the beginning, or that has the result of an execution. -/
def Sound (settings : CoordinatorSettings) (start : Option CacheEntry) (t : Traffic) (entry : CacheEntry) :
    Prop :=
  (∃ back, settings.codec.decode entry.payload = .ok back) ∧
    (start = some entry ∨ ∃ flight value, t.results flight = some (.ok value) ∧
      settings.codec.encode value = .ok entry.payload)

theorem Sound.grow {t t' : Traffic} {entry : CacheEntry} (sound : Sound settings start t entry)
    (grows : t.Grows t') : Sound settings start t' entry := by
  refine ⟨sound.1, sound.2.imp_right ?_⟩
  rintro ⟨flight, value, result, encoded⟩
  exact ⟨flight, value, grows.results _ _ result, encoded⟩

inductive Expects (settings : CoordinatorSettings) (start : Option CacheEntry) (t : Traffic) :
    Phase → Reply → Prop where
  | missing {role : Role} : Expects settings start t (.lookup role) (.found (.ok none))
  | found {role : Role} {entry : CacheEntry} : Sound settings start t entry →
      Expects settings start t (.lookup role) (.found (.ok (some entry)))
  | stored {flight startedAt : Nat} {value : Value} {entry : CacheEntry} :
      Expects settings start t (.storing flight startedAt value entry) (.stored (.ok ()))

theorem Expects.grow {t t' : Traffic} {phase : Phase} {reply : Reply}
    (expects : Expects settings start t phase reply) (grows : t.Grows t') :
    Expects settings start t' phase reply := by
  cases expects with
  | missing => exact .missing
  | found sound => exact .found (sound.grow grows)
  | stored => exact .stored

structure Ordinary (settings : CoordinatorSettings) (key : String) (who : Traveller) : Prop where
  key : who.call.key = key
  fits : settings.Fits who.call
  stays : who.cancelled = false
  keeps : ∀ role, who.phase ≠ .discard role

/-- A call computes, or has sent what it computed. -/
def Works (r : Remote) (id : Nat) (who : Traveller) (flight startedAt : Nat) : Prop :=
  who.phase = .computing flight startedAt ∨
    r.replies id = none ∧ ∃ value entry, who.phase = .storing flight startedAt value entry

theorem Works.lead {id flight startedAt : Nat} {who : Traveller} (works : r.Works id who flight startedAt) :
    who.phase.lead? = some (flight, startedAt) := by
  rcases works with phase | ⟨-, value, entry, phase⟩
  · rw [phase]
    rfl
  · rw [phase]
    rfl

/-- How far the work on the key is. -/
inductive Stage (key : String) (r : Remote) : Prop where
  | idle : r.traffic.executions = [] → r.held key = none → Stage key r
  | busy {id flight startedAt : Nat} {who : Traveller} : r.traffic.executions = [flight] → r.held key = none →
      r.traffic.travellers id = some who → r.Works id who flight startedAt → Stage key r
  /-- Whoever leads and still looks the key up will find it. -/
  | kept : r.traffic.executions.length ≤ 1 → (r.held key).isSome →
      (∀ id who flight startedAt, r.traffic.travellers id = some who →
        who.phase = .lookup (.leading flight startedAt) → r.replies id ≠ some (.found (.ok none))) →
      Stage key r

-- `stage` carries the proof: the rest says that nothing can take the call out of it.
structure Once (settings : CoordinatorSettings) (key : String) (start : Option CacheEntry) (r : Remote) :
    Prop where
  warranted : r.traffic.Warranted
  same : r.traffic.coordinator.settings = settings
  unmarked : r.traffic.coordinator.clearedAt = 0 ∧ r.traffic.coordinator.invalidatedAt = []
  calls : ∀ id who, r.traffic.travellers id = some who → Ordinary settings key who
  leaders : ∀ flight leader call, r.traffic.leaders flight = some (leader, call) → settings.Fits call
  landings : ∀ flight, r.traffic.landings flight ≠ some .abandoned
  results : ∀ flight result, r.traffic.results flight = some result →
    flight ∈ r.traffic.executions ∧ ∃ value, result = .ok value
  retrieved : ∀ place entry, (place, entry) ∈ r.traffic.retrieved → Sound settings start r.traffic entry
  working : ∀ id who flight startedAt, r.traffic.travellers id = some who →
    who.phase = .computing flight startedAt → flight ∈ r.traffic.executions
  sends : ∀ id who flight startedAt value entry, r.traffic.travellers id = some who →
    who.phase = .storing flight startedAt value entry →
      flight ∈ r.traffic.executions ∧ Sound settings start r.traffic entry
  replies : ∀ id reply, r.replies id = some reply → ∃ who, r.traffic.travellers id = some who ∧
    Expects settings start r.traffic who.phase reply
  held : ∀ entry origin, r.held key = some (entry, origin) → Sound settings start r.traffic entry
  stage : Stage key r
  given : ∀ entry, start = some entry → r.traffic.executions = [] ∧ (r.held key).isSome

theorem once_initial (settings : CoordinatorSettings) (key : String) (held : String → Option CacheEntry)
    (decodes : ∀ entry, held key = some entry → ∃ back, settings.codec.decode entry.payload = .ok back) :
    Once settings key (held key) (initial settings held) := by
  constructor
  · exact Traffic.warranted_initial settings
  · rfl
  · exact ⟨rfl, rfl⟩
  · intro id who found
    cases found
  · intro flight leader call found
    cases found
  · intro flight landed
    cases landed
  · intro flight result found
    cases found
  · intro place entry member
    cases member
  · intro id who flight startedAt found
    cases found
  · intro id who flight startedAt value entry found
    cases found
  · intro id reply found
    cases found
  · intro entry origin found
    obtain ⟨entry', there, same⟩ := Option.map_eq_some_iff.1 found
    cases same
    exact ⟨decodes entry there, .inl there⟩
  · -- Before any call either nothing is held of the key, or what was there from the start.
    cases there : held key with
    | none =>
      refine .idle rfl ?_
      simp [initial, there]
    | some entry =>
      refine .kept (Nat.zero_le _) ?_ fun id who flight startedAt found => by cases found
      simp [initial, there]
  · intro entry there
    exact ⟨rfl, by simp [initial, there]⟩

/-! ## What a call hears -/

inductive Listens (settings : CoordinatorSettings) (start : Option CacheEntry) (r : Remote) (id : Nat) :
    Phase → Cue → Prop where
  | missed {role : Role} : r.replies id = some (.found (.ok none)) →
      Listens settings start r id (.lookup role) (.found (.ok none))
  | found {role : Role} {entry : CacheEntry} : Sound settings start r.traffic entry →
      Listens settings start r id (.lookup role) (.found (.ok (some entry)))
  | stored {flight startedAt : Nat} {value : Value} {entry : CacheEntry} : r.replies id ≠ none →
      Listens settings start r id (.storing flight startedAt value entry) (.stored (.ok ()))
  | renewed {role : Role} {value : Value} {reply : Except Failure Bool} :
      Listens settings start r id (.refresh role value) (.renewed reply)
  | computed {flight startedAt : Nat} {now : Time} {value : Value} : settings.Keeps value →
      Listens settings start r id (.computing flight startedAt) (.computed now (.ok value))
  | told {flight : Nat} {landing : Landing} : landing ≠ .abandoned →
      Listens settings start r id (.waiting flight) (.landed landing)

section

variable {id : Nat} {who : Traveller} {cue : Cue} {step : Step}

theorem listens_of_heard (once : Once settings key start r) (steady : event.Steady settings key)
    (heard : r.Heard event id cue) (held : r.traffic.travellers id = some who)
    (steps : r.traffic.coordinator.step? who.call who.phase cue = some step) :
    Listens settings start r id who.phase cue := by
  -- What is heard is what the phase waits for, or there would be no step.
  cases heard with
  | @answered reply own replies =>
    obtain ⟨who', held', expects⟩ := once.replies id reply replies
    cases held.symm.trans held'
    generalize who.phase = phase at expects
    cases expects with
    | missing => exact .missed replies
    | found sound => exact .found sound
    | stored =>
      refine .stored fun open_ => ?_
      cases open_.symm.trans replies
  | renewed own =>
    generalize who.phase = phase at steps
    cases phase with
    | refresh role value => exact .renewed
    | _ => cases steps
  | @computed now result own =>
    subst own
    obtain ⟨value, rfl, keeps⟩ := steady
    generalize who.phase = phase at steps
    cases phase with
    | computing flight startedAt => exact .computed keeps
    | _ => cases steps
  | @told landing own found =>
    obtain ⟨who', flight, held', waiting, landed⟩ := Traffic.landingFor?_eq_some.1 found
    cases held.symm.trans held'
    rw [waiting]
    refine .told ?_
    rintro rfl
    exact once.landings flight landed
  | cancelled own =>
    subst own
    cases steady

/-- Of the failures of the cache, only those of renewals are heard, which say that it is away. -/
theorem mild_of_heard (once : Once settings key start r) (steady : event.Steady settings key)
    (heard : r.Heard event id cue) {e : Failure} (fails : cue.failure? = some e) : e.isUnavailable = true := by
  cases heard with
  | @answered reply own replies =>
    obtain ⟨who, -, expects⟩ := once.replies id reply replies
    generalize who.phase = phase at expects
    cases expects <;> cases fails
  | @renewed reply own =>
    subst own
    cases reply with
    | ok was => cases fails
    | error e' =>
      cases fails
      exact steady e rfl
  | computed => cases fails
  | told => cases fails
  | cancelled => cases fails

theorem decodes_of_sound (once : Once settings key start r) {entry : CacheEntry} {e : Failure}
    (sound : Sound settings start r.traffic entry)
    (fails : r.traffic.coordinator.settings.codec.decode entry.payload = .error e) : False := by
  obtain ⟨⟨back, decoded⟩, -⟩ := sound
  rw [once.same, decoded] at fails
  cases fails

theorem ne_discard (once : Once settings key start r) (listens : Listens settings start r id who.phase cue)
    (turn : Turn r.traffic.coordinator who.call who.phase cue step) (role : Role) :
    step.phase ≠ .discard role := by
  intro discards
  have pursues := turn.pursued discards ⟨nofun, nofun, nofun⟩
  generalize who.phase = phase at pursues listens
  cases pursues with
  | discards undecodable =>
    cases listens with
    | found sound => exact decodes_of_sound once sound undecodable

theorem ne_abandoned (listens : Listens settings start r id who.phase cue)
    (turn : Turn r.traffic.coordinator who.call who.phase cue step) (flight : Nat) :
    step.landing ≠ some (flight, .abandoned) := by
  intro landed
  obtain ⟨startedAt, outcome, lead, why⟩ := turn.landed landed
  generalize who.phase = phase at why listens
  cases why with
  | gaveUp => cases listens
  | told other => exact other rfl
  | cancelled => cases listens

/-- Only a leader computes, once it has looked its key up and found nothing. -/
theorem computing_of_listens (once : Once settings key start r) (held : r.traffic.travellers id = some who)
    (listens : Listens settings start r id who.phase cue)
    (turn : Turn r.traffic.coordinator who.call who.phase cue step) {flight startedAt : Nat}
    (computing : step.phase = .computing flight startedAt) :
    who.phase = .lookup (.leading flight startedAt) ∧ r.replies id = some (.found (.ok none)) := by
  have keeps := (once.calls id who held).keeps
  have pursues := turn.pursued computing ⟨nofun, nofun, nofun⟩
  have lead : who.phase.lead? = some (flight, startedAt) := pursues.lead.symm
  generalize who.phase = phase at pursues listens lead keeps
  cases pursues with
  | computes missed =>
    cases missed with
    | absent role =>
      cases listens with
      | missed replies =>
        cases role with
        | joining first => cases lead
        | leading flight' startedAt' =>
          cases lead
          exact ⟨rfl, replies⟩
    | unreachable role away => cases listens
    | dropped role was => exact absurd rfl (keeps role)
    | kept role away => exact absurd rfl (keeps role)

theorem storing_of_listens (listens : Listens settings start r id who.phase cue)
    (turn : Turn r.traffic.coordinator who.call who.phase cue step) {flight startedAt : Nat} {value : Value}
    {entry : CacheEntry} (storing : step.phase = .storing flight startedAt value entry) :
    who.phase = .computing flight startedAt ∧ settings.Keeps value ∧
      (∃ now, cue = .computed now (.ok value)) ∧
      r.traffic.coordinator.settings.codec.encode value = .ok entry.payload := by
  have pursues := turn.pursued storing ⟨nofun, nofun, nofun⟩
  generalize who.phase = phase at pursues listens
  cases pursues with
  | stores encoded =>
    cases listens with
    | computed keeps => exact ⟨rfl, keeps, ⟨_, rfl⟩, encoded⟩

/-- Without invalidations, what was computed is stored. -/
theorem stores_of_computed (once : Once settings key start r) (held : r.traffic.travellers id = some who)
    {flight startedAt : Nat} (computing : who.phase = .computing flight startedAt)
    (listens : Listens settings start r id who.phase cue)
    (steps : r.traffic.coordinator.step? who.call who.phase cue = some step) :
    ∃ value entry, step.phase = .storing flight startedAt value entry := by
  have fits := (once.calls id who held).fits
  rw [computing] at listens steps
  cases listens with
  | @computed _ _ now value keeps =>
    obtain ⟨payload, back, encoded, -⟩ := keeps
    cases steps
    have fresh (startedAt : Nat) (tags : List String) :
        r.traffic.coordinator.staleSince startedAt tags = false := by
      rw [← Bool.not_eq_true, Coordinator.staleSince_iff, once.unmarked.1, once.unmarked.2]
      simp [Table.get?]
    rw [← once.same] at encoded
    simp only [Coordinator.afterComputing, Coordinator.store, fresh, encoded]
    cases created : CacheEntry.create now who.call.key (tagSet (who.call.tags ++ who.call.resultTags value)) payload
        (some (r.traffic.coordinator.lifetime who.call)) with
    | ok entry => exact ⟨value, entry, rfl⟩
    | error e =>
      have endless := Service.lifetime_of_create_eq_error created
      rw [Coordinator.lifetime, once.same] at endless
      rw [CoordinatorSettings.Fits, Coordinator.lifetime, endless] at fits
      cases fits

theorem unmarked_of_turn {c : Coordinator} {call : ReadCall} {phase : Phase}
    (unmarked : c.clearedAt = 0 ∧ c.invalidatedAt = []) (turn : Turn c call phase cue step) :
    step.coordinator.clearedAt = 0 ∧ step.coordinator.invalidatedAt = [] := by
  rcases turn.change with books | books | ⟨flight, startedAt, -, books⟩
  · rwa [books.clearedAt, books.invalidatedAt]
  · rwa [books.clearedAt, books.invalidatedAt]
  · rw [books.clearedAt, books.invalidatedAt]
    refine ⟨unmarked.1, ?_⟩
    unfold Coordinator.touchDown
    simp [unmarked.2]

end

/-! ## What every step keeps -/

section

variable {id : Nat} {who : Traveller}

/-- The one leader of the key has nobody beside it. -/
theorem Once.alone (once : Once settings key start r) {other flight flight' startedAt startedAt' : Nat}
    {leader : Traveller} (held : r.traffic.travellers id = some who)
    (lead : who.phase.lead? = some (flight, startedAt)) (held' : r.traffic.travellers other = some leader)
    (lead' : leader.phase.lead? = some (flight', startedAt')) : id = other := by
  have orderly := once.warranted.orderly
  have first : r.traffic.Leads id key flight := ⟨who, startedAt, held, (once.calls id who held).key, lead⟩
  have last : r.traffic.Leads other key flight' :=
    ⟨leader, startedAt', held', (once.calls other leader held').key, lead'⟩
  cases (orderly.inflight _ _ _ first).symm.trans (orderly.inflight _ _ _ last)
  exact orderly.alone _ _ _ _ _ first last

theorem expects_serve (once : Once settings key start r) (held : r.traffic.travellers id = some who)
    {reply : Reply} (replies : r.held.reply? .done who.call.key who.phase = some reply) :
    Expects settings start r.traffic who.phase reply := by
  have ordinary := once.calls id who held
  have keeps := ordinary.keeps
  rw [ordinary.key] at replies
  generalize who.phase = phase at replies keeps
  cases phase with
  | lookup role =>
    cases replies
    cases there : r.held key with
    | none => exact .missing
    | some kept => exact .found (once.held kept.1 kept.2 there)
  | discard role => exact absurd rfl (keeps role)
  | storing flight startedAt value entry =>
    cases replies
    exact .stored
  | _ => cases replies

/-- A request that is no entry to be stored changes nothing that is held. -/
theorem after_of_ne_storing (once : Once settings key start r) (held : r.traffic.travellers id = some who)
    (other : ∀ flight startedAt value entry, who.phase ≠ .storing flight startedAt value entry) :
    r.held.after .done who.call.key who.phase = r.held := by
  have keeps := (once.calls id who held).keeps
  generalize who.phase = phase at other keeps
  cases phase with
  | discard role => exact absurd rfl (keeps role)
  | storing flight startedAt value entry => exact absurd rfl (other flight startedAt value entry)
  | _ => rfl

theorem after_of_storing (once : Once settings key start r) (held : r.traffic.travellers id = some who)
    {flight startedAt : Nat} {value : Value} {entry : CacheEntry}
    (storing : who.phase = .storing flight startedAt value entry) :
    r.held.after .done who.call.key who.phase key = some (entry, some flight) := by
  rw [storing, (once.calls id who held).key]
  exact Function.update_self key _ r.held

theorem isSome_after (once : Once settings key start r) (held : r.traffic.travellers id = some who)
    (there : (r.held key).isSome) : (r.held.after .done who.call.key who.phase key).isSome := by
  by_cases storing : ∃ flight startedAt value entry, who.phase = .storing flight startedAt value entry
  · obtain ⟨flight, startedAt, value, entry, storing⟩ := storing
    rw [after_of_storing once held storing]
    rfl
  · rwa [after_of_ne_storing once held fun flight startedAt value entry phase =>
      storing ⟨flight, startedAt, value, entry, phase⟩]

theorem stage_serve (once : Once settings key start r) (held : r.traffic.travellers id = some who)
    (open_ : r.replies id = none) {reply : Reply}
    (replies : r.held.reply? .done who.call.key who.phase = some reply) :
    Stage key { r with
      held := r.held.after .done who.call.key who.phase
      replies := Function.update r.replies id (some reply) } := by
  by_cases storing : ∃ flight startedAt value entry, who.phase = .storing flight startedAt value entry
  · obtain ⟨flight, startedAt, value, entry, storing⟩ := storing
    have lead : who.phase.lead? = some (flight, startedAt) := by
      rw [storing]
      rfl
    refine .kept ?_ ?_ fun other leader flight' startedAt' held' looks => ?_
    · cases once.stage with
      | idle none_ => simp [none_]
      | busy one => simp [one]
      | kept few => exact few
    · exact congrArg Option.isSome (after_of_storing once held storing)
    · -- The call that stores leads, so that nobody looks the key up as a leader.
      cases once.alone held lead held' (by rw [looks]; rfl)
      cases held.symm.trans held'
      cases storing.symm.trans looks
  · have same := after_of_ne_storing once held fun flight startedAt value entry phase =>
      storing ⟨flight, startedAt, value, entry, phase⟩
    rw [same]
    cases once.stage with
    | idle none_ absent => exact .idle none_ absent
    | @busy leader flight startedAt found one absent held' works =>
      refine .busy one absent held' (works.imp_right fun sent => ⟨?_, sent.2⟩)
      have apart : leader ≠ id := by
        rintro rfl
        cases held.symm.trans held'
        obtain ⟨value, entry, phase⟩ := sent.2
        exact storing ⟨_, _, _, _, phase⟩
      exact (Function.update_of_ne apart _ _).trans sent.1
    | kept few there looks =>
      refine .kept few there fun other leader flight startedAt held' looking => ?_
      by_cases own : other = id
      · subst own
        cases held.symm.trans held'
        rw [looking, (once.calls other who held).key] at replies
        cases replies
        obtain ⟨kept, found⟩ := Option.isSome_iff_exists.1 there
        simp [found, Fate.answer]
      · simpa only [Function.update_of_ne own] using looks other leader flight startedAt held' looking

theorem once_serve (once : Once settings key start r) (held : r.traffic.travellers id = some who)
    (open_ : r.replies id = none) {reply : Reply}
    (replies : r.held.reply? .done who.call.key who.phase = some reply) :
    Once settings key start { r with
      held := r.held.after .done who.call.key who.phase
      replies := Function.update r.replies id (some reply) } := by
  refine { once with replies := ?_, held := ?_, stage := stage_serve once held open_ replies, given := ?_ }
  · intro other reply' found
    rcases Traffic.held_of_update found with ⟨rfl, rfl⟩ | ⟨-, before⟩
    · exact ⟨who, held, expects_serve once held replies⟩
    · exact once.replies other reply' before
  · intro entry origin found
    rcases Holdings.after_eq_some found with before | ⟨-, flight, startedAt, value, entry', storing, same⟩
    · exact once.held entry origin before
    · cases same
      exact (once.sends id who flight startedAt value entry held storing).2
  · intro entry there
    obtain ⟨none_, found⟩ := once.given entry there
    exact ⟨none_, isSome_after once held found⟩

theorem once_begin (once : Once settings key start r) {call : ReadCall} (own : call.key = key)
    (fits : settings.Fits call) (free : r.traffic.travellers id = none)
    (warranted : ({ r.traffic with travellers := Function.update r.traffic.travellers id (some { call := call }) }
      : Traffic).Warranted) (verdicts : Nat → Option (Except Failure Int)) : Once settings key start { r with
        traffic := { r.traffic with
          travellers := Function.update r.traffic.travellers id (some { call := call }) }
        verdicts := verdicts } := by
  have before {other : Nat} {found : Traveller}
      (held : Function.update r.traffic.travellers id (some { call := call }) other = some found)
      (going : found.phase ≠ Coordinator.start) : r.traffic.travellers other = some found := by
    rcases Traffic.held_of_update held with ⟨rfl, rfl⟩ | ⟨-, before⟩
    · exact absurd rfl going
    · exact before
  have after {other : Nat} {found : Traveller} (held : r.traffic.travellers other = some found) :
      Function.update r.traffic.travellers id (some { call := call }) other = some found := by
    rw [Function.update_of_ne, held]
    rintro rfl
    cases free.symm.trans held
  -- A call that begins is at its first look-up, where nothing is asked of it.
  refine { once with warranted, calls := ?_, working := ?_, sends := ?_, replies := ?_, stage := ?_ }
  · intro other found held
    rcases Traffic.held_of_update held with ⟨rfl, rfl⟩ | ⟨-, before⟩
    · exact ⟨own, fits, rfl, nofun⟩
    · exact once.calls other found before
  · intro other found flight startedAt held computing
    exact once.working other found flight startedAt (before held (by rw [computing]; nofun)) computing
  · intro other found flight startedAt value entry held storing
    exact once.sends other found flight startedAt value entry (before held (by rw [storing]; nofun)) storing
  · intro other reply replies
    obtain ⟨found, held, expects⟩ := once.replies other reply replies
    exact ⟨found, after held, expects.grow ⟨rfl, fun _ _ led => led, fun _ _ known => known, fun _ got => got⟩⟩
  · cases once.stage with
    | idle none_ absent => exact .idle none_ absent
    | busy one absent held works => exact .busy one absent (after held) works
    | kept few there looks =>
      refine .kept few there fun other leader flight startedAt held looking => ?_
      exact looks other leader flight startedAt (before held (by rw [looking]; nofun)) looking

variable {cue : Cue} {step : Step}

/-- An execution begins only where there was none, and while nothing is held. -/
theorem idle_of_computing (once : Once settings key start r) (held : r.traffic.travellers id = some who)
    (listens : Listens settings start r id who.phase cue)
    (turn : Turn r.traffic.coordinator who.call who.phase cue step) {flight startedAt : Nat}
    (computing : step.phase = .computing flight startedAt) :
    r.traffic.executions = [] ∧ r.held key = none := by
  obtain ⟨looks, replies⟩ := computing_of_listens once held listens turn computing
  cases once.stage with
  | idle none_ absent => exact ⟨none_, absent⟩
  | busy one absent held' works =>
    -- Whoever works leads, so that it would be the call that looks the key up.
    cases once.alone held (by rw [looks]; rfl) held' works.lead
    cases held.symm.trans held'
    rcases works with phase | ⟨-, value, entry, phase⟩
    · cases looks.symm.trans phase
    · cases looks.symm.trans phase
  | kept few there missed => exact absurd replies (missed id who flight startedAt held looks)

theorem executions_of_ne_computing (other : ∀ flight startedAt, step.phase ≠ .computing flight startedAt) :
    (r.traffic.move id who cue step).executions = r.traffic.executions := by
  unfold Traffic.move
  dsimp only
  split
  · next flight startedAt computing => exact absurd computing (other flight startedAt)
  · rfl

theorem stage_hear (once : Once settings key start r) (held : r.traffic.travellers id = some who)
    (listens : Listens settings start r id who.phase cue)
    (steps : r.traffic.coordinator.step? who.call who.phase cue = some step) :
    Stage key { r with
      traffic := r.traffic.move id who cue step
      replies := Function.update r.replies id none } := by
  have turn := turn_of_step? steps
  by_cases computing : ∃ flight startedAt, step.phase = .computing flight startedAt
  · obtain ⟨flight, startedAt, computing⟩ := computing
    obtain ⟨none_, absent⟩ := idle_of_computing once held listens turn computing
    have one : (r.traffic.move id who cue step).executions = [flight] := by
      simp only [Traffic.move, computing, none_]
    exact .busy one absent (Function.update_self id _ r.traffic.travellers) (.inl computing)
  · have same : (r.traffic.move id who cue step).executions = r.traffic.executions :=
      executions_of_ne_computing fun flight startedAt phase => computing ⟨flight, startedAt, phase⟩
    cases once.stage with
    | idle none_ absent => exact .idle (same.trans none_) absent
    | @busy leader flight startedAt found one absent held' works =>
      by_cases own : leader = id
      · subst own
        cases held.symm.trans held'
        -- The call that works stores what it computed; once it has sent it, it waits for the server.
        rcases works with phase | ⟨waits, value, entry, phase⟩
        · have stores := stores_of_computed once held phase listens steps
          exact .busy (same.trans one) absent (Function.update_self leader _ r.traffic.travellers)
            (.inr ⟨Function.update_self leader _ r.replies, stores⟩)
        · rw [phase] at listens
          cases listens with
          | stored answered => exact absurd waits answered
      · exact .busy (same.trans one) absent ((Function.update_of_ne own _ _).trans held')
          (works.imp_right fun sent => ⟨(Function.update_of_ne own _ _).trans sent.1, sent.2⟩)
    | kept few there missed =>
      refine .kept (by rwa [same]) there fun other leader flight startedAt held' looking replies => ?_
      rcases Traffic.held_of_update held' with ⟨rfl, rfl⟩ | ⟨apart, before⟩
      · exact (Traffic.held_of_erase replies).1 rfl
      · exact missed other leader flight startedAt before looking (Traffic.held_of_erase replies).2

theorem results_hear (once : Once settings key start r) (held : r.traffic.travellers id = some who)
    (listens : Listens settings start r id who.phase cue) {flight : Nat} {result : Except Failure Value}
    (known : (r.traffic.move id who cue step).results flight = some result) :
    flight ∈ r.traffic.executions ∧ ∃ value, result = .ok value := by
  by_cases computing : ∃ startedAt, who.phase = .computing flight startedAt
  · obtain ⟨startedAt, computing⟩ := computing
    rw [computing] at listens
    cases listens with
    | @computed _ _ now value keeps =>
      rw [Traffic.results_move_of_computed computing] at known
      exact ⟨once.working id who flight startedAt held computing, value, (Option.some.inj known).symm⟩
  · rw [Traffic.results_move_of_ne fun startedAt phase => computing ⟨startedAt, phase⟩] at known
    exact once.results flight result known

theorem sound_of_storing (once : Once settings key start r) (held : r.traffic.travellers id = some who)
    (listens : Listens settings start r id who.phase cue)
    (turn : Turn r.traffic.coordinator who.call who.phase cue step) {flight startedAt : Nat} {value : Value}
    {entry : CacheEntry} (storing : step.phase = .storing flight startedAt value entry) :
    flight ∈ r.traffic.executions ∧ Sound settings start (r.traffic.move id who cue step) entry := by
  obtain ⟨computing, ⟨payload, back, encoded', decoded⟩, ⟨now, rfl⟩, encoded⟩ :=
    storing_of_listens listens turn storing
  rw [once.same] at encoded
  cases encoded'.symm.trans encoded
  refine ⟨once.working id who flight startedAt held computing, ⟨back, decoded⟩, .inr ⟨flight, value, ?_, encoded⟩⟩
  exact Traffic.results_move_of_computed computing

theorem once_hear (once : Once settings key start r) (held : r.traffic.travellers id = some who)
    (listens : Listens settings start r id who.phase cue)
    (steps : r.traffic.coordinator.step? who.call who.phase cue = some step)
    (warranted : (r.traffic.move id who cue step).Warranted) :
    Once settings key start { r with
      traffic := r.traffic.move id who cue step
      replies := Function.update r.replies id none } := by
  have turn := turn_of_step? steps
  have grows := Traffic.grows_move once.warranted held turn
  have ordinary := once.calls id who held
  -- The other calls are where they were; the one that heard something is led on by its turn.
  constructor
  · exact warranted
  · exact turn.books.1.trans once.same
  · exact unmarked_of_turn once.unmarked turn
  · intro other found held'
    rcases Traffic.held_of_update held' with ⟨rfl, rfl⟩ | ⟨-, before⟩
    · refine ⟨ordinary.key, ordinary.fits, ?_, ne_discard once listens turn⟩
      have stays := ordinary.stays
      generalize who.phase = phase at listens
      cases listens <;> exact stays
    · exact once.calls other found before
  · intro flight leader call led
    rcases Traffic.leaders_move turn flight with same | ⟨-, -, own⟩
    · exact once.leaders flight leader call (same.symm.trans led)
    · cases own.symm.trans led
      exact ordinary.fits
  · intro flight landed
    rcases Traffic.landings_of_move landed with down | before
    · exact ne_abandoned listens turn flight down
    · exact once.landings flight before
  · intro flight result known
    obtain ⟨begun, value⟩ := results_hear once held listens known
    exact ⟨(Traffic.executions_move flight).2 (.inl begun), value⟩
  · intro place entry member
    unfold Traffic.move at member
    dsimp only at member
    split at member
    · next found =>
      rcases List.mem_cons.1 member with same | before
      · cases same
        generalize who.phase = phase at listens
        cases listens with
        | found sound => exact sound.grow grows
      · exact (once.retrieved place entry before).grow grows
    · exact (once.retrieved place entry member).grow grows
  · intro other found flight startedAt held' computing
    apply (Traffic.executions_move flight).2
    rcases Traffic.held_of_update held' with ⟨rfl, rfl⟩ | ⟨-, before⟩
    · exact .inr ⟨startedAt, computing⟩
    · exact .inl (once.working other found flight startedAt before computing)
  · intro other found flight startedAt value entry held' storing
    rcases Traffic.held_of_update held' with ⟨rfl, rfl⟩ | ⟨-, before⟩
    · obtain ⟨begun, sound⟩ := sound_of_storing once held listens turn storing
      exact ⟨(Traffic.executions_move flight).2 (.inl begun), sound⟩
    · obtain ⟨begun, sound⟩ := once.sends other found flight startedAt value entry before storing
      exact ⟨(Traffic.executions_move flight).2 (.inl begun), sound.grow grows⟩
  · intro other reply replies
    obtain ⟨apart, before⟩ := Traffic.held_of_erase replies
    obtain ⟨found, held', expects⟩ := once.replies other reply before
    exact ⟨found, (Function.update_of_ne apart _ _).trans held', expects.grow grows⟩
  · intro entry origin found
    exact (once.held entry origin found).grow grows
  · exact stage_hear once held listens steps
  · intro entry there
    obtain ⟨none_, found⟩ := once.given entry there
    refine ⟨?_, found⟩
    rw [executions_of_ne_computing, none_]
    intro flight startedAt computing
    rw [(idle_of_computing once held listens turn computing).2] at found
    cases found

end

/-- What is asked of an event: it is steady, and the entry of a call that begins can be made. -/
def Event.Fair (settings : CoordinatorSettings) (key : String) (event : Event) : Prop :=
  event.Steady settings key ∧ ∀ id call, event = .begin id call → settings.Fits call

theorem once_shift (once : Once settings key start r) (fair : event.Fair settings key) (shift : Shift r event r') :
    Once settings key start r' := by
  obtain ⟨steady, fits⟩ := fair
  obtain ⟨e, traffic, hears⟩ := shift.traffic
  have warranted : r'.traffic.Warranted := by
    refine Traffic.warranted_shift once.warranted (fun failure fails => ?_) traffic
    obtain ⟨id, cue, heard, fails'⟩ := hears failure fails
    exact mild_of_heard once steady heard fails'
  -- What is not steady does not happen: no invalidation, no loss at the server, no expiry of the key.
  cases shift with
  | idle => exact once
  | @serves id fate who reply own held open_ replies =>
    subst own
    obtain rfl : fate = .done := steady
    exact once_serve once held open_ replies
  | hears heard held steps => exact once_hear once held (listens_of_heard once steady heard held steps) steps warranted
  | @drives e verdicts drives fewer =>
    cases drives with
    | @begin id call free =>
      have begun : r.traffic.act (.begin id call) = { r.traffic with
          travellers := Function.update r.traffic.travellers id (some { call := call }) } := by
        simp [Traffic.act, free]
      rw [begun] at warranted ⊢
      exact once_begin once steady (fits id call rfl) free warranted verdicts
    | invalidate => cases steady
    | verdict => cases steady
    | wake => cases steady
    | quit => cases steady
  | purges own =>
    subst own
    cases steady
  | refuses own =>
    subst own
    cases steady
  | expires own =>
    subst own
    cases steady

end Remote

end QueryCache
