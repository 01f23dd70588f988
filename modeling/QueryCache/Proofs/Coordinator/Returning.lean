import Mathlib.Algebra.Order.BigOperators.Group.Finset
import QueryCache.Proofs.Coordinator.Once

/-! Every call of a key returns, and all with one result.

A call that waits for the cache, for a renewal or for its computation goes on when that comes, and
one that waits for a flight goes on when its leader is through. Each such event brings one call
nearer to its end, so that there are only so many of them. -/

set_option autoImplicit false

namespace QueryCache

namespace Remote

variable {settings : CoordinatorSettings} {key : String} {start : Option CacheEntry} {r r' : Remote}
  {event : Event}

/-! ## What every call gives -/

/-- The one value of a key: it was there from the beginning, or the one execution gave it, and it may
have been stored and read back. -/
def Gives (settings : CoordinatorSettings) (start : Option CacheEntry) (r : Remote) (value : Value) : Prop :=
  (∃ entry, start = some entry ∧ r.traffic.executions = [] ∧
    settings.codec.decode entry.payload = .ok value) ∨
  ∃ flight computed, start = none ∧ r.traffic.executions = [flight] ∧
    r.traffic.results flight = some (.ok computed) ∧
    (value = computed ∨ ∃ payload, settings.codec.encode computed = .ok payload ∧
      settings.codec.decode payload = .ok value)

theorem Once.few (once : Once settings key start r) : r.traffic.executions.length ≤ 1 := by
  cases once.stage with
  | idle none_ => simp [none_]
  | busy one => simp [one]
  | kept few => exact few

theorem Once.own (once : Once settings key start r) {flight : Nat} {computed : Value}
    (result : r.traffic.results flight = some (.ok computed)) :
    start = none ∧ r.traffic.executions = [flight] := by
  have begun := (once.results flight _ result).1
  constructor
  · cases there : start with
    | none => rfl
    | some entry =>
      rw [(once.given entry there).1] at begun
      cases begun
  · obtain ⟨one, same⟩ := List.length_eq_one_iff.1
      (Nat.le_antisymm once.few (List.length_pos_of_mem begun))
    rw [same, List.mem_singleton] at begun
    rw [same, begun]

theorem gives_of_finished (once : Once settings key start r) {id : Nat} {who : Traveller}
    {outcome : Except Failure Value} (held : r.traffic.travellers id = some who)
    (ended : who.phase = .finished outcome) : ∃ value, outcome = .ok value ∧ r.Gives settings start value := by
  have stands := once.warranted.stands id who held
  unfold Traffic.Stands at stands
  rw [ended] at stands
  rcases stands with grounded | ⟨-, flight, -, leader, call, value, led, -, endless⟩
  · -- A value has one of two sources, the record that is held or the one computation; the other ways to end need
    -- a failure, and nothing fails here.
    cases grounded with
    | @retrieved value got =>
      obtain ⟨entry, member, decoded⟩ := got
      rw [once.same] at decoded
      refine ⟨value, rfl, ?_⟩
      rcases (once.retrieved _ entry member).2 with there | ⟨flight, computed, result, encoded⟩
      · exact .inl ⟨entry, there, (once.given entry there).1, decoded⟩
      · obtain ⟨absent, one⟩ := once.own result
        exact .inr ⟨flight, computed, absent, one, result, .inr ⟨entry.payload, encoded, decoded⟩⟩
    | @computed flight value took result =>
      obtain ⟨absent, one⟩ := once.own result
      exact ⟨value, rfl, .inr ⟨flight, value, absent, one, result, .inl rfl⟩⟩
    | failed took result =>
      obtain ⟨-, value, same⟩ := once.results _ _ result
      cases same
    | cancelled asked => cases asked.symm.trans (once.calls id who held).stays
    | gaveUp led result =>
      obtain ⟨-, value, same⟩ := once.results _ _ result
      cases same
  · have fits := once.leaders flight leader call led
    rw [CoordinatorSettings.Fits, Coordinator.lifetime] at fits
    rw [Coordinator.lifetime, once.same] at endless
    rw [endless] at fits
    cases fits

end Remote

/-! ## Every call comes to its end -/

-- The numbers bound how many cues a call still hears, if nobody that it waits for goes away.
def Phase.toDo : Phase → Nat
  | .finished _ => 0
  | .waiting _ | .storing _ _ _ _ | .refresh _ _ => 1
  | .computing _ _ => 2
  | .discard (.leading _ _) => 3
  | .lookup (.leading _ _) => 4
  | .discard (.joining _) => 5
  | .lookup (.joining _) => 6

theorem Phase.toDo_le (phase : Phase) : phase.toDo ≤ 6 := by
  unfold toDo
  split <;> decide

theorem going_of_step? {c : Coordinator} {call : ReadCall} {phase : Phase} {cue : Cue} {step : Step}
    (steps : c.step? call phase cue = some step) (outcome : Except Failure Value) :
    phase ≠ .finished outcome := by
  rintro rfl
  cases cue <;> cases steps

/-- Every turn brings a call nearer to its end, unless the leader that it waited for went away. -/
theorem Turn.toDo_lt {c : Coordinator} {call : ReadCall} {phase : Phase} {cue : Cue} {step : Step}
    (turn : Turn c call phase cue step) (going : ∀ outcome, phase ≠ .finished outcome)
    (stays : cue ≠ .landed .abandoned) : step.phase.toDo < phase.toDo := by
  -- To join or to lead is to leave a look-up of one who does not lead.
  have missed {next : Phase} (missed : Missed phase cue) (lead : phase.lead? = none) (small : next.toDo ≤ 4) :
      next.toDo < phase.toDo := by
    have large : 5 ≤ phase.toDo := by
      cases missed with
      | absent role | unreachable role | dropped role | kept role =>
        cases role with
        | joining first => simp [Phase.toDo]
        | leading => cases lead
    omega
  have ended {outcome : Except Failure Value} : (Phase.finished outcome).toDo < phase.toDo := by
    cases phase with
    | finished outcome => exact absurd rfl (going outcome)
    | lookup role | discard role => cases role <;> simp [Phase.toDo]
    | _ => simp [Phase.toDo]
  cases turn with
  | pursues pursues next =>
    subst next
    generalize step.phase = next at pursues
    cases pursues with
    | @discards role => cases role <;> simp [Phase.toDo]
    | @renews role => cases role <;> simp [Phase.toDo]
    | computes missed lead =>
      cases missed with
      | absent role | unreachable role | dropped role | kept role =>
        cases role with
        | joining first => cases lead
        | leading => simp [Phase.toDo]
    | stores => simp [Phase.toDo]
    | restarts => exact absurd rfl stays
  | joins none_ lead _ next =>
    rw [next]
    exact missed none_ lead (by simp [Phase.toDo])
  | leads none_ lead _ next =>
    rw [next]
    exact missed none_ lead (Nat.le_refl _)
  | ends _ _ next =>
    rw [next]
    exact ended
  | lands _ _ next =>
    rw [next]
    exact ended

namespace Remote

variable {settings : CoordinatorSettings} {key : String} {start : Option CacheEntry} {r r' : Remote}
  {event : Event}

/-- How much there is to come for a call; its request is dealt with before it is answered. -/
def weight (r : Remote) (id : Nat) : Nat :=
  match r.traffic.travellers id with
  | some who => 2 * who.phase.toDo + if (r.replies id).isSome then 0 else 1
  | none => 0

theorem weight_le (r : Remote) (id : Nat) : r.weight id ≤ 13 := by
  unfold weight
  split
  · next who _ =>
    have small := who.phase.toDo_le
    split <;> omega
  · omega

theorem weight_of_same {id : Nat} (travellers : r'.traffic.travellers id = r.traffic.travellers id)
    (replies : r'.replies id = r.replies id) : r'.weight id = r.weight id := by
  rw [weight, weight, travellers, replies]

theorem Event.Proper.steady (proper : event.Proper settings) (key : String) : event.Steady settings key := by
  cases event with
  | begin => cases proper
  | _ => exact proper

/-- What happens brings one call nearer to its end, and leaves the others where they are. -/
theorem weight_shift (once : Once settings key start r) (proper : event.Proper settings) (shift : Shift r event r') :
    r' = r ∨ (∃ id, (r.traffic.travellers id).isSome ∧ r'.weight id < r.weight id ∧
      ∀ other, other ≠ id → r'.weight other = r.weight other) ∧
      ∀ id, (r'.traffic.travellers id).isSome → (r.traffic.travellers id).isSome := by
  cases shift with
  | idle => exact .inl rfl
  | @serves id fate who reply own held open_ replies =>
    refine .inr ⟨⟨id, by simp [held], ?_, fun other apart => ?_⟩, fun _ known => known⟩
    · simp [weight, held, open_]
    · exact weight_of_same rfl (Function.update_of_ne apart _ _)
  | @hears id who cue step heard held steps =>
    have listens := listens_of_heard once (proper.steady key) heard held steps
    have stays : cue ≠ .landed .abandoned := by
      rintro rfl
      generalize who.phase = phase at listens
      cases listens with
      | told other => exact other rfl
    have nearer := (turn_of_step? steps).toDo_lt (going_of_step? steps) stays
    refine .inr ⟨⟨id, by simp [held], ?_, fun other apart => ?_⟩, fun other known => ?_⟩
    · have own : Function.update r.traffic.travellers id (some (who.after cue step.phase)) id =
          some (who.after cue step.phase) := Function.update_self ..
      simp only [weight, Traffic.move, own, held, Function.update_self, Traveller.after_phase]
      simp only [Option.isSome_none, Bool.false_eq_true, if_false]
      split <;> omega
    · exact weight_of_same (Function.update_of_ne apart _ _) (Function.update_of_ne apart _ _)
    · by_cases own : other = id
      · simp [own, held]
      · rwa [show (r.traffic.move id who cue step).travellers other = _ from Function.update_of_ne own _ _] at known
  | drives drives => cases drives <;> cases proper
  | purges own =>
    subst own
    cases proper
  | refuses own =>
    subst own
    cases proper
  | expires own =>
    subst own
    cases proper

/-- Events one after the other, of which each changes something. -/
def Lively (r : Remote) : List Event → Prop
  | [] => True
  | event :: rest => r.act event ≠ r ∧ (r.act event).Lively rest

theorem lively_length_le (ids : Finset Nat) (more : List Event) :
    ∀ r, Once settings key start r → (∀ id, (r.traffic.travellers id).isSome → id ∈ ids) →
      (∀ event ∈ more, event.Proper settings) → r.Lively more → more.length ≤ ∑ id ∈ ids, r.weight id := by
  induction more with
  | nil => exact fun _ _ _ _ _ => Nat.zero_le _
  | cons event rest ih =>
    rintro r once all proper ⟨changes, lively⟩
    have here : event.Proper settings := proper event (by simp)
    have shift := shift_act r event
    have fair : event.Fair settings key := by
      refine ⟨here.steady key, ?_⟩
      rintro id call rfl
      cases here
    -- The sum drops by what the one call that moves has less to do.
    rcases weight_shift once here shift with same | ⟨⟨id, known, less, others⟩, fewer⟩
    · exact absurd same changes
    · have bound := ih (r.act event) (once_shift once fair shift) (fun id known => all id (fewer id known))
        (fun event member => proper event (by simp [member])) lively
      have drop : ∑ id ∈ ids, (r.act event).weight id < ∑ id ∈ ids, r.weight id := by
        refine Finset.sum_lt_sum (fun other _ => ?_) ⟨id, all id known, less⟩
        by_cases own : other = id
        · rw [own]
          exact Nat.le_of_lt less
        · exact Nat.le_of_eq (others other own)
      rw [List.length_cons]
      omega

section

variable {id : Nat} {who : Traveller} {cue : Cue} {step : Step}

theorem deliver_ne (held : r.traffic.travellers id = some who)
    (steps : r.traffic.coordinator.step? who.call who.phase cue = some step) (stays : cue ≠ .landed .abandoned) :
    r.deliver id cue ≠ r := by
  intro same
  have nearer := (turn_of_step? steps).toDo_lt (going_of_step? steps) stays
  have after : (r.deliver id cue).traffic.travellers id = some (who.after cue step.phase) := by
    simp only [deliver, held, steps]
    exact Function.update_self id _ r.traffic.travellers
  rw [same, held] at after
  have phase := congrArg Traveller.phase (Option.some.inj after)
  rw [Traveller.after_phase] at phase
  rw [← phase] at nearer
  exact Nat.lt_irrefl _ nearer

theorem serve_ne (held : r.traffic.travellers id = some who) (open_ : r.replies id = none) {reply : Reply}
    (replies : r.held.reply? .done who.call.key who.phase = some reply) : r.serve id .done ≠ r := by
  intro same
  have after : (r.serve id .done).replies id = some reply := by
    simp only [serve, held, open_, replies]
    exact Function.update_self id _ r.replies
  rw [same, open_] at after
  cases after

theorem goes_on_of_asking (once : Once settings key start r) (held : r.traffic.travellers id = some who)
    {asked : Reply} (asks : r.held.reply? .done who.call.key who.phase = some asked) :
    ∃ event : Event, event.Proper settings ∧ r.act event ≠ r := by
  cases answered : r.replies id with
  -- The server has not dealt with the request, or the answer is on its way.
  | none => exact ⟨.serve id .done, rfl, serve_ne held answered asks⟩
  | some reply =>
    refine ⟨.answer id, trivial, ?_⟩
    obtain ⟨who', held', expects⟩ := once.replies id reply answered
    cases held.symm.trans held'
    have steps : ∃ step, r.traffic.coordinator.step? who.call who.phase reply.cue = some step := by
      generalize who.phase = phase at expects
      cases expects with
      | missing => exact ⟨_, rfl⟩
      | found => exact ⟨_, rfl⟩
      | stored => exact ⟨_, rfl⟩
    obtain ⟨step, steps⟩ := steps
    simp only [act, answered]
    apply deliver_ne held steps
    intro same
    cases reply <;> cases same

/-- A call that waits for no other call goes on. -/
theorem goes_on_of_busy (once : Once settings key start r) {value : Value} (keeps : settings.Keeps value)
    (held : r.traffic.travellers id = some who) (going : ∀ outcome, who.phase ≠ .finished outcome)
    (alone : ∀ flight, who.phase ≠ .waiting flight) : ∃ event : Event, event.Proper settings ∧ r.act event ≠ r := by
  cases phase : who.phase with
  | lookup role => exact goes_on_of_asking once held (by rw [phase]; rfl)
  | discard role => exact absurd phase ((once.calls id who held).keeps role)
  | refresh role value =>
    have steps : r.traffic.coordinator.step? who.call who.phase (.renewed (.ok true)) =
        some (r.traffic.coordinator.afterRefresh who.call role value (.ok true)) := by
      rw [phase]
      rfl
    exact ⟨.renewed id (.ok true), nofun, deliver_ne held steps nofun⟩
  | waiting flight => exact absurd phase (alone flight)
  | computing flight startedAt =>
    let now := Binary64.ofInt 0
    have steps : r.traffic.coordinator.step? who.call who.phase (.computed now (.ok value)) =
        some (r.traffic.coordinator.afterComputing now who.call flight startedAt (.ok value)) := by
      rw [phase]
      rfl
    exact ⟨.computed id now (.ok value), ⟨value, rfl, keeps⟩, deliver_ne held steps nofun⟩
  | storing flight startedAt value entry => exact goes_on_of_asking once held (by rw [phase]; rfl)
  | finished outcome => exact absurd phase (going outcome)

/-- As long as a call is not over, it goes on, or another does. -/
theorem goes_on (once : Once settings key start r) {value : Value} (keeps : settings.Keeps value)
    (held : r.traffic.travellers id = some who) (going : ∀ outcome, who.phase ≠ .finished outcome) :
    ∃ event : Event, event.Proper settings ∧ r.act event ≠ r := by
  by_cases waiting : ∃ flight, who.phase = .waiting flight
  · obtain ⟨flight, waiting⟩ := waiting
    have orderly := once.warranted.orderly
    cases landed : r.traffic.landings flight with
    | some landing =>
      have told : r.traffic.landingFor? id = some landing :=
        Traffic.landingFor?_eq_some.2 ⟨who, flight, held, waiting, landed⟩
      refine ⟨.told id, trivial, ?_⟩
      simp only [act, told]
      refine deliver_ne held (by rw [waiting]; rfl) ?_
      rintro ⟨⟩
      exact once.landings flight landed
    | none =>
      -- The flight has a leader, and a leader never waits for another call.
      obtain ⟨leader, ahead, startedAt, held', -, lead⟩ :=
        orderly.led _ _ ((orderly.waits id who flight held waiting).2 landed)
      refine goes_on_of_busy once keeps held' ?_ ?_
      · intro outcome ended
        rw [ended] at lead
        cases lead
      · intro other waits
        rw [waits] at lead
        cases lead
  · exact goes_on_of_busy once keeps held going fun flight phase => waiting ⟨flight, phase⟩

end

/-- However many calls of one key interleave over a cache that does what it is asked, while nothing
is cancelled, invalidated or over: one of them computes at most, and all give that one result. As
long as one is not over something goes on, and what goes on for so many calls ends. -/
theorem computes_once (settings : CoordinatorSettings) (key : String) (held : String → Option CacheEntry)
    (events : List Event)
    (decodes : ∀ entry, held key = some entry → ∃ back, settings.codec.decode entry.payload = .ok back)
    (steady : ∀ event ∈ events, event.Steady settings key)
    (fits : ∀ id call, .begin id call ∈ events → settings.Fits call) :
    let r := (initial settings held).run events
    r.traffic.executions.length ≤ 1 ∧
    (∀ id who outcome, r.traffic.travellers id = some who → who.phase = .finished outcome →
      ∃ value, outcome = .ok value ∧ r.Gives settings (held key) value) ∧
    (∀ value, settings.Keeps value → ∀ id who, r.traffic.travellers id = some who →
      (∀ outcome, who.phase ≠ .finished outcome) → ∃ event : Event, event.Proper settings ∧ r.act event ≠ r) ∧
    ∀ (ids : Finset Nat) more, (∀ id, (r.traffic.travellers id).isSome → id ∈ ids) →
      (∀ event ∈ more, event.Proper settings) → r.Lively more → more.length ≤ 13 * ids.card := by
  intro r
  have fair : ∀ event ∈ events, event.Fair settings key := by
    refine fun event member => ⟨steady event member, ?_⟩
    rintro id call rfl
    exact fits id call member
  -- One invariant carries all four parts.
  have once : Once settings key (held key) r :=
    run_shifts (fun _ _ _ fair once shift => once_shift once fair shift) (once_initial settings key held decodes)
      events fair
  refine ⟨once.few, fun id who outcome => gives_of_finished once, ?_, ?_⟩
  · exact fun value keeps id who held going => goes_on once keeps held going
  · intro ids more all proper lively
    calc more.length ≤ ∑ id ∈ ids, r.weight id := lively_length_le ids more r once all proper lively
      _ ≤ ids.card • 13 := Finset.sum_le_card_nsmul ids _ 13 fun id _ => r.weight_le id
      _ = 13 * ids.card := by rw [Nat.nsmul_eq_mul, Nat.mul_comm]

theorem keeps_int : ({} : CoordinatorSettings).Keeps (.int 1) := by
  have back : ((({} : CoordinatorSettings).codec.encode (.int 1)).bind fun payload =>
      ({} : CoordinatorSettings).codec.decode payload).isOk = true := by
    decide +kernel
  cases encoded : ({} : CoordinatorSettings).codec.encode (.int 1) with
  | error e =>
    rw [encoded] at back
    cases back
  | ok payload =>
    cases decoded : ({} : CoordinatorSettings).codec.decode payload with
    | error e =>
      rw [encoded] at back
      simp [Except.bind, decoded, Except.isOk, Except.toBool] at back
    | ok value => exact ⟨payload, value, encoded, decoded⟩

/-- The second call missed before the first one stored, and leads after it has left. -/
def lateMiss : List Event :=
  [.begin 0 { key := "k", tags := ["t"] }, .begin 1 { key := "k", tags := ["t"] }, .serve 0 .done, .serve 1 .done,
    .answer 0, .serve 0 .done, .answer 0, .computed 0 (Binary64.ofInt 1000) (.ok (.int 1)), .serve 0 .done,
    .answer 0, .answer 1, .serve 1 .done, .answer 1]

theorem computes_once_lateMiss :
    (∀ event ∈ lateMiss, event.Steady {} "k") ∧
    ((initial {} fun _ => none).run lateMiss).traffic.executions = [0] ∧
    ∃ who value, ((initial {} fun _ => none).run lateMiss).traffic.travellers 1 = some who ∧
      who.phase = .finished (.ok value) ∧
        Gives {} none ((initial {} fun _ => none).run lateMiss) value := by
  have steady : ∀ event ∈ lateMiss, event.Steady {} "k" := by
    simp only [lateMiss, List.forall_mem_cons, Event.Steady, Event.Proper, true_and]
    exact ⟨⟨.int 1, rfl, keeps_int⟩, fun _ => nofun⟩
  have fits : ∀ id call, .begin id call ∈ lateMiss → ({} : CoordinatorSettings).Fits call := by
    intro id call member
    have own : call = { key := "k", tags := ["t"] } := by
      simp only [lateMiss, List.mem_cons, Event.begin.injEq, reduceCtorEq, List.not_mem_nil, or_false] at member
      exact member.elim (·.2) (·.2)
    subst own
    unfold CoordinatorSettings.Fits
    decide +kernel
  have gives := (computes_once {} "k" (fun _ => none) lateMiss nofun steady fits).2.1
  have ended : (((initial {} fun _ => none).run lateMiss).traffic.outcome? 1).isSome = true := by decide +kernel
  obtain ⟨outcome, own⟩ := Option.isSome_iff_exists.1 ended
  obtain ⟨who, held, phase⟩ := Traffic.outcome?_eq_some.1 own
  obtain ⟨value, same, one⟩ := gives 1 who outcome held phase
  exact ⟨steady, by decide +kernel, who, value, held, same ▸ phase, one⟩

/-- Two calls one after the other, whose entries are to live for longer than the clock can tell. -/
def overlong : List Event :=
  let call : ReadCall := { key := "k", tags := ["t"], ttl := some (.whole (10 ^ 200 * 10 ^ 200)) }
  [.begin 0 call, .serve 0 .done, .answer 0, .serve 0 .done, .answer 0,
    .computed 0 (Binary64.ofInt 1000) (.ok (.int 1)), .begin 1 call, .serve 1 .done, .answer 1, .serve 1 .done,
    .answer 1, .computed 1 (Binary64.ofInt 1000) (.ok (.int 1))]

/-- Both compute, and both fail. -/
theorem overlong_computes_twice :
    (¬ ∀ (settings : CoordinatorSettings) (key : String) (held : String → Option CacheEntry) (events : List Event),
      (∀ entry, held key = some entry → ∃ back, settings.codec.decode entry.payload = .ok back) →
      (∀ event ∈ events, event.Steady settings key) →
      ((initial settings held).run events).traffic.executions.length ≤ 1) ∧
    ¬ ∀ (settings : CoordinatorSettings) (key : String) (held : String → Option CacheEntry) (events : List Event),
      (∀ entry, held key = some entry → ∃ back, settings.codec.decode entry.payload = .ok back) →
      (∀ event ∈ events, event.Steady settings key) →
      ∀ id who outcome, ((initial settings held).run events).traffic.travellers id = some who →
        who.phase = .finished outcome → ∃ value, outcome = .ok value := by
  have steady : ∀ event ∈ overlong, event.Steady {} "k" := by
    simp only [overlong, List.forall_mem_cons, Event.Steady, Event.Proper, true_and]
    exact ⟨⟨.int 1, rfl, keeps_int⟩, ⟨.int 1, rfl, keeps_int⟩, fun _ => nofun⟩
  constructor
  · intro claim
    have few := claim {} "k" (fun _ => none) overlong nofun steady
    have twice : ((initial {} fun _ => none).run overlong).traffic.executions.length = 2 := by decide +kernel
    omega
  · intro claim
    have fails : (((initial {} fun _ => none).run overlong).traffic.outcome? 0).any (!·.isOk) = true := by
      decide +kernel
    obtain ⟨outcome, own, broken⟩ := (Option.any_eq_true _ _).1 fails
    obtain ⟨who, held, phase⟩ := Traffic.outcome?_eq_some.1 own
    obtain ⟨value, rfl⟩ := claim {} "k" (fun _ => none) overlong nofun steady 0 who outcome held phase
    cases broken

end Remote

end QueryCache
