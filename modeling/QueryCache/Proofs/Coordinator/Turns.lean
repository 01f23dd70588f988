import QueryCache.Proofs.Coordinator.Stops

/-! What a call does with what it hears.

A call waits at every operation of the cache, for its computation, and for the flight of another
call. It goes on when it hears what it waits for, or that its caller went away. The step that it
then takes is one of five turns, and a call that ends has one of ten grounds to end as it does;
what is proved of calls in any order rests on these alone. -/

set_option autoImplicit false

namespace QueryCache

/-- What a call hears. -/
inductive Cue where
  | found (reply : Except Failure (Option CacheEntry))
  | dropped (reply : Except Failure Bool)
  | renewed (reply : Except Failure Bool)
  | stored (reply : Except Failure Unit)
  | computed (now : Time) (result : Except Failure Value)
  | landed (landing : Landing)
  | cancelled

namespace Cue

-- Only what the cache answers can be a failure of the cache; a computation's own are not.
def failure? : Cue → Option Failure
  | .found (.error e) | .dropped (.error e) | .renewed (.error e) | .stored (.error e) => some e
  | _ => none

end Cue

/-- The flight that a call leads, with the number that it began under. -/
def Role.lead? : Role → Option (Nat × Nat)
  | .joining _ => none
  | .leading flight startedAt => some (flight, startedAt)

def Phase.lead? : Phase → Option (Nat × Nat)
  | .lookup role | .discard role | .refresh role _ => role.lead?
  | .computing flight startedAt | .storing flight startedAt _ _ => some (flight, startedAt)
  | .waiting _ | .finished _ => none

namespace Coordinator

/-- The step of a call that hears something, unless it waits for something else. -/
def step? (c : Coordinator) (call : ReadCall) : Phase → Cue → Option Step
  | .finished _, _ => none
  | phase, .cancelled => some (c.cancel call phase)
  | .lookup role, .found reply => some (c.afterLookup call role reply)
  | .discard role, .dropped reply => some (c.afterDiscard call role reply)
  | .refresh role value, .renewed reply => some (c.afterRefresh call role value reply)
  | .waiting _, .landed landing => some (c.afterLanding call landing)
  | .computing flight startedAt, .computed now result =>
    some (c.afterComputing now call flight startedAt result)
  | .storing flight startedAt value _, .stored reply =>
    some (c.afterStoring call flight startedAt value reply)
  | _, _ => none

end Coordinator

/-- Where the cache answers at once, the step that a call takes is the one it takes on hearing
the answer. -/
theorem Service.step?_of_interact {σ : Type} {cache : CacheStore σ} {call : ReadCall} {phase : Phase}
    {s s' : Service σ} {step : Step} (acts : interact cache call phase s = some (step, s')) :
    ∃ cue, s.coordinator.step? call phase cue = some step ∧ ∀ landing, cue ≠ .landed landing := by
  cases phase with
  | lookup role =>
    cases acts
    exact ⟨.found _, rfl, fun _ => nofun⟩
  | discard role =>
    cases acts
    exact ⟨.dropped _, rfl, fun _ => nofun⟩
  | refresh role value =>
    cases acts
    exact ⟨.renewed _, rfl, fun _ => nofun⟩
  | storing flight startedAt value entry =>
    cases acts
    exact ⟨.stored _, rfl, fun _ => nofun⟩
  | _ => cases acts

/-! ## What a step can be -/

/-- A look-up has found nothing. -/
inductive Missed : Phase → Cue → Prop where
  | absent (role : Role) : Missed (.lookup role) (.found (.ok none))
  | unreachable (role : Role) {e : Failure} : e.isUnavailable = true →
      Missed (.lookup role) (.found (.error e))
  | dropped (role : Role) (was : Bool) : Missed (.discard role) (.dropped (.ok was))
  | kept (role : Role) {e : Failure} : e.isUnavailable = true →
      Missed (.discard role) (.dropped (.error e))

/-- A call stays what it is, a leader or not, and waits for something else. -/
inductive Pursues (c : Coordinator) (call : ReadCall) : Phase → Cue → Phase → Prop where
  | discards {role : Role} {entry : CacheEntry} {e : Failure} :
      c.settings.codec.decode entry.payload = .error e →
      Pursues c call (.lookup role) (.found (.ok (some entry))) (.discard role)
  | renews {role : Role} {entry : CacheEntry} {value : Value} :
      c.settings.codec.decode entry.payload = .ok value →
      Pursues c call (.lookup role) (.found (.ok (some entry))) (.refresh role value)
  | computes {phase : Phase} {cue : Cue} {flight startedAt : Nat} : Missed phase cue →
      phase.lead? = some (flight, startedAt) →
      Pursues c call phase cue (.computing flight startedAt)
  | stores {flight startedAt : Nat} {now : Time} {value : Value} {entry : CacheEntry} :
      c.settings.codec.encode value = .ok entry.payload → entry.key = call.key →
      (∀ tag, tag ∈ entry.tags ↔ tag ∈ tagSet (call.tags ++ call.resultTags value)) →
      c.staleSince startedAt (tagSet (call.tags ++ call.resultTags value)) = false →
      Pursues c call (.computing flight startedAt) (.computed now (.ok value))
        (.storing flight startedAt value entry)
  | restarts {flight : Nat} :
      Pursues c call (.waiting flight) (.landed .abandoned) (.lookup (.joining false))

def tooLong : Failure := .overflow "int too large to convert to float"

theorem tooLong_of_create {now : Time} {key : String} {tags : List String} {payload : Bytes}
    {span : Option Number} {e : Failure}
    (refused : CacheEntry.create now key tags payload span = .error e) : e = tooLong := by
  unfold CacheEntry.create at refused
  generalize span.filter (fun span => !span.isZero) = span at refused
  cases span with
  | none => cases refused
  | some span =>
    cases known : now.after? span with
    | none =>
      simp only [Option.mapM_some, known, Failure.inRange] at refused
      cases refused
      rfl
    | some expiry =>
      simp only [Option.mapM_some, known, Failure.inRange] at refused
      cases refused

/-- Why a call ends the way it does, and what those who wait for its flight are told. -/
inductive Concludes (c : Coordinator) (call : ReadCall) :
    Phase → Cue → Except Failure Value → Landing → Prop where
  | hit {role : Role} {entry : CacheEntry} {value : Value} :
      c.settings.codec.decode entry.payload = .ok value →
      Concludes c call (.lookup role) (.found (.ok (some entry))) (.ok value) (.value value)
  | renewed {role : Role} {value : Value} {reply : Except Failure Bool} :
      Concludes c call (.refresh role value) (.renewed reply) (.ok value) (.value value)
  | told {flight : Nat} {landing : Landing} {outcome : Except Failure Value} :
      landing ≠ .abandoned → Service.tells landing outcome →
      Concludes c call (.waiting flight) (.landed landing) outcome landing
  | computed {flight startedAt : Nat} {now : Time} {value : Value} :
      Concludes c call (.computing flight startedAt) (.computed now (.ok value)) (.ok value) (.value value)
  | failed {flight startedAt : Nat} {now : Time} {e : Failure} : e ≠ .cancelled →
      Concludes c call (.computing flight startedAt) (.computed now (.error e)) (.error e) (.failed e)
  | gaveUp {flight startedAt : Nat} {now : Time} :
      Concludes c call (.computing flight startedAt) (.computed now (.error .cancelled))
        (.error .cancelled) .abandoned
  | unstorable {flight startedAt : Nat} {now : Time} {value : Value} :
      (c.lifetime call).toBinary? = none →
      Concludes c call (.computing flight startedAt) (.computed now (.ok value))
        (.error tooLong) (.failed tooLong)
  | stored {flight startedAt : Nat} {value : Value} {entry : CacheEntry} {reply : Except Failure Unit} :
      Concludes c call (.storing flight startedAt value entry) (.stored reply) (.ok value) (.value value)
  | cancelled {phase : Phase} : Concludes c call phase .cancelled (.error .cancelled) .abandoned
  | broken {phase : Phase} {cue : Cue} {e : Failure} : cue.failure? = some e →
      e.isUnavailable = false → Concludes c call phase cue (.error e) (.failed e)

-- What a call leads decides how it ends: with a flight to land, or without.
/-- What a call does with what it hears. -/
inductive Turn (c : Coordinator) (call : ReadCall) (phase : Phase) (cue : Cue) (step : Step) : Prop where
  | pursues {next : Phase} : Pursues c call phase cue next → step.phase = next → step.landing = none →
      SameBooks c step.coordinator → Turn c call phase cue step
  | joins {flight : Nat} : Missed phase cue → phase.lead? = none →
      Table.get? c.inflight call.key = some flight → step.phase = .waiting flight →
      step.landing = none → SameBooks c step.coordinator → Turn c call phase cue step
  | leads : Missed phase cue → phase.lead? = none → Table.get? c.inflight call.key = none →
      step.phase = .lookup (.leading c.nextFlight c.sequence) → step.landing = none →
      SameBooks (c.takeOff call.key) step.coordinator → Turn c call phase cue step
  | ends {outcome : Except Failure Value} {landing : Landing} :
      Concludes c call phase cue outcome landing → phase.lead? = none →
      step.phase = .finished outcome → step.landing = none → SameBooks c step.coordinator →
      Turn c call phase cue step
  | lands {outcome : Except Failure Value} {landing : Landing} {flight startedAt : Nat} :
      Concludes c call phase cue outcome landing → phase.lead? = some (flight, startedAt) →
      step.phase = .finished outcome → step.landing = some (flight, landing) →
      SameBooks (c.touchDown call.key flight) step.coordinator → Turn c call phase cue step

section

variable {c : Coordinator} {call : ReadCall} {phase : Phase} {cue : Cue} {step : Step}

theorem Concludes.tells {outcome : Except Failure Value} {landing : Landing}
    (why : Concludes c call phase cue outcome landing) : Service.tells landing outcome := by
  cases why with
  | told _ tells => exact tells
  | _ => rfl

theorem Pursues.lead {next : Phase} (pursues : Pursues c call phase cue next) :
    next.lead? = phase.lead? := by
  cases pursues with
  | computes _ lead => exact lead.symm
  | _ => rfl

theorem Pursues.ne_waiting {next : Phase} (pursues : Pursues c call phase cue next) (flight : Nat) :
    next ≠ .waiting flight := by
  cases pursues <;> simp

theorem Pursues.ne_leading {next : Phase} (pursues : Pursues c call phase cue next) (flight startedAt : Nat) :
    next ≠ .lookup (.leading flight startedAt) := by
  cases pursues <;> simp

/-- A turn leaves the books as they are, or opens one flight, or closes that of its call. -/
theorem Turn.change (turn : Turn c call phase cue step) : SameBooks c step.coordinator ∨
    SameBooks (c.takeOff call.key) step.coordinator ∨ ∃ flight startedAt,
      phase.lead? = some (flight, startedAt) ∧ SameBooks (c.touchDown call.key flight) step.coordinator := by
  cases turn with
  | pursues _ _ _ same => exact .inl same
  | joins _ _ _ _ _ same => exact .inl same
  | leads _ _ _ _ _ same => exact .inr (.inl same)
  | ends _ _ _ _ same => exact .inl same
  | lands _ lead _ _ same => exact .inr (.inr ⟨_, _, lead, same⟩)

theorem Turn.books (turn : Turn c call phase cue step) :
    step.coordinator.settings = c.settings ∧ step.coordinator.sequence = c.sequence ∧
      c.nextFlight ≤ step.coordinator.nextFlight := by
  rcases turn.change with same | same | ⟨flight, startedAt, -, same⟩
  · exact ⟨same.settings, same.sequence, Nat.le_of_eq same.nextFlight.symm⟩
  · exact ⟨same.settings, same.sequence, same.nextFlight ▸ Nat.le_succ _⟩
  · exact ⟨same.settings, same.sequence, Nat.le_of_eq same.nextFlight.symm⟩

/-- After a turn a call goes on as it was, waits for another, has begun a flight, or is over. -/
theorem Turn.phase_cases (turn : Turn c call phase cue step) : Pursues c call phase cue step.phase ∨
    (∃ flight, step.phase = .waiting flight) ∨
    (Missed phase cue ∧ step.phase = .lookup (.leading c.nextFlight c.sequence)) ∨
    ∃ outcome, step.phase = .finished outcome := by
  cases turn with
  | pursues pursues next =>
    subst next
    exact .inl pursues
  | joins _ _ _ next => exact .inr (.inl ⟨_, next⟩)
  | leads missed _ _ next => exact .inr (.inr (.inl ⟨missed, next⟩))
  | ends _ _ next => exact .inr (.inr (.inr ⟨_, next⟩))
  | lands _ _ next => exact .inr (.inr (.inr ⟨_, next⟩))

/-- Only as it was does a call come to drop an entry, to compute or to store. -/
theorem Turn.pursued (turn : Turn c call phase cue step) {next : Phase} (reached : step.phase = next)
    (deep : (∀ flight, next ≠ .waiting flight) ∧ (∀ role, next ≠ .lookup role) ∧
      ∀ outcome, next ≠ .finished outcome) : Pursues c call phase cue next := by
  subst reached
  rcases turn.phase_cases with pursues | ⟨flight, waits⟩ | ⟨-, leading⟩ | ⟨outcome, ended⟩
  · exact pursues
  · exact absurd waits (deep.1 flight)
  · exact absurd leading (deep.2.1 _)
  · exact absurd ended (deep.2.2 outcome)

/-- A call that leads after its turn led the same flight before, or has just begun it. -/
theorem Turn.lead (turn : Turn c call phase cue step) {flight startedAt : Nat}
    (lead : step.phase.lead? = some (flight, startedAt)) :
    phase.lead? = some (flight, startedAt) ∧ Pursues c call phase cue step.phase ∨
      Missed phase cue ∧ flight = c.nextFlight ∧ startedAt = c.sequence ∧
        step.phase = .lookup (.leading flight startedAt) := by
  rcases turn.phase_cases with pursues | ⟨number, waits⟩ | ⟨missed, leading⟩ | ⟨outcome, ended⟩
  · exact .inl ⟨pursues.lead ▸ lead, pursues⟩
  · rw [waits] at lead
    cases lead
  · rw [leading] at lead
    cases lead
    exact .inr ⟨missed, rfl, rfl, leading⟩
  · rw [ended] at lead
    cases lead

theorem Turn.landed (turn : Turn c call phase cue step) {flight : Nat} {landing : Landing}
    (down : step.landing = some (flight, landing)) : ∃ startedAt outcome,
      phase.lead? = some (flight, startedAt) ∧ Concludes c call phase cue outcome landing := by
  cases turn with
  | pursues _ _ open_ => cases down.symm.trans open_
  | joins _ _ _ _ open_ => cases down.symm.trans open_
  | leads _ _ _ _ open_ => cases down.symm.trans open_
  | ends _ _ _ open_ => cases down.symm.trans open_
  | lands why lead _ own =>
    cases down.symm.trans own
    exact ⟨_, _, lead, why⟩

theorem Turn.reporting {records : List LogRecord} (turn : Turn c call phase cue step) :
    Turn c call phase cue (step.reporting records) := by
  cases turn with
  | pursues pursues next landing same => exact .pursues pursues next landing same
  | joins missed lead found next landing same => exact .joins missed lead found next landing same
  | leads missed lead free next landing same => exact .leads missed lead free next landing same
  | ends why lead next landing same => exact .ends why lead next landing same
  | lands why lead next landing same => exact .lands why lead next landing same

theorem turn_of_finish (role : Role) {outcome : Except Failure Value} {landing : Landing} {c' : Coordinator}
    (same : SameBooks c c') (lead : phase.lead? = role.lead?)
    (why : Concludes c call phase cue outcome landing) :
    Turn c call phase cue (c'.finish call role landing outcome) := by
  cases role with
  | joining first => exact .ends why lead rfl rfl same
  | leading flight startedAt => exact .lands why lead rfl rfl (same.touchDown call.key flight)

theorem turn_of_miss {role : Role} {c' : Coordinator} (same : SameBooks c c')
    (lead : phase.lead? = role.lead?) (missed : Missed phase cue) :
    Turn c call phase cue (c'.miss call role) := by
  -- The books may have been counted in before, so that the join is not one of `c` itself.
  have join {c' : Coordinator} (same : SameBooks c c') (lead : phase.lead? = none) :
      Turn c call phase cue (c'.join call) := by
    unfold Coordinator.join
    split
    · next flight found =>
      rw [same.inflight] at found
      exact .joins missed lead found rfl rfl (same.trans (.count _ _))
    · next free =>
      rw [same.inflight] at free
      refine .leads missed lead free ?_ rfl (same.takeOff call.key)
      rw [same.nextFlight, same.sequence]
  cases role with
  | joining first =>
    cases first with
    | true => exact (join (same.trans (.count _ _)) lead).reporting
    | false => exact join same lead
  | leading flight startedAt => exact .pursues (.computes missed lead) rfl rfl (same.trans (.count _ _))

theorem turn_of_survive {role : Role} {e : Failure} {report : String} {next : Coordinator → Step}
    (lead : phase.lead? = role.lead?) (failure : cue.failure? = some e)
    (survives : e.isUnavailable = true → Turn c call phase cue (next (c.count Metrics.error))) :
    Turn c call phase cue (c.survive call role e report next) := by
  unfold Coordinator.survive
  cases away : e.isUnavailable with
  | true => exact (survives away).reporting
  -- Any other failure of the cache ends the call.
  | false => exact turn_of_finish role (.refl c) lead (.broken failure away)

theorem turn_of_hit {role : Role} {value : Value} {c' : Coordinator} (same : SameBooks c c')
    (lead : phase.lead? = role.lead?)
    (why : Concludes c call phase cue (.ok value) (.value value)) :
    Turn c call phase cue (c'.hit call role value) := by
  cases role with
  | joining first =>
    cases first with
    | true => exact (turn_of_finish _ (same.trans (.count _ _)) lead why).reporting
    | false => exact (turn_of_finish _ same lead why).reporting
  | leading flight startedAt => exact turn_of_finish _ same lead why

theorem turn_afterLookup (c : Coordinator) (call : ReadCall) (role : Role)
    (reply : Except Failure (Option CacheEntry)) :
    Turn c call (.lookup role) (.found reply) (c.afterLookup call role reply) := by
  unfold Coordinator.afterLookup
  split
  · next e =>
    exact turn_of_survive rfl rfl fun away => turn_of_miss (.count _ _) rfl (.unreachable role away)
  · exact turn_of_miss (.refl c) rfl (.absent role)
  · next entry =>
    split
    · next e undecodable => exact .pursues (.discards undecodable) rfl rfl (.count _ _)
    · next value decoded =>
      split
      · exact .pursues (.renews decoded) rfl rfl (.refl c)
      · exact turn_of_hit (.refl c) rfl (.hit decoded)

theorem turn_afterComputing (c : Coordinator) (call : ReadCall) (now : Time) (flight startedAt : Nat)
    (result : Except Failure Value) :
    Turn c call (.computing flight startedAt) (.computed now result)
      (c.afterComputing now call flight startedAt result) := by
  unfold Coordinator.afterComputing
  split
  · next value =>
    unfold Coordinator.store
    dsimp only
    split
    · exact (turn_of_finish (.leading flight startedAt) (.refl c) rfl .computed).reporting
    · next fresh =>
      split
      · exact (turn_of_finish (.leading flight startedAt) (.count _ _) rfl .computed).reporting
      · next payload encoded =>
        -- Of making an entry only its span can go wrong.
        cases created : CacheEntry.create now call.key (tagSet (call.tags ++ call.resultTags value)) payload
            (some (c.lifetime call)) with
        | ok entry =>
          obtain ⟨expiry, -, same⟩ := Outcome.bind_eq_ok.1 created
          cases same
          exact .pursues (.stores encoded rfl (fun tag => mem_tagSet) (by simpa using fresh)) rfl rfl (.refl c)
        | error e =>
          obtain rfl : e = tooLong := tooLong_of_create created
          exact turn_of_finish (.leading flight startedAt) (.refl c) rfl (.unstorable (Service.lifetime_of_create_eq_error created))
  · exact turn_of_finish (.leading flight startedAt) (.refl c) rfl .gaveUp
  · next e other => exact turn_of_finish (.leading flight startedAt) (.refl c) rfl (.failed fun same => other same)

theorem turn_cancel (c : Coordinator) (call : ReadCall) (going : ∀ outcome, phase ≠ .finished outcome) :
    Turn c call phase .cancelled (c.cancel call phase) := by
  cases phase with
  | lookup role => exact turn_of_finish role (.refl c) rfl .cancelled
  | discard role => exact turn_of_finish role (.refl c) rfl .cancelled
  | refresh role value => exact turn_of_finish role (.refl c) rfl .cancelled
  | waiting flight => exact turn_of_finish (.joining false) (.refl c) rfl .cancelled
  | computing flight startedAt =>
    exact turn_of_finish (.leading flight startedAt) (.refl c) rfl .cancelled
  | storing flight startedAt value entry =>
    exact turn_of_finish (.leading flight startedAt) (.refl c) rfl .cancelled
  | finished outcome => exact absurd rfl (going outcome)

/-- Whatever a call hears, it takes one of the turns. -/
theorem turn_of_step? (steps : c.step? call phase cue = some step) : Turn c call phase cue step := by
  -- One case for each line of the definition, in its order.
  unfold Coordinator.step? at steps
  split at steps
  · cases steps
  · next going =>
    cases steps
    exact turn_cancel c call going
  · cases steps
    exact turn_afterLookup ..
  · next role reply =>
    cases steps
    unfold Coordinator.afterDiscard
    split
    · exact turn_of_survive rfl rfl fun away => turn_of_miss (.count _ _) rfl (.kept role away)
    · exact turn_of_miss (.refl c) rfl (.dropped role _)
  · cases steps
    unfold Coordinator.afterRefresh
    split
    · exact turn_of_survive rfl rfl fun _ => turn_of_hit (.count _ _) rfl .renewed
    · exact turn_of_hit (.refl c) rfl .renewed
  · cases steps
    unfold Coordinator.afterLanding
    split
    · exact turn_of_finish (.joining false) (.refl c) rfl (.told nofun rfl)
    · exact turn_of_finish (.joining false) (.refl c) rfl (.told nofun rfl)
    · exact .pursues .restarts rfl rfl (.refl c)
  · cases steps
    exact turn_afterComputing ..
  · next flight startedAt value entry reply =>
    cases steps
    unfold Coordinator.afterStoring
    dsimp only
    split
    · exact turn_of_survive rfl rfl fun _ =>
        turn_of_finish (.leading flight startedAt) (.count _ _) rfl .stored
    · exact turn_of_finish (.leading flight startedAt) (.count _ _) rfl .stored
  · cases steps

end

end QueryCache
