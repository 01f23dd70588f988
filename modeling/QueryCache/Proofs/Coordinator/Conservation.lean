import QueryCache.Proofs.Coordinator.Traffic
import Mathlib.Data.List.Perm.Subperm

/-! What a coordinator counts of its calls, however they interleave.

A call counts as a hit or as a miss when its first look-up is over, and never again, however often it
starts over. Only calls that missed compute, and only those that computed write, each once at most. So the
counts are the lengths of lists of calls without repetitions, each among the one before it. -/

set_option autoImplicit false

namespace QueryCache

/-! ## One step -/

/-- How far a call has come. -/
inductive Stage where
  /-- At its first look-up. -/
  | first
  /-- Past it: waiting for another call, or looking the key up again. -/
  | later
  | computing
  | storing
  | answered
  | failed
  deriving DecidableEq

def Role.stage : Role → Stage
  | .joining true => .first
  | .joining false | .leading _ _ => .later

def Phase.stage : Phase → Stage
  | .lookup role | .discard role | .refresh role _ => role.stage
  | .waiting _ => .later
  | .computing _ _ => .computing
  | .storing _ _ _ _ => .storing
  | .finished (.ok _) => .answered
  | .finished (.error _) => .failed

/-- What a call counts as. -/
inductive Mark where
  | hit
  | miss
  | execution
  | write
  deriving DecidableEq

def Metrics.marked (m : Metrics) : Option Mark → Metrics
  | none => m
  | some .hit => m.hit
  | some .miss => m.miss
  | some .execution => m.execution
  | some .write => m.write

/-- The counts of hits, misses, executions and writes. -/
def Metrics.ofCalls (m : Metrics) : Int × Int × Int × Int := (m.hits, m.misses, m.executions, m.writes)

/-- What a call counts as when it gets from one stage to another. -/
inductive Advances : Stage → Option Mark → Stage → Prop where
  | seeks : Advances .first none .first
  | hits : Advances .first (some .hit) .answered
  | misses : Advances .first (some .miss) .later
  | waits : Advances .later none .later
  | executes : Advances .later (some .execution) .computing
  | stores : Advances .computing none .storing
  | writes : Advances .storing (some .write) .answered
  | answers {stage : Stage} : stage ≠ .first → Advances stage none .answered
  | fails {stage : Stage} : Advances stage none .failed

theorem Role.advances (role : Role) : Advances role.stage none role.stage := by
  rcases role with ⟨_ | _⟩ | _
  · exact .waits
  · exact .seeks
  · exact .waits

/-- A step of a call counts it as one thing, or not at all. -/
structure Counts (c : Coordinator) (stage : Stage) (step : Step) (mark : Option Mark) : Prop where
  metrics : step.coordinator.metrics.ofCalls = (c.metrics.marked mark).ofCalls
  advances : Advances stage mark step.phase.stage

namespace Counts

variable {c : Coordinator} {stage : Stage} {step : Step} {mark : Option Mark}

theorem reporting (counts : Counts c stage step mark) (records : List LogRecord) :
    Counts c stage (step.reporting records) mark :=
  ⟨counts.metrics, counts.advances⟩

/-- An error that is counted beside it changes nothing. -/
theorem of_error (counts : Counts (c.count Metrics.error) stage step mark) : Counts c stage step mark := by
  refine ⟨counts.metrics.trans ?_, counts.advances⟩
  rcases mark with _ | _ | _ | _ | _ <;> rfl

end Counts

namespace Coordinator

variable {c : Coordinator} {call : ReadCall} {phase : Phase} {cue : Cue} {step : Step} {role : Role}
  {stage : Stage}

theorem counts_fail (role : Role) (landing : Landing) (e : Failure) :
    Counts c stage (c.finish call role landing (.error e)) none := by
  cases role <;> exact ⟨rfl, .fails⟩

theorem counts_succeed (role : Role) (value : Value) (late : stage ≠ .first) :
    Counts c stage (c.succeed call role value) none := by
  cases role <;> exact ⟨rfl, .answers late⟩

theorem counts_hit (role : Role) (value : Value) : ∃ mark, Counts c role.stage (c.hit call role value) mark := by
  cases role with
  | joining first =>
    cases first with
    | true => exact ⟨some .hit, rfl, .hits⟩
    | false => exact ⟨none, rfl, .answers nofun⟩
  | leading flight startedAt => exact ⟨none, rfl, .answers nofun⟩

/-- A call that joins a flight or takes the lead is past its first look-up. -/
theorem join_stage (c : Coordinator) (call : ReadCall) :
    (c.join call).phase.stage = .later ∧ (c.join call).coordinator.metrics.ofCalls = c.metrics.ofCalls := by
  unfold Coordinator.join
  split
  · exact ⟨rfl, rfl⟩
  · exact ⟨rfl, rfl⟩

theorem counts_miss (role : Role) : ∃ mark, Counts c role.stage (c.miss call role) mark := by
  cases role with
  | joining first =>
    cases first with
    | true =>
      obtain ⟨later, metrics⟩ := join_stage (c.count Metrics.miss) call
      have counts : Counts c .first ((c.count Metrics.miss).join call) (some .miss) :=
        ⟨metrics, by rw [later]; exact .misses⟩
      exact ⟨_, counts.reporting _⟩
    | false =>
      obtain ⟨later, metrics⟩ := join_stage c call
      exact ⟨none, metrics, by rw [miss, later]; exact .waits⟩
  | leading flight startedAt => exact ⟨some .execution, rfl, .executes⟩

theorem counts_survive {failure : Failure} {report : String} {next : Coordinator → Step} (role : Role)
    (goes : ∀ c, ∃ mark, Counts c stage (next c) mark) :
    ∃ mark, Counts c stage (c.survive call role failure report next) mark := by
  unfold survive
  split
  · obtain ⟨mark, counts⟩ := goes (c.count Metrics.error)
    exact ⟨mark, (counts.reporting _).of_error⟩
  · exact ⟨none, counts_fail role _ failure⟩

theorem counts_afterLookup (role : Role) (reply : Except Failure (Option CacheEntry)) :
    ∃ mark, Counts c role.stage (c.afterLookup call role reply) mark := by
  unfold afterLookup
  split
  · exact counts_survive role fun _ => counts_miss role
  · exact counts_miss role
  · split
    · exact ⟨none, rfl, role.advances⟩
    · split
      · exact ⟨none, rfl, role.advances⟩
      · exact counts_hit role _

theorem counts_store (now : Time) (flight startedAt : Nat) (value : Value) :
    Counts c .computing (c.store now call flight startedAt value) none := by
  unfold store
  dsimp only
  split
  · exact (counts_succeed (.leading flight startedAt) value (by nofun)).reporting _
  · split
    · exact ((counts_succeed (.leading flight startedAt) value (by nofun)).reporting _).of_error
    · split
      · exact ⟨rfl, .stores⟩
      · exact counts_fail (.leading flight startedAt) _ _

/-- Every step counts its call as at most one thing, and as what fits how far the call has come. -/
theorem exists_counts_of_step? (steps : c.step? call phase cue = some step) :
    ∃ mark, Counts c phase.stage step mark := by
  -- A call that is cancelled fails wherever it is; any other cue is taken in one phase only.
  unfold Coordinator.step? at steps
  split at steps
  · cases steps
  · next going =>
    cases steps
    cases phase with
    | lookup role | discard role | refresh role => exact ⟨none, counts_fail role _ _⟩
    | waiting => exact ⟨none, rfl, .fails⟩
    | computing flight startedAt | storing flight startedAt =>
      exact ⟨none, counts_fail (.leading flight startedAt) _ _⟩
    | finished outcome => exact absurd rfl (going outcome)
  · cases steps
    exact counts_afterLookup _ _
  · next role reply =>
    cases steps
    unfold afterDiscard
    split
    · exact counts_survive role fun _ => counts_miss role
    · exact counts_miss role
  · next role value reply =>
    cases steps
    unfold afterRefresh
    split
    · exact counts_survive role fun _ => counts_hit role value
    · exact counts_hit role value
  · next flight landing =>
    cases steps
    unfold afterLanding
    split
    · exact ⟨none, counts_succeed (.joining false) _ (by nofun)⟩
    · exact ⟨none, counts_fail (.joining false) _ _⟩
    · exact ⟨none, rfl, .waits⟩
  · next flight startedAt now result =>
    cases steps
    unfold afterComputing
    split
    · exact ⟨none, counts_store now flight startedAt _⟩
    · exact ⟨none, counts_fail (.leading flight startedAt) _ _⟩
    · exact ⟨none, counts_fail (.leading flight startedAt) _ _⟩
  · next flight startedAt value entry reply =>
    cases steps
    unfold afterStoring
    dsimp only
    split
    · exact counts_survive _ fun _ => ⟨none, counts_succeed _ value (by nofun)⟩
    · exact ⟨some .write, rfl, .writes⟩
  · cases steps

end Coordinator

/-! ## What follows from the stages -/

namespace Advances

variable {before after : Stage} {mark : Option Mark}

/-- A first look-up is over, and has not failed, when the call counts as a hit or as a miss. -/
theorem completes (advances : Advances before mark after) :
    (before = .first ∧ after ≠ .first ∧ after ≠ .failed) ↔ mark = some .hit ∨ mark = some .miss := by
  cases advances with
  | answers late => simp [late]
  | _ => simp

theorem starts (advances : Advances before mark after) : after = .computing ↔ mark = some .execution := by
  cases advances <;> simp

end Advances

/-! ## The calls behind the counts -/

/-- Calls advance in this order. -/
def Stage.rank : Stage → Nat
  | .first => 0
  | .later => 1
  | .computing => 2
  | .storing => 3
  | .answered | .failed => 4

theorem Advances.rank_le {before after : Stage} {mark : Option Mark} (advances : Advances before mark after) :
    before.rank ≤ after.rank := by
  cases advances with
  | answers | fails => cases before <;> decide
  | _ => decide

/-- A count is that of some calls, each counted once and at least as far as a rank. -/
structure Roll (stage : Nat → Stage) (rank : Nat) (count : Int) (calls : List Nat) : Prop where
  count : count = calls.length
  once : calls.Nodup
  reached : ∀ id ∈ calls, rank ≤ (stage id).rank

namespace Roll

variable {stage stage' : Nat → Stage} {rank : Nat} {count : Int} {calls : List Nat}

theorem keep (roll : Roll stage rank count calls) (grows : ∀ id, (stage id).rank ≤ (stage' id).rank) :
    Roll stage' rank count calls :=
  ⟨roll.count, roll.once, fun id member => Nat.le_trans (roll.reached id member) (grows id)⟩

theorem add {id : Nat} (roll : Roll stage rank count calls) (grows : ∀ id, (stage id).rank ≤ (stage' id).rank)
    (before : (stage id).rank < rank) (after : rank ≤ (stage' id).rank) :
    Roll stage' rank (count + 1) (calls ++ [id]) := by
  have fresh : id ∉ calls := fun member => absurd (roll.reached id member) (Nat.not_le.2 before)
  refine ⟨by simp [roll.count], ?_, ?_⟩
  · rw [List.nodup_append]
    exact ⟨roll.once, List.nodup_singleton id, fun a member b last => by
      rw [List.mem_singleton.1 last]
      rintro rfl
      exact fresh member⟩
  · intro other member
    rcases List.mem_append.1 member with member | last
    · exact (roll.keep grows).reached other member
    · rw [List.mem_singleton.1 last]
      exact after

theorem count_le {rank' : Nat} {count' : Int} {calls' : List Nat} (roll : Roll stage rank count calls)
    (roll' : Roll stage rank' count' calls') (among : calls ⊆ calls') : count ≤ count' := by
  rw [roll.count, roll'.count]
  exact Int.ofNat_le.2 (List.subperm_of_subset roll.once among).length_le

end Roll

/-- The calls that were counted, in the order they were. -/
structure Ledger where
  looked : List Nat := []
  missed : List Nat := []
  executed : List Nat := []
  wrote : List Nat := []

def Ledger.note (book : Ledger) (id : Nat) : Option Mark → Ledger
  | none => book
  | some .hit => { book with looked := book.looked ++ [id] }
  | some .miss => { book with looked := book.looked ++ [id], missed := book.missed ++ [id] }
  | some .execution => { book with executed := book.executed ++ [id] }
  | some .write => { book with wrote := book.wrote ++ [id] }

/-- The counts of a coordinator are those of the calls of a ledger. Calls past their first look-up that go
on have missed, and those past the start of their computation have been counted for it. -/
structure Ledger.Accounts (book : Ledger) (m : Metrics) (stage : Nat → Stage) : Prop where
  looked : Roll stage 1 (m.hits + m.misses) book.looked
  missed : Roll stage 1 m.misses book.missed
  executed : Roll stage 2 m.executions book.executed
  wrote : Roll stage 4 m.writes book.wrote
  later : ∀ id, stage id = .later → id ∈ book.missed
  computing : ∀ id, stage id = .computing ∨ stage id = .storing → id ∈ book.executed
  executedMissed : book.executed ⊆ book.missed
  wroteExecuted : book.wrote ⊆ book.executed

namespace Ledger

variable {book : Ledger} {m m' : Metrics} {stage : Nat → Stage} {after : Stage} {id : Nat} {mark : Option Mark}

theorem missed_subset_note : book.missed ⊆ (book.note id mark).missed := by
  rcases mark with _ | _ | _ | _ | _ <;> simp [note]

theorem executed_subset_note : book.executed ⊆ (book.note id mark).executed := by
  rcases mark with _ | _ | _ | _ | _ <;> simp [note]

theorem Accounts.of_counts (accounts : book.Accounts m stage) (same : m'.ofCalls = m.ofCalls) :
    book.Accounts m' stage := by
  cases m'
  simp only [Metrics.ofCalls, Prod.mk.injEq] at same
  obtain ⟨rfl, rfl, rfl, rfl⟩ := same
  exact ⟨accounts.looked, accounts.missed, accounts.executed, accounts.wrote, accounts.later, accounts.computing,
    accounts.executedMissed, accounts.wroteExecuted⟩

/-- A call that advances and goes on past its first look-up has missed, now or before. -/
theorem Accounts.mem_missed (accounts : book.Accounts m stage) (advances : Advances (stage id) mark after)
    (other : Nat) (now : Function.update stage id after other = .later) : other ∈ (book.note id mark).missed := by
  rw [Function.update_apply] at now
  split at now
  · next own =>
    subst own now
    have before := accounts.later other
    generalize stage other = old at advances before
    cases advances with
    | misses => simp [note]
    | waits => exact before rfl
  · exact missed_subset_note (accounts.later other now)

/-- One past the start of its computation has been counted for it. -/
theorem Accounts.mem_executed (accounts : book.Accounts m stage) (advances : Advances (stage id) mark after)
    (other : Nat) (now : Function.update stage id after other = .computing ∨
      Function.update stage id after other = .storing) : other ∈ (book.note id mark).executed := by
  rw [Function.update_apply] at now
  split at now
  · next own =>
    subst own
    have before := accounts.computing other
    generalize stage other = old at advances before
    cases advances with
    | executes => simp [note]
    | stores => exact before (.inl rfl)
    | _ => simp at now
  · exact executed_subset_note (accounts.computing other now)

/-- A call that advances is entered for what it counts as. -/
theorem Accounts.note (accounts : book.Accounts m stage) (advances : Advances (stage id) mark after)
    (same : m'.ofCalls = (m.marked mark).ofCalls) :
    (book.note id mark).Accounts m' (Function.update stage id after) := by
  have grows (other : Nat) : (stage other).rank ≤ (Function.update stage id after other).rank := by
    by_cases own : other = id
    · subst own
      rw [Function.update_self]
      exact advances.rank_le
    · exact Nat.le_of_eq (by rw [Function.update_of_ne own])
  have later (other : Nat) := accounts.mem_missed advances other
  have computing (other : Nat) := accounts.mem_executed advances other
  have here : Function.update stage id after id = after := Function.update_self ..
  generalize Function.update stage id after = stage' at grows here later computing ⊢
  generalize before : stage id = old at advances
  have looked := accounts.looked.keep grows
  have missed := accounts.missed.keep grows
  have executed := accounts.executed.keep grows
  have wrote := accounts.wrote.keep grows
  cases m'
  simp only [Metrics.ofCalls, Prod.mk.injEq] at same
  obtain ⟨rfl, rfl, rfl, rfl⟩ := same
  -- Whoever is entered now stood below the rank of that roll before, and so is not on it yet.
  cases mark with
  | none => exact ⟨looked, missed, executed, wrote, later, computing, accounts.executedMissed, accounts.wroteExecuted⟩
  | some mark =>
    cases advances with
    | hits =>
      have added := accounts.looked.add grows (by rw [before]; decide) (by rw [here]; decide)
      exact ⟨Int.add_right_comm .. ▸ added, missed, executed, wrote, later, computing, accounts.executedMissed,
        accounts.wroteExecuted⟩
    | misses =>
      have added := accounts.looked.add grows (by rw [before]; decide) (by rw [here]; decide)
      refine ⟨Int.add_assoc .. ▸ added, ?_, executed, wrote, later, computing, ?_, accounts.wroteExecuted⟩
      · exact accounts.missed.add grows (by rw [before]; decide) (by rw [here]; decide)
      · exact fun other member => missed_subset_note (accounts.executedMissed member)
    | executes =>
      refine ⟨looked, missed, ?_, wrote, later, computing, ?_, ?_⟩
      · exact accounts.executed.add grows (by rw [before]; decide) (by rw [here]; decide)
      · intro other member
        rcases List.mem_append.1 member with member | last
        · exact accounts.executedMissed member
        · exact List.mem_singleton.1 last ▸ accounts.later id before
      · exact fun other member => executed_subset_note (accounts.wroteExecuted member)
    | writes =>
      refine ⟨looked, missed, executed, ?_, later, computing, accounts.executedMissed, ?_⟩
      · exact accounts.wrote.add grows (by rw [before]; decide) (by rw [here]; decide)
      · intro other member
        rcases List.mem_append.1 member with member | last
        · exact accounts.wroteExecuted member
        · exact List.mem_singleton.1 last ▸ accounts.computing id (.inr before)

end Ledger

namespace Traffic

/-! ## Runs -/

/-- How far a call has come; one that is still to begin will be at its first look-up. -/
def stage (t : Traffic) (id : Nat) : Stage := (t.travellers id).elim .first fun who => who.phase.stage

/-- The call that hears of an event. -/
def Event.caller? : Event → Option Nat
  | .hear id _ | .told id => some id
  | _ => none

/-- The call whose first look-up an event completes: it is past it, and it has not failed at it. -/
def completed? (t : Traffic) (event : Event) : Option Nat :=
  event.caller?.filter fun id =>
    t.stage id = .first ∧ (t.act event).stage id ≠ .first ∧ (t.act event).stage id ≠ .failed

/-- The calls whose first look-ups are completed, in the order they are. -/
def completed (t : Traffic) : List Event → List Nat
  | [] => []
  | event :: rest => (t.completed? event).toList ++ (t.act event).completed rest

/-- What an event does to the counts of calls: nothing, or a call takes a step. -/
inductive Accounted (t : Traffic) (event : Event) : Traffic → Prop where
  | aside {t' : Traffic} : t'.coordinator.metrics.ofCalls = t.coordinator.metrics.ofCalls → t'.stage = t.stage →
      t'.executions = t.executions → Accounted t event t'
  | moves {id : Nat} {who : Traveller} {cue : Cue} {step : Step} : event.caller? = some id →
      t.travellers id = some who → t.coordinator.step? who.call who.phase cue = some step →
      Accounted t event (t.move id who cue step)

variable {t : Traffic} {event : Event}

theorem accounted_deliver {id : Nat} (cue : Cue) (own : event.caller? = some id) :
    Accounted t event (t.deliver id cue) := by
  unfold deliver
  split
  · next who held =>
    split
    · next step steps => exact .moves own held steps
    · exact .aside rfl rfl rfl
  · exact .aside rfl rfl rfl

theorem ofCalls_afterInvalidating (c : Coordinator) (tags : List String) (strict : Bool) (failures : Nat)
    (reply : Except Failure Int) :
    (c.afterInvalidating tags strict failures reply).coordinator.metrics.ofCalls = c.metrics.ofCalls := by
  unfold Coordinator.afterInvalidating
  dsimp only
  repeat' split
  all_goals rfl

theorem accounted_act (t : Traffic) (event : Event) : Accounted t event (t.act event) := by
  -- Only what a call hears moves a counter of calls; the others are aside.
  unfold act
  split
  · split
    · exact .aside rfl rfl rfl
    · next id call fresh =>
      refine .aside rfl (funext fun other => ?_) rfl
      have free : t.travellers id = none := by simpa using fresh
      by_cases own : other = id
      · subst own
        simp only [stage, free, Function.update_self]
        rfl
      · simp only [stage, Function.update_of_ne own]
  · exact .aside rfl rfl rfl
  · next id cue _ => exact accounted_deliver cue rfl
  · next id =>
    split
    · exact accounted_deliver _ rfl
    · exact .aside rfl rfl rfl
  · next id tags strict =>
    split
    · exact .aside rfl rfl rfl
    · dsimp only [follow, Coordinator.startInvalidation]
      split
      · exact .aside rfl rfl rfl
      · exact .aside rfl rfl rfl
  · next id reply =>
    split
    · split
      · exact .aside (ofCalls_afterInvalidating ..) rfl rfl
      · exact .aside rfl rfl rfl
    · exact .aside rfl rfl rfl
  · repeat' split
    all_goals exact .aside rfl rfl rfl
  · repeat' split
    all_goals exact .aside rfl rfl rfl
  · next reply =>
    refine .aside ?_ rfl rfl
    unfold Coordinator.afterForgetting
    repeat' split
    all_goals rfl
  · exact .aside rfl rfl rfl

theorem stage_move {id : Nat} {who : Traveller} {cue : Cue} {step : Step} :
    (t.move id who cue step).stage = Function.update t.stage id step.phase.stage := by
  funext other
  by_cases own : other = id
  · subst own
    simp [stage, move]
  · simp [stage, move, Function.update_of_ne own]

theorem stage_computing_iff {phase : Phase} :
    phase.stage = .computing ↔ ∃ flight startedAt, phase = .computing flight startedAt := by
  have seeking (role : Role) : role.stage ≠ .computing := by rcases role with ⟨_ | _⟩ | _ <;> nofun
  cases phase with
  | lookup role | discard role | refresh role => simpa [Phase.stage] using seeking role
  | finished outcome => cases outcome <;> simp [Phase.stage]
  | _ => simp [Phase.stage]

/-- A ledger that accounts for the calls so far, with an execution for each computation that was started. -/
structure Kept (t : Traffic) (book : Ledger) : Prop where
  accounts : book.Accounts t.coordinator.metrics t.stage
  started : book.executed.length = t.executions.length

theorem started_note {book : Ledger} {id : Nat} {who : Traveller} {cue : Cue} {step : Step} {mark : Option Mark}
    (started : book.executed.length = t.executions.length)
    (starts : step.phase.stage = .computing ↔ mark = some .execution) :
    (book.note id mark).executed.length = (t.move id who cue step).executions.length := by
  rw [stage_computing_iff] at starts
  unfold move
  dsimp only
  split
  · next flight startedAt computing =>
    obtain rfl := starts.1 ⟨flight, startedAt, computing⟩
    simp [Ledger.note, started]
  · next other =>
    have idle : mark ≠ some .execution := fun counted => by
      obtain ⟨flight, startedAt, computing⟩ := starts.2 counted
      exact other flight startedAt computing
    -- Only the mark of an execution makes the list of executions longer.
    rcases mark with _ | _ | _ | _ | _
    · exact started
    · exact started
    · exact started
    · exact absurd rfl idle
    · exact started

theorem looked_note {book : Ledger} {id : Nat} {mark : Option Mark} {P : Nat → Prop} [DecidablePred P]
    (completes : P id ↔ mark = some .hit ∨ mark = some .miss) :
    (book.note id mark).looked = book.looked ++ ((some id).filter fun id => P id).toList := by
  by_cases counted : mark = some .hit ∨ mark = some .miss
  · have done : ((some id).filter fun id => P id) = some id := by simp [completes.2 counted]
    rw [done]
    rcases counted with rfl | rfl <;> rfl
  · have pending : ((some id).filter fun id => P id) = none := by simp [mt completes.1 counted]
    rw [pending]
    rcases mark with _ | _ | _ | _ | _ <;> simp_all [Ledger.note]

/-- An event adds the call whose first look-up it completes to those that looked up. -/
theorem Kept.act {book : Ledger} (kept : t.Kept book) (event : Event) :
    ∃ book', (t.act event).Kept book' ∧ book'.looked = book.looked ++ (t.completed? event).toList := by
  unfold completed?
  have accounted := accounted_act t event
  generalize t.act event = t' at accounted ⊢
  cases accounted with
  | aside counts stage executions =>
    refine ⟨book, ⟨?_, ?_⟩, ?_⟩
    · rw [stage]
      exact kept.accounts.of_counts counts
    · rw [executions]
      exact kept.started
    · rw [stage]
      cases event.caller? with
      | none => simp
      | some id => simp +contextual
  | @moves id who cue step own held steps =>
    obtain ⟨mark, counts⟩ := Coordinator.exists_counts_of_step? steps
    have before : t.stage id = who.phase.stage := by simp [Traffic.stage, held]
    refine ⟨book.note id mark, ⟨?_, ?_⟩, ?_⟩
    · rw [stage_move]
      exact kept.accounts.note (before ▸ counts.advances) counts.metrics
    · exact started_note kept.started counts.advances.starts
    · rw [own]
      refine looked_note ?_
      rw [stage_move, Function.update_self, before]
      exact counts.advances.completes

theorem exists_kept {book : Ledger} (kept : t.Kept book) (events : List Event) :
    ∃ book', (t.run events).Kept book' ∧ book'.looked = book.looked ++ t.completed events := by
  induction events generalizing t book with
  | nil => exact ⟨book, kept, (List.append_nil _).symm⟩
  | cons event rest ih =>
    obtain ⟨next, kept, looked⟩ := kept.act event
    obtain ⟨last, kept, all⟩ := ih kept
    exact ⟨last, kept, by rw [all, looked, completed, List.append_assoc]⟩

theorem kept_initial (settings : CoordinatorSettings) : (initial settings).Kept {} := by
  have none_ (count : Nat) : Roll (initial settings).stage count 0 [] := ⟨rfl, .nil, nofun⟩
  exact ⟨⟨none_ 1, none_ 1, none_ 2, none_ 4, nofun, nofun, List.Subset.refl _, List.Subset.refl _⟩, rfl⟩

/-- Hits and misses count the calls whose first look-ups are completed, each of them once. There are no more
executions than misses and no more writes than executions, and an execution is counted for each computation
that was started. -/
theorem counts_conserved (settings : CoordinatorSettings) (events : List Event) :
    let t := (initial settings).run events
    let completed := (initial settings).completed events
    let counts := t.coordinator.metrics
    completed.Nodup ∧ counts.hits + counts.misses = completed.length ∧ counts.executions ≤ counts.misses ∧
      counts.writes ≤ counts.executions ∧ counts.executions = t.executions.length := by
  intro t completed counts
  obtain ⟨book, ⟨accounts, started⟩, looked⟩ := exists_kept (kept_initial settings) events
  have same : book.looked = completed := looked
  refine ⟨same ▸ accounts.looked.once, same ▸ accounts.looked.count, ?_, ?_, ?_⟩
  · exact accounts.executed.count_le accounts.missed accounts.executedMissed
  · exact accounts.wrote.count_le accounts.executed accounts.wroteExecuted
  · rw [← started]
    exact accounts.executed.count

end Traffic

end QueryCache
