import Mathlib.Data.List.Induction
import Mathlib.Data.List.Nodup
import QueryCache.Cleanup

/-! Which resources the calls of `close` on one owner release.

A call finds a lock that no other call holds or waits for, or it waits for its turn. Only the first
call of all releases anything: what was registered before it began, the latest first. Whatever is
registered later is never released, by no call. -/

set_option autoImplicit false

namespace QueryCache

/-- What happens to an owner. -/
inductive OwnerEvent where
  /-- Something is registered, if there is something. -/
  | register (r : Option Resource)
  /-- A call of `close` begins. -/
  | close
  /-- The call of `close` whose turn it is goes on to the next release, or returns. -/
  | step

namespace OwnerEvent

def resource? : OwnerEvent → Option Resource
  | .register r => r
  | _ => none

def isClose : OwnerEvent → Bool
  | .close => true
  | _ => false

/-- The resources that events register, each once, in the order in which they come. -/
def registered (events : List OwnerEvent) : List Resource := (events.filterMap resource?).eraseDups

/-- The resources that are registered before the first call of `close` begins. -/
def early (events : List OwnerEvent) : List Resource := registered (events.takeWhile (!·.isClose))

/-- Resources of one name are one resource. -/
def AreDistinct (resources : List Resource) : Prop :=
  ∀ a ∈ resources, ∀ b ∈ resources, a.name = b.name → a = b

instance (resources : List Resource) : Decidable (AreDistinct resources) :=
  inferInstanceAs (Decidable (∀ a ∈ resources, ∀ b ∈ resources, a.name = b.name → a = b))

variable {events : List OwnerEvent} {event : OwnerEvent} {r : Resource}

theorem mem_registered : r ∈ registered events ↔ OwnerEvent.register (some r) ∈ events := by
  rw [registered, List.mem_eraseDups, List.mem_filterMap]
  constructor
  · rintro ⟨event, member, own⟩
    cases event with
    | register given =>
      cases own
      exact member
    | close => cases own
    | step => cases own
  · exact fun member => ⟨_, member, rfl⟩

theorem registered_append_of_none (none_ : event.resource? = none) :
    registered (events ++ [event]) = registered events := by
  simp [registered, none_]

theorem registered_append (events : List OwnerEvent) (r : Resource) :
    registered (events ++ [.register (some r)]) =
      if r ∈ registered events then registered events else registered events ++ [r] := by
  have left : [r].removeAll (events.filterMap resource?) = if r ∈ registered events then [] else [r] := by
    by_cases known : r ∈ events.filterMap resource?
    · rw [if_pos (show r ∈ registered events from List.mem_eraseDups.2 known), List.removeAll, List.filter_singleton]
      simp only [List.elem_eq_mem, known, decide_true, Bool.not_true, cond_false]
    · rw [if_neg (show r ∉ registered events from mt List.mem_eraseDups.1 known), List.removeAll, List.filter_singleton]
      simp only [List.elem_eq_mem, known, decide_false, Bool.not_false, cond_true]
  have single : [OwnerEvent.register (some r)].filterMap resource? = [r] := rfl
  rw [registered, List.filterMap_append, List.eraseDups_append, single, left, ← registered]
  split
  · exact List.append_nil _
  · rfl

/-- The first call of `close` is this one, or one before it. -/
theorem exists_first_close (before after : List OwnerEvent) :
    ∃ rest, before ++ .close :: after = before.takeWhile (!·.isClose) ++ .close :: rest := by
  induction before with
  | nil => exact ⟨after, rfl⟩
  | cons event events ih =>
    obtain ⟨rest, split⟩ := ih
    cases event with
    | close => exact ⟨events ++ .close :: after, rfl⟩
    | register given => exact ⟨rest, congrArg (OwnerEvent.register given :: ·) split⟩
    | step => exact ⟨rest, congrArg (OwnerEvent.step :: ·) split⟩

end OwnerEvent

/-- The calls of methods that release resources in their order; what has none of these methods is
passed over. -/
def Resource.releases (resources : List Resource) : List (String × String) :=
  resources.filterMap fun r => r.release?.map fun method => (r.name, method.1)

/-- An owner and the calls of `close` on it, which get their turns in the order in which they begin. -/
structure Shutdown where
  owner : Owner := {}
  /-- How many calls have begun. -/
  begun : Nat := 0
  /-- How many of them have returned. -/
  ended : Nat := 0

namespace Shutdown

open OwnerEvent Resource

variable {w : Shutdown} {event : OwnerEvent} {events : List OwnerEvent} {r : Resource}
  {resources : List Resource}

/-- The call whose turn it is has gone on; unless it is still closing, it returns. -/
def goOn (w : Shutdown) (owner : Owner) : Shutdown :=
  { w with owner := owner, ended := if owner.closing.isNone then w.ended + 1 else w.ended }

def act (w : Shutdown) : OwnerEvent → Shutdown
  | .register none => w
  | .register (some r) => { w with owner := w.owner.register r }
  | .close =>
    let called := { w with begun := w.begun + 1 }
    if w.begun = w.ended then called.goOn w.owner.startClosing else called
  | .step =>
    if w.begun = w.ended then w
    else w.goOn (if w.owner.closing.isSome then w.owner.step else w.owner.startClosing)

def run (w : Shutdown) (events : List OwnerEvent) : Shutdown := events.foldl act w

/-- The calls of methods of a resource. -/
def invocations (w : Shutdown) (r : Resource) : List (String × String) :=
  w.owner.calls.filter (·.1 == r.name)

/-! ## A call by itself -/

/-- Either a call has its turn and is closing, or all calls have returned. -/
theorem owner_run_steps (count : Nat) (w : Shutdown)
    (turn : w.begun = if w.owner.closing.isSome then w.ended + 1 else w.ended) :
    (w.run (List.replicate count .step)).owner = Owner.steps count w.owner := by
  induction count generalizing w with
  | zero => rfl
  | succ count ih =>
    rw [List.replicate_succ, Owner.steps]
    change ((w.act .step).run (List.replicate count .step)).owner = _
    cases closing : w.owner.closing with
    | none =>
      have idle : w.owner.step = w.owner := by simp [Owner.step, closing]
      have returned : w.begun = w.ended := by simpa [closing] using turn
      rw [idle, act, if_pos returned]
      exact ih w turn
    | some c =>
      have ahead : w.begun = w.ended + 1 := by simpa [closing] using turn
      have going : w.act .step = w.goOn w.owner.step := by
        rw [act, if_neg (by omega), closing]
        rfl
      rw [going]
      refine ih (w.goOn w.owner.step) ?_
      change w.begun = if w.owner.step.closing.isSome then
        (if w.owner.step.closing.isNone then w.ended + 1 else w.ended) + 1
        else if w.owner.step.closing.isNone then w.ended + 1 else w.ended
      rw [ahead]
      cases w.owner.step.closing <;> rfl

/-- A call that finds the lock free and that nothing interrupts is a whole call of `close`. -/
theorem owner_run_close (free : w.begun = w.ended) :
    (w.run (.close :: List.replicate (w.owner.resources.length + 1) .step)).owner = w.owner.close := by
  change ((w.act .close).run (List.replicate (w.owner.resources.length + 1) .step)).owner = _
  have called : w.act .close = { w with begun := w.begun + 1 }.goOn w.owner.startClosing := by
    rw [act, if_pos free]
  rw [called]
  refine owner_run_steps _ _ ?_
  change w.begun + 1 = if w.owner.startClosing.closing.isSome then
    (if w.owner.startClosing.closing.isNone then w.ended + 1 else w.ended) + 1
    else if w.owner.startClosing.closing.isNone then w.ended + 1 else w.ended
  rw [free]
  cases w.owner.startClosing.closing <;> rfl

/-! ## Before the first call -/

/-- No call of `close` has begun, and these resources are registered. -/
structure Untouched (resources : List Resource) (w : Shutdown) : Prop where
  begun : w.begun = 0
  ended : w.ended = 0
  closed : w.owner.closed = false
  calls : w.owner.calls = []
  held : w.owner.resources = resources
  unique : (resources.map Resource.name).Nodup

theorem Untouched.act (untouched : Untouched (registered events) w) (quiet : event.isClose = false)
    (distinct : AreDistinct (registered (events ++ [event]))) :
    Untouched (registered (events ++ [event])) (w.act event) := by
  cases event with
  | close => cases quiet
  | step =>
    rw [registered_append_of_none rfl, Shutdown.act, if_pos (untouched.begun.trans untouched.ended.symm)]
    exact untouched
  | register given =>
    cases given with
    | none =>
      rw [registered_append_of_none rfl]
      exact untouched
    | some r =>
      obtain ⟨begun, ended, closed, calls, held, unique⟩ := untouched
      have own : r ∈ registered (events ++ [.register (some r)]) := mem_registered.2 (by simp)
      have earlier {a : Resource} (member : a ∈ registered events) :
          a ∈ registered (events ++ [.register (some r)]) :=
        mem_registered.2 (List.mem_append_left _ (mem_registered.1 member))
      -- A name is taken by the resource itself, or by none.
      have taken : (w.owner.resources.any (·.name == r.name)) = true ↔ r ∈ registered events := by
        rw [held, List.any_eq_true]
        constructor
        · rintro ⟨a, member, same⟩
          rw [← distinct a (earlier member) r own (beq_iff_eq.1 same)]
          exact member
        · exact fun member => ⟨r, member, beq_self_eq_true _⟩
      rw [registered_append]
      change Untouched _ { w with owner := w.owner.register r }
      by_cases known : r ∈ registered events
      · rw [if_pos known, Owner.register, if_pos (taken.2 known)]
        exact ⟨begun, ended, closed, calls, held, unique⟩
      · rw [if_neg known, Owner.register, if_neg (mt taken.1 known)]
        refine ⟨begun, ended, closed, calls, congrArg (· ++ [r]) held, ?_⟩
        rw [List.map_append, List.map_cons, List.map_nil, ← List.concat_eq_append, List.nodup_concat]
        refine ⟨fun member => known ?_, unique⟩
        obtain ⟨a, inside, same⟩ := List.mem_map.1 member
        exact distinct a (earlier inside) r own same ▸ inside

theorem untouched_run (quiet : ∀ event ∈ events, event.isClose = false)
    (distinct : AreDistinct (registered events)) : Untouched (registered events) (run {} events) := by
  induction events using List.reverseRecOn with
  | nil => exact ⟨rfl, rfl, rfl, rfl, rfl, List.nodup_nil⟩
  | append_singleton events event ih =>
    have earlier {a : Resource} (member : a ∈ registered events) : a ∈ registered (events ++ [event]) :=
      mem_registered.2 (List.mem_append_left _ (mem_registered.1 member))
    have before := ih (fun event member => quiet event (List.mem_append_left _ member))
      fun a inside b inside' => distinct a (earlier inside) b (earlier inside')
    rw [run, List.foldl_concat]
    exact before.act (quiet event (by simp)) distinct

/-! ## From the first call on -/

/-- The first call is releasing the resources, the latest first; what it has released and what it
still has to release makes up the whole. -/
structure Releasing (resources : List Resource) (c : Closing) (w : Shutdown) : Prop where
  waited : 0 < w.begun
  ended : w.ended = 0
  closed : w.owner.closed = false
  closing : w.owner.closing = some c
  calls : w.owner.calls ++ releases c.todo = releases resources.reverse

/-- The first call has returned. -/
structure Released (resources : List Resource) (w : Shutdown) : Prop where
  closed : w.owner.closed = true
  closing : w.owner.closing = none
  calls : w.owner.calls = releases resources.reverse

/-- Some call has begun. -/
def Underway (resources : List Resource) (w : Shutdown) : Prop :=
  (∃ c, Releasing resources c w) ∨ Released resources w

theorem Untouched.close (untouched : Untouched resources w) : Underway resources (w.act .close) := by
  obtain ⟨begun, ended, closed, calls, held, -⟩ := untouched
  refine .inl ⟨{ todo := resources.reverse }, ?_⟩
  have free : w.begun = w.ended := begun.trans ended.symm
  simp only [Shutdown.act, free, if_true, goOn, Owner.startClosing, closed, held, Bool.false_eq_true, if_false]
  exact ⟨Nat.succ_pos _, ended, rfl, rfl, by simp [calls]⟩

theorem Releasing.step {c : Closing} (releasing : Releasing resources c w) :
    Underway resources (w.goOn w.owner.step) := by
  obtain ⟨waited, ended, closed, closing, calls⟩ := releasing
  obtain ⟨todo, errors⟩ := c
  unfold Owner.step
  rw [closing]
  cases todo with
  | nil =>
    rw [releases, List.filterMap_nil, List.append_nil] at calls
    refine .inr ?_
    simp only [goOn, Owner.finish]
    split
    · exact ⟨rfl, rfl, calls⟩
    · exact ⟨rfl, rfl, calls⟩
  | cons r rest =>
    refine .inl ?_
    rw [releases, List.filterMap_cons] at calls
    simp only [goOn, Owner.release]
    cases method : r.release? with
    | none =>
      rw [method] at calls
      exact ⟨_, waited, ended, closed, rfl, calls⟩
    | some given =>
      obtain ⟨name, fails⟩ := given
      rw [method, Option.map_some] at calls
      have noted : (w.owner.calls ++ [(r.name, name)]) ++ releases rest = releases resources.reverse := by
        rw [List.append_assoc]
        exact calls
      cases fails with
      | true => exact ⟨_, waited, ended, closed, rfl, noted⟩
      | false => exact ⟨_, waited, ended, closed, rfl, noted⟩

theorem Released.goOn (released : Released resources w) : Released resources (w.goOn w.owner.startClosing) := by
  rw [Owner.startClosing, if_pos released.closed]
  exact ⟨released.closed, released.closing, released.calls⟩

theorem register_keeps (o : Owner) (r : Resource) : (o.register r).closed = o.closed ∧
    (o.register r).closing = o.closing ∧ (o.register r).calls = o.calls := by
  unfold Owner.register
  split <;> exact ⟨rfl, rfl, rfl⟩

theorem Underway.act (underway : Underway resources w) (event : OwnerEvent) : Underway resources (w.act event) := by
  cases event with
  | register given =>
    cases given with
    | none => exact underway
    | some r =>
      obtain ⟨closed, closing, calls⟩ := register_keeps w.owner r
      rcases underway with ⟨c, releasing⟩ | released
      · exact .inl ⟨c, releasing.waited, releasing.ended, closed.trans releasing.closed,
          closing.trans releasing.closing, calls.symm ▸ releasing.calls⟩
      · exact .inr ⟨closed.trans released.closed, closing.trans released.closing, calls.trans released.calls⟩
  | close =>
    simp only [Shutdown.act]
    rcases underway with ⟨c, releasing⟩ | released
    · -- The lock is held, so this call waits.
      have held : w.begun ≠ w.ended := by
        rw [releasing.ended]
        exact Nat.ne_of_gt releasing.waited
      rw [if_neg held]
      exact .inl ⟨c, Nat.succ_pos _, releasing.ended, releasing.closed, releasing.closing, releasing.calls⟩
    · have called : Released resources { w with begun := w.begun + 1 } :=
        ⟨released.closed, released.closing, released.calls⟩
      split
      · exact .inr called.goOn
      · exact .inr called
  | step =>
    simp only [Shutdown.act]
    split
    · exact underway
    · rcases underway with ⟨c, releasing⟩ | released
      · rw [if_pos (by rw [releasing.closing]; rfl)]
        exact releasing.step
      · rw [if_neg (by simp [released.closing])]
        exact .inr released.goOn

theorem Underway.run (underway : Underway resources w) (events : List OwnerEvent) :
    Underway resources (w.run events) :=
  List.foldlRecOn events Shutdown.act underway fun _ underway event _ => underway.act event

/-- Of resources with names of their own each has its method called once. -/
theorem filter_releases (unique : (resources.map Resource.name).Nodup) (distinct : AreDistinct (r :: resources))
    {method : String} {fails : Bool} (own : r.release? = some (method, fails)) :
    (releases resources.reverse).filter (·.1 == r.name) = if r ∈ resources then [(r.name, method)] else [] := by
  have named : ∀ a ∈ resources, (a.name == r.name) = (a == r) := by
    intro a member
    rw [Bool.eq_iff_iff, beq_iff_eq, beq_iff_eq]
    exact ⟨distinct a (by simp [member]) r (by simp), fun same => same ▸ rfl⟩
  have byName : (releases resources.reverse).filter (·.1 == r.name) =
      releases (resources.reverse.filter (·.name == r.name)) := by
    rw [releases, releases, List.filter_filterMap, List.filterMap_filter]
    refine List.filterMap_congr fun a _ => ?_
    cases a.release? <;> simp [Option.filter]
  have single : resources.reverse.filter (· == r) = if r ∈ resources then [r] else [] := by
    rw [List.filter_beq, List.count_reverse, (List.Nodup.of_map _ unique).count]
    split <;> rfl
  rw [byName, List.filter_congr fun a member => named a (List.mem_reverse.1 member), single]
  split
  · simp [releases, own]
  · rfl

/-- Once a call of `close` has returned, the resources that were registered before the first call have
been released in reverse order. So of those registered before the call, each has had its method called
exactly once if it was registered before the first call, and otherwise never. -/
theorem released_if_early (before after : List OwnerEvent) (distinct : AreDistinct (registered before))
    (returned : before.countP isClose < (run {} (before ++ .close :: after)).ended) :
    (run {} (before ++ .close :: after)).owner.calls = releases (early before).reverse ∧
      ∀ r ∈ registered before, ∀ method fails, r.release? = some (method, fails) →
        (run {} (before ++ .close :: after)).invocations r = if r ∈ early before then [(r.name, method)] else [] := by
  have within {a : Resource} (member : a ∈ early before) : a ∈ registered before := by
    refine mem_registered.2 ?_
    exact (List.takeWhile_sublist _).subset (mem_registered.1 member)
  have untouched : Untouched (early before) (run {} (before.takeWhile (!·.isClose))) := by
    refine untouched_run (fun event member => ?_) fun a inside b inside' =>
      distinct a (within inside) b (within inside')
    simpa using List.all_eq_true.1 List.all_takeWhile event member
  obtain ⟨rest, split⟩ := exists_first_close before after
  have underway : Underway (early before) (run {} (before ++ .close :: after)) := by
    rw [split, run, List.foldl_append, List.foldl_cons]
    exact untouched.close.run rest
  have calls : (run {} (before ++ .close :: after)).owner.calls = releases (early before).reverse := by
    rcases underway with ⟨c, releasing⟩ | released
    · rw [releasing.ended] at returned
      cases returned
    · exact released.calls
  refine ⟨calls, fun r member method fails own => ?_⟩
  rw [invocations, calls]
  refine filter_releases untouched.unique (fun a inside b inside' => ?_) own
  have known {a : Resource} (inside : a ∈ r :: early before) : a ∈ registered before := by
    rcases List.mem_cons.1 inside with rfl | inside
    · exact member
    · exact within inside
  exact distinct a (known inside) b (known inside')

/-! ## Two runs -/

def pool : Resource := ⟨"pool", [("disconnect", false), ("aclose", false)]⟩

/-- Its method fails. -/
def socket : Resource := ⟨"socket", [("close", true)]⟩

def client : Resource := ⟨"client", [("close", false)]⟩

-- The client is registered while the first call is between its two releases; then the second begins.
theorem released_if_early_overlapping :
    let before : List OwnerEvent := [.register (some pool), .register none, .register (some socket),
      .register (some pool), .close, .step, .register (some client)]
    let w := run {} (before ++ .close :: [.step, .step, .step])
    AreDistinct (registered before) ∧ before.countP isClose < w.ended ∧
      w.owner.calls = [("socket", "close"), ("pool", "aclose")] ∧
      w.invocations pool = [("pool", "aclose")] ∧ w.invocations client = [] := by
  intro before w
  have distinct : AreDistinct (registered before) := by decide
  have returned : before.countP isClose < w.ended := by decide
  obtain ⟨calls, each⟩ := released_if_early before [.step, .step, .step] distinct returned
  refine ⟨distinct, returned, calls.trans (by decide), ?_, ?_⟩
  · exact (each pool (by decide) "aclose" false (by decide)).trans (if_pos (by decide))
  · exact (each client (by decide) "close" false (by decide)).trans (if_neg (by decide))

/-- A client that is registered after a first call has returned is not released by the next call either,
though it has a method for it and was there when that call began. -/
theorem late_client_kept :
    let before : List OwnerEvent := [.close, .step, .register (some client)]
    let w := run {} (before ++ .close :: [.step])
    AreDistinct (registered before) ∧ client ∈ registered before ∧ client.release? = some ("close", false) ∧
      before.countP isClose < w.ended ∧ w.invocations client = [] := by
  decide

end Shutdown

end QueryCache
