import QueryCache.Coordinator.Service
import QueryCache.Proofs.Decimal.Rounding
import QueryCache.Proofs.Distinct
import Mathlib.Algebra.BigOperators.Group.List.Basic
import Mathlib.Tactic.Ring

/-! Invalidating while the cache comes and goes.

The cache answers by a script, so nothing is known of it but the sequence of its answers. All attempts but the
last one are alike: the cache is asked, is away, and a wait follows that is twice as long as the one before. The
last attempt succeeds, or there is no further one, or the wait after it is no number that can be waited for. -/

set_option autoImplicit false

namespace QueryCache

/-- What a cache answers to an invalidation: how many entries it dropped, or that it is away. -/
inductive StoreReply where
  | removed (count : Int)
  | away (operation : String) (reason : Option String)

namespace StoreReply

def outcome : StoreReply → Except Failure Int
  | .removed count => .ok count
  | .away operation reason => .error (.cacheUnavailable operation reason)

def IsAway : StoreReply → Prop
  | .removed _ => False
  | .away _ _ => True

end StoreReply

/-- What passes between a coordinator and its cache. -/
inductive Exchange where
  | asked (tags : List String)
  | slept (seconds : Binary64)

/-- A cache that gives its answers to invalidations one after the other, and what has passed so far. -/
structure Scripted where
  replies : Nat → StoreReply
  exchanges : List Exchange := []

namespace Scripted

def note (exchange : Exchange) (h : Scripted) : Scripted := { h with exchanges := h.exchanges ++ [exchange] }

/-- The answers after so many. -/
def drop (n : Nat) (h : Scripted) : Scripted := { h with replies := fun i => h.replies (n + i) }

def store : CacheStore Scripted where
  get _ := pure none
  put _ := pure ()
  invalidate tags h := ((h.replies 0).outcome, (h.drop 1).note (.asked tags))
  delete _ := pure false
  touch _ _ := pure false
  clear := pure ()
  now _ := Binary64.zero
  report _ h := h
  pass seconds h := h.note (.slept seconds)
  settle h := h

/-- Attempts that failed, each with the wait after it. -/
def failures (tags : List String) (waits : List Binary64) : List Exchange :=
  waits.flatMap fun seconds => [.asked tags, .slept seconds]

end Scripted

/-- The seconds of a wait, in units. -/
def Binary64.amount : Binary64 → Int
  | .finite negative units => signed negative units
  | _ => 0

namespace Service

open Scripted (store)

variable {s : Service Scripted} {tags : List String} {strict : Bool}

/-- An invalidation that is under way. -/
abbrev invalidating (tags : List String) (strict : Bool) : Nat → InvalidationPhase → Service Scripted →
    Except Failure Bool × Service Scripted :=
  invalidateFrom store id (fun s _ => s) (fun seconds s => { s with host := store.settle (store.pass seconds s.host) })
    tags strict

theorem report_scripted (records : List LogRecord) (s : Service Scripted) : s.report store records = s := by
  have same (h : Scripted) : records.foldl (fun host record => store.report record host) h = h := by
    induction records with
    | nil => rfl
    | cons record rest ih => exact ih
  rw [report, same]

theorem invalidating_finished (fuel : Nat) (outcome : Except Failure Bool) :
    invalidating tags strict fuel (.finished outcome) s = (outcome, s) := by
  cases fuel <;> rfl

/-- The cache is asked, and its answer decides how it goes on. -/
theorem invalidating_calling (fuel failures : Nat) : invalidating tags strict (fuel + 1) (.calling failures) s =
    let step := s.coordinator.afterInvalidating tags strict failures (s.host.replies 0).outcome
    invalidating tags strict fuel step.phase ⟨step.coordinator, (s.host.drop 1).note (.asked tags)⟩ := by
  simp only [invalidating, invalidateFrom, takeInvalidation, report_scripted]
  rfl

/-- The service after so many attempts that failed, with their waits. -/
def failed (tags : List String) (waits : List Binary64) (s : Service Scripted) : Service Scripted where
  coordinator := { s.coordinator with metrics := { s.coordinator.metrics with
    errors := s.coordinator.metrics.errors + waits.length } }
  host := { s.host.drop waits.length with exchanges := s.host.exchanges ++ Scripted.failures tags waits }

theorem failed_nil (tags : List String) (s : Service Scripted) : failed tags [] s = s := by
  simp [failed, Scripted.failures, Scripted.drop]

/-- One attempt is asking, counting the failure, and waiting. -/
theorem failed_one (tags : List String) (seconds : Binary64) (s : Service Scripted) : failed tags [seconds] s =
    ⟨s.coordinator.count Metrics.error, ((s.host.drop 1).note (.asked tags)).note (.slept seconds)⟩ := by
  simp [failed, Scripted.failures, Scripted.drop, Scripted.note, Coordinator.count, Metrics.error]

theorem failed_cons (tags : List String) (seconds : Binary64) (waits : List Binary64) (s : Service Scripted) :
    failed tags (seconds :: waits) s = failed tags waits (failed tags [seconds] s) := by
  have counted : s.coordinator.metrics.errors + ((waits.length : Int) + 1) =
      s.coordinator.metrics.errors + 1 + waits.length := by omega
  have later (i : Nat) : waits.length + 1 + i = 1 + (waits.length + i) := by omega
  simp [failed, Scripted.failures, Scripted.drop, counted, later]

/-- An attempt that is not the last one. -/
theorem invalidating_away {fuel failures : Nat} {seconds : Binary64} (away : (s.host.replies 0).IsAway)
    (more : failures + 1 < s.coordinator.settings.tries)
    (waits : s.coordinator.backoff? (failures + 1) = some seconds) :
    invalidating tags strict (fuel + 2) (.calling failures) s =
      invalidating tags strict fuel (.calling (failures + 1)) (failed tags [seconds] s) := by
  rw [invalidating_calling]
  cases reply : s.host.replies 0 with
  | removed count =>
    rw [reply] at away
    cases away
  | away operation reason =>
    have waits' : (s.coordinator.count Metrics.error).backoff? (failures + 1) = some seconds := waits
    have more' : failures + 1 < (s.coordinator.count Metrics.error).settings.tries := more
    simp only [StoreReply.outcome, Coordinator.afterInvalidating, Failure.isUnavailable, if_true, if_pos more',
      waits', Failure.inRange, Option.elim]
    rw [failed_one]
    rfl

/-- Attempts that are not the last one. -/
theorem invalidating_failures {fuel failures : Nat} (waits : List Binary64)
    (away : ∀ i < waits.length, (s.host.replies i).IsAway)
    (more : failures + waits.length < s.coordinator.settings.tries)
    (timely : ∀ i (inside : i < waits.length), s.coordinator.backoff? (failures + i + 1) = some waits[i]) :
    invalidating tags strict (fuel + 2 * waits.length) (.calling failures) s =
      invalidating tags strict fuel (.calling (failures + waits.length)) (failed tags waits s) := by
  induction waits generalizing failures s with
  | nil => rw [failed_nil]; rfl
  | cons seconds waits ih =>
    simp only [List.length_cons] at away more timely ⊢
    have first : s.coordinator.backoff? (failures + 1) = some seconds := timely 0 (by omega)
    have away' : ∀ i < waits.length, ((failed tags [seconds] s).host.replies i).IsAway := by
      intro i inside
      have later := away (i + 1) (by omega)
      rwa [Nat.add_comm] at later
    have timely' : ∀ i (inside : i < waits.length),
        (failed tags [seconds] s).coordinator.backoff? (failures + 1 + i + 1) = some waits[i] := by
      intro i inside
      have later := timely (i + 1) (by omega)
      rwa [show failures + (i + 1) + 1 = failures + 1 + i + 1 by omega] at later
    have rest := ih away' (by change _ < s.coordinator.settings.tries; omega) timely'
    rw [show fuel + 2 * (waits.length + 1) = fuel + 2 * waits.length + 2 by omega,
      invalidating_away (away 0 (by omega)) (by omega) first, rest, failed_cons tags seconds waits,
      show failures + 1 + waits.length = failures + (waits.length + 1) by omega]

/-! ## The last attempt -/

variable {failures fuel : Nat}

theorem invalidating_removed {count : Int} (reply : s.host.replies 0 = .removed count) :
    invalidating tags strict (fuel + 1) (.calling failures) s =
      (.ok true, ⟨s.coordinator.count (·.invalidated count), (s.host.drop 1).note (.asked tags)⟩) := by
  rw [invalidating_calling, reply]
  exact invalidating_finished fuel _

theorem invalidating_exhausted (away : (s.host.replies 0).IsAway)
    (last : ¬failures + 1 < s.coordinator.settings.tries) :
    invalidating tags strict (fuel + 1) (.calling failures) s =
      (if strict then .error (.invalidation tags s.coordinator.settings.tries) else .ok false,
        ⟨s.coordinator.count Metrics.error, (s.host.drop 1).note (.asked tags)⟩) := by
  rw [invalidating_calling]
  cases reply : s.host.replies 0 with
  | removed count =>
    rw [reply] at away
    cases away
  | away operation reason =>
    have last' : ¬failures + 1 < (s.coordinator.count Metrics.error).settings.tries := last
    simp only [StoreReply.outcome, Coordinator.afterInvalidating, Failure.isUnavailable, if_true, if_neg last',
      invalidating_finished]
    rfl

/-- Where the wait after it is no number, an attempt is the last one without being meant to be. -/
theorem invalidating_overflows (away : (s.host.replies 0).IsAway)
    (more : failures + 1 < s.coordinator.settings.tries) (beyond : s.coordinator.backoff? (failures + 1) = none) :
    invalidating tags strict (fuel + 1) (.calling failures) s =
      (.error (.overflow "int too large to convert to float"),
        ⟨s.coordinator.count Metrics.error, (s.host.drop 1).note (.asked tags)⟩) := by
  rw [invalidating_calling]
  cases reply : s.host.replies 0 with
  | removed count =>
    rw [reply] at away
    cases away
  | away operation reason =>
    have beyond' : (s.coordinator.count Metrics.error).backoff? (failures + 1) = none := beyond
    have more' : failures + 1 < (s.coordinator.count Metrics.error).settings.tries := more
    simp only [StoreReply.outcome, Coordinator.afterInvalidating, Failure.isUnavailable, if_true, if_pos more',
      beyond', Failure.inRange, Option.elim, invalidating_finished]

/-- An invalidation of some tags begins with the first attempt. -/
theorem invalidate_eq (tagged : tags ≠ []) : s.invalidate store tags strict =
    invalidating (tagSet tags) strict (2 * s.coordinator.settings.tries) (.calling 0)
      { s with coordinator := s.coordinator.markInvalidated (tagSet tags) } := by
  have found : (tagSet tags).isEmpty = false := by simpa using tagged
  simp only [invalidate, invalidateIn, Coordinator.startInvalidation, id_eq, found, Bool.false_eq_true, if_false,
    takeInvalidation, report_scripted]

/-- After some attempts that failed an invalidation is at the next one. -/
theorem exists_invalidate_eq (tagged : tags ≠ []) (strict : Bool) {waits : List Binary64}
    (away : ∀ i < waits.length, (s.host.replies i).IsAway) (more : waits.length < s.coordinator.settings.tries)
    (timely : ∀ i (inside : i < waits.length), s.coordinator.backoff? (i + 1) = some waits[i]) :
    ∃ fuel, s.invalidate store tags strict = invalidating (tagSet tags) strict (fuel + 1) (.calling waits.length)
      (failed (tagSet tags) waits { s with coordinator := s.coordinator.markInvalidated (tagSet tags) }) := by
  -- An attempt takes two of the fuel, to ask and to wait, and there are tries enough.
  obtain ⟨fuel, enough⟩ : ∃ fuel, 2 * s.coordinator.settings.tries = fuel + 1 + 2 * waits.length :=
    ⟨2 * s.coordinator.settings.tries - 2 * waits.length - 1, by omega⟩
  refine ⟨fuel, ?_⟩
  rw [invalidate_eq tagged, enough]
  refine (invalidating_failures (s := { s with coordinator := s.coordinator.markInvalidated (tagSet tags) }) waits
    away ?_ ?_).trans ?_
  · rw [Nat.zero_add]
    exact more
  · intro i inside
    rw [Nat.zero_add]
    exact timely i inside
  · rw [Nat.zero_add]

end Service

/-! ## Waits -/

open Binary64

/-- A float is doubled by a float, of which there are no more than the range has room for. -/
theorem Coordinator.backoff?_binary {c : Coordinator} {x : Binary64} (delay : c.settings.delay = .binary x)
    (failures : Nat) : c.backoff? (failures + 1) =
      if failures < 1024 then some (mul x (.finite false (2 ^ failures * unitsPerOne))) else none := by
  have factor : c.backoff? (failures + 1) = (Number.whole (2 ^ failures : Nat)).toBinary?.map (mul x) := by
    unfold backoff?
    rw [delay]
    rfl
  rw [factor, Number.toBinary?_two_pow]
  split <;> rfl

/-- The waits within the range, where the delay is a float. -/
theorem Coordinator.backoff?_of_small {c : Coordinator} {negative : Bool} {units failures : Nat}
    (delay : c.settings.delay = .binary (.finite negative units)) (kept : Kept units)
    (few : failures < 1024) (small : units * 2 ^ failures < unitsLimit) :
    c.backoff? (failures + 1) = some (.finite negative (units * 2 ^ failures)) := by
  rw [backoff?_binary delay, if_pos few, mul_two_pow kept, if_pos small]

/-- Waits that are finite double the delay. -/
theorem Coordinator.backoff?_finite {c : Coordinator} {negative : Bool} {units : Nat}
    (real : ∀ negative units, c.settings.delay = .binary (.finite negative units) → Kept units)
    (delay : c.settings.delay.toBinary? = some (.finite negative units)) {failures : Nat} {x : Binary64}
    (waits : c.backoff? (failures + 1) = some x) (finite : ∀ negative, x ≠ .infinite negative) :
    x = .finite negative (units * 2 ^ failures) := by
  -- A whole delay is multiplied before it is made a float, a float after.
  cases given : c.settings.delay with
  | whole n =>
    rw [given, Number.toBinary?_whole] at delay
    have scaled : c.backoff? (failures + 1) = (Number.whole (n * (2 ^ failures : Nat))).toBinary? := by
      unfold backoff?
      rw [given]
      rfl
    rw [scaled, Number.toBinary?_mul_two_pow] at waits
    split at delay
    · cases delay
      split at waits
      · exact (Option.some.inj waits).symm
      · cases waits
    · cases delay
  | binary y =>
    rw [given] at delay
    cases Option.some.inj delay
    rw [backoff?_binary given] at waits
    split at waits
    · rw [mul_two_pow (real negative units given)] at waits
      split at waits
      · exact (Option.some.inj waits).symm
      · cases finite negative (Option.some.inj waits).symm
    · cases waits

theorem sum_amounts (negative : Bool) (units k : Nat) :
    (((List.range k).map fun i => Binary64.finite negative (units * 2 ^ i)).map amount).sum =
      signed negative units * (2 ^ k - 1) := by
  induction k with
  | zero => simp
  | succ k ih =>
    have last : amount (.finite negative (units * 2 ^ k)) = signed negative units * 2 ^ k := by
      cases negative <;> simp [amount, signed]
    rw [List.range_succ, List.map_append, List.map_append, List.sum_append, ih]
    simp only [List.map_cons, List.map_nil, List.sum_singleton, last]
    ring

/-- So many waits in a row, each twice as long as the one before. -/
theorem Coordinator.sum_waits (c : Coordinator) {k : Nat}
    (real : ∀ negative units, c.settings.delay = .binary (.finite negative units) → Kept units)
    (timely : ∀ i < k, ∃ negative units, c.backoff? (i + 1) = some (.finite negative units)) (negative : Bool)
    (units : Nat) (delay : c.settings.delay.toBinary? = some (.finite negative units)) :
    (((List.range k).map fun i => (c.backoff? (i + 1)).getD zero).map amount).sum =
      signed negative units * (2 ^ k - 1) := by
  rw [← sum_amounts]
  congr 2
  refine List.map_congr_left fun i inside => ?_
  obtain ⟨sign, size, found⟩ := timely i (List.mem_range.1 inside)
  rw [found, Option.getD_some]
  exact backoff?_finite real delay found (by simp)

namespace Service

open Scripted (store)

/-- What an invalidation does, at `N` attempts, on a cache that fails `f` times before it drops `count` entries: it
asks once more than it waits. The waits are given, in units; they come to a sum that is told by the delay. -/
structure Retries (N f : Nat) (count : Int) (tags : List String) (strict : Bool) (s : Service Scripted)
    (waits : List Binary64) (run : Except Failure Bool × Service Scripted) : Prop where
  outcome : run.1 = if f < N then .ok true else if strict then .error (.invalidation tags N) else .ok false
  exchanges : run.2.host.exchanges = s.host.exchanges ++ Scripted.failures tags waits ++ [.asked tags]
  calls : waits.length + 1 = min (f + 1) N
  total : ∀ negative units, s.coordinator.settings.delay.toBinary? = some (.finite negative units) →
    (waits.map amount).sum = signed negative units * (2 ^ min f (N - 1) - 1)
  coordinator : run.2.coordinator = { s.coordinator.markInvalidated tags with metrics := { s.coordinator.metrics with
    errors := s.coordinator.metrics.errors + min f N
    invalidations := s.coordinator.metrics.invalidations + if f < N then count else 0 } }

variable {s : Service Scripted} {tags : List String} {f : Nat} {count : Int}

/-- A cache that fails `f` times, and then succeeds if it is asked once more, is asked until it succeeds or no
attempt is left, as long as each wait in between is a number of seconds. -/
theorem invalidate_retries (tagged : tags ≠ []) (strict : Bool) {N : Nat}
    (attempts : N = max s.coordinator.settings.attempts 1)
    (away : ∀ i < f, (s.host.replies i).IsAway) (succeeds : f < N → s.host.replies f = .removed count)
    (real : ∀ negative units, s.coordinator.settings.delay = .binary (.finite negative units) → Kept units)
    (timely : ∀ i < min f (N - 1), ∃ negative units, s.coordinator.backoff? (i + 1) = some (.finite negative units)) :
    ∃ waits, Retries N f count (tagSet tags) strict s waits (s.invalidate store tags strict) := by
  have tries : s.coordinator.settings.tries = N := by
    unfold CoordinatorSettings.tries
    omega
  -- As many waits as failures before the last attempt.
  let waits := (List.range (min f (N - 1))).map fun i => (s.coordinator.backoff? (i + 1)).getD zero
  have length : waits.length = min f (N - 1) := by simp [waits]
  have given (i : Nat) (inside : i < waits.length) : s.coordinator.backoff? (i + 1) = some waits[i] := by
    obtain ⟨negative, units, found⟩ := timely i (by omega)
    simp [waits, found]
  obtain ⟨fuel, run⟩ := exists_invalidate_eq (s := s) tagged strict (fun i inside => away i (by omega)) (by omega) given
  refine ⟨waits, ?_⟩
  have total := s.coordinator.sum_waits real timely
  rw [run]
  -- The last attempt is the success, or the last that there is.
  by_cases more : f < N
  · have last : waits.length = f := by omega
    have reply : s.host.replies waits.length = .removed count := last ▸ succeeds more
    rw [invalidating_removed reply]
    refine ⟨(if_pos more).symm, rfl, by omega, total, ?_⟩
    rw [if_pos more, Nat.min_eq_left more.le, ← last]
    rfl
  · have last : waits.length + 1 = N := by omega
    have reply : (s.host.replies waits.length).IsAway := away _ (by omega)
    rw [invalidating_exhausted reply (by change ¬waits.length + 1 < s.coordinator.settings.tries; omega)]
    have counted : s.coordinator.metrics.errors + (waits.length : Int) + 1 =
        s.coordinator.metrics.errors + (min f N : Nat) := by omega
    refine ⟨?_, rfl, by omega, total, ?_⟩
    · rw [if_neg more, ← tries]
      rfl
    · rw [if_neg more, Int.add_zero, ← counted]
      rfl

/-- Two failures cost a second and a half at half a second of delay. -/
theorem invalidate_retries_twice :
    let s : Service Scripted := {
      coordinator := { settings := { delay := .binary (.finite false (power 2 1073)) } }
      host := { replies := fun i => if i < 2 then .away "invalidate" none else .removed 4 } }
    ∃ waits, Retries 3 2 4 (tagSet ["user"]) false s waits (s.invalidate store ["user"] false) ∧
      (waits.map amount).sum = 3 * power 2 1073 := by
  intro s
  have kept : Kept (power 2 1073) := by decide +kernel
  -- The doubles of the delay stay within the range.
  have small (i : Nat) (few : i < 2) : power 2 1073 * 2 ^ i < unitsLimit := by
    refine Nat.lt_of_le_of_lt (Nat.mul_le_mul_left _ (Nat.pow_le_pow_right Nat.two_pos few.le)) ?_
    decide +kernel
  have retried : ∃ waits, Retries 3 2 4 (tagSet ["user"]) false s waits (s.invalidate store ["user"] false) :=
    invalidate_retries (by simp) false rfl (fun i few => by simp [s, few, StoreReply.IsAway]) (fun _ => rfl)
      (fun negative units same => by cases same; exact kept)
      (fun i few => ⟨false, _, Coordinator.backoff?_of_small rfl kept (by omega) (small i (by omega))⟩)
  obtain ⟨waits, retries⟩ := retried
  refine ⟨waits, retries, ?_⟩
  rw [retries.total false (power 2 1073) rfl]
  exact Int.mul_comm _ _

/-- A wait that is no number ends an invalidation, whatever the number of attempts. -/
theorem invalidate_overflows (tagged : tags ≠ []) (strict : Bool) (waits : List Binary64)
    (away : ∀ i ≤ waits.length, (s.host.replies i).IsAway) (more : waits.length + 1 < s.coordinator.settings.tries)
    (timely : ∀ i (inside : i < waits.length), s.coordinator.backoff? (i + 1) = some waits[i])
    (beyond : s.coordinator.backoff? (waits.length + 1) = none) :
    (s.invalidate store tags strict).1 = .error (.overflow "int too large to convert to float") := by
  obtain ⟨fuel, run⟩ := exists_invalidate_eq tagged strict (fun i inside => away i (by omega)) (by omega) timely
  rw [run]
  exact congrArg Prod.fst (invalidating_overflows
    (s := failed (tagSet tags) waits { s with coordinator := s.coordinator.markInvalidated (tagSet tags) })
    (away waits.length (by omega)) more beyond)

/-- After 1025 failures there is no further attempt, though one is left and it would succeed. -/
theorem invalidate_gives_up :
    let s : Service Scripted := {
      coordinator := { settings := { attempts := 1026, delay := .binary zero } }
      host := { replies := fun i => if i < 1025 then .away "invalidate" none else .removed 0 } }
    (s.invalidate store ["t"] false).1 = .error (.overflow "int too large to convert to float") := by
  intro s
  have none : Kept 0 := .of_narrow (by decide)
  have wait (i : Nat) (few : i < 1024) : s.coordinator.backoff? (i + 1) = some zero := by
    rw [Coordinator.backoff?_of_small rfl none few (by rw [Nat.zero_mul]; exact none.range), Nat.zero_mul]
    rfl
  have waits : (List.replicate 1024 zero).length = 1024 := List.length_replicate
  refine invalidate_overflows (by simp) false (List.replicate 1024 zero) ?_ ?_ ?_ ?_
  · intro i small
    rw [waits] at small
    simp [s, StoreReply.IsAway, show i < 1025 by omega]
  · rw [waits]
    decide
  · intro i inside
    rw [waits] at inside
    rw [wait i inside, List.getElem_replicate]
  · rw [waits, Coordinator.backoff?_binary rfl]
    rfl

end Service

end QueryCache
