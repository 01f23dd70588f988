import QueryCache.Coordinator.Basic

/-! Invalidating tags, with retries while the cache is away. -/

set_option autoImplicit false

namespace QueryCache

/-- What an invalidation is waiting for. -/
inductive InvalidationPhase where
  /-- The cache, after so many failures. -/
  | calling (failures : Nat)
  /-- The time of the next try. -/
  | sleeping (failures : Nat) (seconds : Binary64)
  | finished (outcome : Except Failure Bool)
  deriving Repr

structure InvalidationStep where
  coordinator : Coordinator
  phase : InvalidationPhase
  logs : List LogRecord := []

namespace Coordinator

/-- The seconds to wait after so many failures, doubled by each but the first. -/
def backoff? (c : Coordinator) (failures : Nat) : Option Binary64 :=
  let factor := power 2 (failures - 1)
  match c.settings.delay with
  | .whole n => (Number.whole (n * factor)).toBinary?
  | .binary x => (Number.whole factor).toBinary?.map (Binary64.mul x)

/-- The first phase of an invalidation; without tags there is nothing to do. -/
def startInvalidation (c : Coordinator) (tags : List String) : InvalidationStep :=
  if tags.isEmpty then ⟨c, .finished (.ok true), []⟩
  else ⟨c.markInvalidated tags, .calling 0, []⟩

def afterInvalidating (c : Coordinator) (tags : List String) (strict : Bool) (failures : Nat)
    (reply : Except Failure Int) : InvalidationStep :=
  match reply with
  | .ok removed =>
    ⟨c.count (·.invalidated removed), .finished (.ok true),
      [log .debug ("Invalidated " ++ toString removed ++ " entries for " ++ tagList tags)]⟩
  | .error e =>
    if e.isUnavailable then
      let c := c.count Metrics.error
      let failures := failures + 1
      let tries := c.settings.tries
      if failures < tries then
        match Failure.inRange (c.backoff? failures) with
        | .error e => ⟨c, .finished (.error e), []⟩
        | .ok seconds =>
          ⟨c, .sleeping failures seconds,
            [log .warning ("Invalidation of " ++ tagList tags ++ " failed (attempt " ++
              toString failures ++ "/" ++ toString tries ++ "), retrying in " ++
              seconds.fixed 2 ++ "s: " ++ e.text)]⟩
      else
        let failure := Failure.invalidation tags tries
        ⟨c, .finished (if strict then .error failure else .ok false),
          [log .error (failure.text ++ ": " ++ e.text)]⟩
    else ⟨c, .finished (.error e), []⟩

end Coordinator

end QueryCache
