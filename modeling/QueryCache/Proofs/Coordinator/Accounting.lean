import QueryCache.Proofs.Coordinator.Traffic

/-! What a coordinator counts as an error.

A read lives with a cache that is away, with an entry that cannot be decoded and with a value that
cannot be encoded. Each is counted once, when it is heard of, and nothing else is. -/

set_option autoImplicit false

namespace QueryCache

/-- What a coordinator lives with. -/
inductive Fault where
  /-- The cache has not done what it was asked to. -/
  | away
  | undecodable
  | unencodable
  deriving DecidableEq

namespace Coordinator

variable {c : Coordinator} {call : ReadCall} {phase : Phase} {cue : Cue} {step : Step} {role : Role}

/-- The fault that a call hears of. A value that is out of date by now is not even encoded. -/
def fault? (c : Coordinator) (call : ReadCall) : Phase → Cue → Option Fault
  | .lookup _, .found (.ok (some entry)) =>
    match c.settings.codec.decode entry.payload with
    | .error _ => some .undecodable
    | .ok _ => none
  | .computing _ startedAt, .computed _ (.ok value) =>
    if c.staleSince startedAt (tagSet (call.tags ++ call.resultTags value)) then none
    else
      match c.settings.codec.encode value with
      | .error _ => some .unencodable
      | .ok _ => none
  | _, cue => cue.failure?.map fun _ => .away

end Coordinator

namespace Traffic

/-! ## Runs -/

/-- The fault that an event brings to light. -/
def fault? (t : Traffic) : Event → Option Fault
  | .hear id cue =>
    match t.travellers id with
    | some who =>
      if (t.coordinator.step? who.call who.phase cue).isSome then
        t.coordinator.fault? who.call who.phase cue
      else none
    | none => none
  | .invalidated id (.error _) =>
    match (t.invalidations id).map Invalidation.phase with
    | some (.calling _) => some .away
    | _ => none
  | .forgot (.error _) => some .away
  | _ => none

def faults (t : Traffic) : List Event → List Fault
  | [] => []
  | event :: rest => (t.fault? event).toList ++ (t.act event).faults rest

variable {t : Traffic} {event : Event}

end Traffic

end QueryCache
