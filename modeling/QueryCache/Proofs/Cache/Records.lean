import QueryCache.Cache.Redis
import QueryCache.Coordinator.Basic
import QueryCache.Proofs.Codec.MessagePack
import QueryCache.Proofs.Decimal.Rounding
import Mathlib.Algebra.Group.Int.Defs

/-! What a server of entries answers, and what its answers come to.

A fault of the server is a cache that is away. A record that no entry can be made of is a failure of
another kind, which those who look a key up have to deal with themselves; the records that are written
here are never of that sort. -/

set_option autoImplicit false

namespace QueryCache

open Outcome

def StoreFault.IsBackend (fault : StoreFault) : Prop := ∃ text, fault = .backend text

theorem StoreFault.IsBackend.seen {fault : StoreFault} (backend : fault.IsBackend) (operation : String) :
    (fault.seen operation).isUnavailable = true := by
  obtain ⟨text, rfl⟩ := backend
  rfl

namespace MessagePack

end MessagePack

namespace RedisCache

/-! ## Records -/

/-- The milliseconds that an entry still lives can be told in seconds, or there are none to be told. -/
def IsTold : Value → Prop
  | .null => True
  | .int n => n < 0 ∨ ∃ units, Binary64.ofRatio false n.toNat 1000 = .finite false units
  | _ => False

/-- What the server gives for an entry: its record, and the milliseconds that it still lives. -/
def given (record : Bytes) (ttl : Value) : Value := .list [.bytes record, ttl]

variable {now : Time} {key : String} {record : Bytes} {ttl : Value}

end RedisCache

end QueryCache
