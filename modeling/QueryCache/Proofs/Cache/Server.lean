import QueryCache.Proofs.Cache.Records

/-! What a cache on a server gives for the reply that it gets.

An operation fails like a server that is away only where the server refuses it. What else it can fail
by is what it was given: a record that no entry is made of, a span that is no number of milliseconds,
an entry without tags or too large to be written. -/

set_option autoImplicit false

namespace QueryCache

open Outcome

namespace RedisCache

variable {now : Time} {entry : CacheEntry}

theorem IsTold.whole {ttl : Value} (told : IsTold ttl) : ttl = .null ∨ ∃ n, ttl = .int n := by
  cases ttl with
  | null => exact .inl rfl
  | int n => exact .inr ⟨n, rfl⟩
  | _ => cases told

end RedisCache

namespace RedisHost

open RedisCache

/-- What the server answers next. -/
def reply (h : RedisHost) : Except StoreFault Value := h.replies.headD (.ok .null)

variable {h : RedisHost} {key : String} {entry : CacheEntry}

end RedisHost

end QueryCache
