import QueryCache.Proofs.Cache.Server
import QueryCache.Proofs.Coordinator.FailOpen

/-! Reads over a server of entries.

The cache of the coordinator asks a server, and what a call hears is what the cache makes of the reply.
Where every record that the server gives for an entry can be read, no reply ends a call: it hears of
a result, or that the cache is away. -/

set_option autoImplicit false

namespace QueryCache

open RedisCache

/-! ## What a cache says -/

def Cue.isOfCache : Cue → Bool
  | .found _ | .dropped _ | .renewed _ | .stored _ => true
  | .computed _ _ | .landed _ | .cancelled => false

/-- What the operation that a call waits for comes to, and the cache after it. -/
def CacheStore.hears {σ : Type} (store : CacheStore σ) (call : ReadCall) (ttl : Number) (phase : Phase) (host : σ) :
    Option (Cue × σ) :=
  match phase with
  | .lookup _ => some (.found ((store.get call.key).run host).1, ((store.get call.key).run host).2)
  | .discard _ => some (.dropped ((store.delete call.key).run host).1, ((store.delete call.key).run host).2)
  | .refresh _ _ =>
    some (.renewed ((store.touch call.key ttl).run host).1, ((store.touch call.key ttl).run host).2)
  | .storing _ _ _ entry => some (.stored ((store.put entry).run host).1, ((store.put entry).run host).2)
  | .waiting _ | .computing _ _ | .finished _ => none

/-- An interaction with the cache is the step of the call on hearing this. -/
theorem Service.interact_eq {σ : Type} (store : CacheStore σ) (call : ReadCall) (phase : Phase) (s : Service σ) :
    interact store call phase s =
      (store.hears call s.coordinator.settings.defaultTtl phase s.host).bind fun heard =>
        (s.coordinator.step? call phase heard.1).map fun step => (step, { s with host := heard.2 }) := by
  cases phase <;> rfl

/-- A coordinator with its calls, and its cache. -/
structure Online where
  traffic : Traffic
  host : RedisHost

namespace Online

inductive Event where
  /-- Something that the server has no part in. -/
  | apart (event : Traffic.Event)
  /-- The server answers what a call asked of the cache. -/
  | reply (id : Nat) (reply : Except StoreFault Value)
  | elapse (seconds : Binary64)

def initial (settings : CoordinatorSettings) (host : RedisHost) : Online := ⟨.initial settings, host⟩

/-- What a call hears by a reply of the server. -/
def hears? (o : Online) (id : Nat) (reply : Except StoreFault Value) : Option (Cue × RedisHost) :=
  (o.traffic.travellers id).bind fun who => RedisHost.store.hears who.call o.traffic.coordinator.settings.defaultTtl
    who.phase { o.host with replies := [reply] }

/-- What an event is for the calls. -/
def heard? (o : Online) : Event → Option Traffic.Event
  | .apart (.hear id cue) => if cue.isOfCache then none else some (.hear id cue)
  | .apart event => some event
  | .reply id reply => (o.hears? id reply).map fun heard => .hear id heard.1
  | .elapse _ => none

def act (o : Online) (event : Event) : Online where
  traffic := (o.heard? event).elim o.traffic o.traffic.act
  host :=
    match event with
    | .apart _ => o.host
    | .reply id reply => ((o.hears? id reply).map Prod.snd).getD o.host
    | .elapse seconds => { o.host with now := o.host.now.add seconds }

def run (o : Online) (events : List Event) : Online := events.foldl act o

end Online

end QueryCache
