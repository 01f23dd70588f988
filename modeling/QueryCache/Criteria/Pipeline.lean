import QueryCache.Criteria.Request

/-! Ordered sequences of criteria. Every operation gives a new pipeline; one that skips keeps
its criteria but applies none. -/

set_option autoImplicit false

namespace QueryCache

structure Pipeline where
  criteria : List Criterion := []
  skip : Bool := false

namespace Pipeline

def length (p : Pipeline) : Nat := p.criteria.length

def pushed (p : Pipeline) (criteria : List Criterion) : Pipeline :=
  { p with criteria := p.criteria ++ criteria }

/-- The criteria without the first of an identity. -/
def dropFirst (target : Identity) : List Criterion → List Criterion
  | [] => []
  | c :: rest => if c.identity.equal target then rest else c :: dropFirst target rest

def popped (p : Pipeline) (target : Identity) : Pipeline :=
  { p with criteria := dropFirst target p.criteria }

def cleared (p : Pipeline) : Pipeline := { p with criteria := [] }

def skipping (p : Pipeline) (skip : Bool := true) : Pipeline := { p with skip := skip }

/-- The criteria that are applied. -/
def active (p : Pipeline) : List Criterion := if p.skip then [] else p.criteria

def applyAll (p : Pipeline) (q : QueryState) : Except Failure QueryState :=
  p.active.foldlM (fun q c => c.apply q) q

def identities (p : Pipeline) : List Identity := p.active.map (·.identity)

/-- Item by item, whether two sequences of criteria have equal identities. -/
def sameCriteria : List Criterion → List Criterion → Bool
  | [], [] => true
  | c :: cs, d :: ds => c.identity.equal d.identity && sameCriteria cs ds
  | _, _ => false

def equal (p q : Pipeline) : Bool :=
  p.skip == q.skip && sameCriteria p.criteria q.criteria

end Pipeline

end QueryCache
