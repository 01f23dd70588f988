import QueryCache.Failure
import QueryCache.Log

/-! Resources that an owner releases when it is closed.

Closing takes the resources in reverse order of registration and releases each by the first
method of a fixed list that it has. While one call is closing, others wait; an owner that is
closed has nothing more to release. -/

set_option autoImplicit false

namespace QueryCache

/-- Something to release; resources are told apart by their names. -/
structure Resource where
  name : String
  /-- The methods it has, and whether each fails. -/
  methods : List (String × Bool)
  deriving DecidableEq, Repr

/-- The methods that release, the preferred one first. -/
def Resource.closeMethods : List String := ["aclose", "close", "disconnect", "shutdown"]

/-- The method a resource is released by, and whether it fails. -/
def Resource.release? (r : Resource) : Option (String × Bool) :=
  closeMethods.findSome? fun name => (r.methods.lookup name).map ((name, ·))

/-- A call of `close` in progress. -/
structure Closing where
  todo : List Resource
  /-- The failures so far. -/
  errors : List String := []
  deriving Repr

structure Owner where
  resources : List Resource := []
  closed : Bool := false
  closing : Option Closing := none
  /-- The methods called, in order, with the names of their resources. -/
  calls : List (String × String) := []
  logs : List LogRecord := []
  deriving Repr

namespace Owner

/-- Registers a resource once. -/
def register (o : Owner) (r : Resource) : Owner :=
  if o.resources.any (·.name == r.name) then o else { o with resources := o.resources ++ [r] }

def report (o : Owner) (level : LogLevel) (text : String) : Owner :=
  { o with logs := o.logs ++ [⟨level, "cleanup", text⟩] }

/-- A call of `close` goes ahead; on a closed owner it has nothing to do. -/
def startClosing (o : Owner) : Owner :=
  if o.closed then o else { o with closing := some { todo := o.resources.reverse } }

/-- Releases a resource; a failure is kept for the end. -/
def release (o : Owner) (c : Closing) (r : Resource) (rest : List Resource) : Owner :=
  match r.release? with
  | none => { o with closing := some { c with todo := rest } }
  | some (method, fails) =>
    let o := { o with calls := o.calls ++ [(r.name, method)] }
    if fails then
      { o with closing := some ⟨rest, c.errors ++ [r.name ++ ": " ++ method ++ " failed"]⟩ }
    else
      { o with closing := some { c with todo := rest } }.report .debug
        ("Released " ++ r.name ++ " using " ++ method ++ "()")

/-- Ends a call of `close` that has no more to release. -/
def finish (o : Owner) (c : Closing) : Owner :=
  let o := { o with resources := [], closed := true, closing := none }
  if c.errors.isEmpty then o
  else o.report .warning ("Resource cleanup errors: " ++ "; ".intercalate c.errors)

/-- One step of the call of `close` in progress. -/
def step (o : Owner) : Owner :=
  match o.closing with
  | none => o
  | some c =>
    match c.todo with
    | [] => o.finish c
    | r :: rest => o.release c r rest

/-- So many steps. -/
def steps : Nat → Owner → Owner
  | 0, o => o
  | count + 1, o => steps count o.step

/-- A whole call of `close`. -/
def close (o : Owner) : Owner :=
  steps (o.resources.length + 1) o.startClosing

end Owner

end QueryCache
