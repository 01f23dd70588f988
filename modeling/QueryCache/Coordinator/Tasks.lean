import QueryCache.Coordinator.Service

/-! Several calls of a coordinator at once.

Each call is a task. Tasks run one at a time, first come first served, each up to the point
where it waits: for a gate in its computation, or for the flight of another task. A flight that
lands is relayed to its waiters in the order they joined; each is then queued to run. -/

set_option autoImplicit false

namespace QueryCache

/-- What a task computes, perhaps only once a gate is open. -/
structure Work (σ : Type) where
  gate : Option String := none
  run : Attempt σ Value

/-- What a task is resumed with. -/
inductive Signal where
  | begin
  | opened
  | landed (landing : Landing)
  | cancelled
  deriving Repr

structure ReadTask (σ : Type) where
  call : ReadCall
  work : Work σ
  phase : Phase := Coordinator.start
  /-- What the task is queued to be resumed with. -/
  signal : Option Signal := none

/-- What is queued to be done. -/
inductive Ready where
  | resume (task : String)
  /-- Tells a task of the landing of its flight. -/
  | relay (task : String) (flight : Nat) (landing : Landing)
  /-- Whatever is due by now. -/
  | due
  deriving Repr

structure Tasks (σ : Type) where
  service : Service σ
  tasks : Table (ReadTask σ) := []
  ready : List Ready := []
  /-- The tasks that joined flights, in the order they did. -/
  joined : List (Nat × String) := []
  /-- The tasks that wait at gates, in the order they came. -/
  gated : List (String × String) := []
  opened : List String := []
  /-- The tasks whose computation began, in order. -/
  computed : List String := []

namespace Tasks

variable {σ : Type}

def isFinished : Phase → Bool
  | .finished _ => true
  | _ => false

/-- The outcome of a task that has ended. -/
def outcome? (t : Tasks σ) (name : String) : Option (Except Failure Value) :=
  match Table.get? t.tasks name with
  | some task =>
    match task.phase with
    | .finished outcome => some outcome
    | _ => none
  | none => none

def enqueue (t : Tasks σ) (item : Ready) : Tasks σ := { t with ready := t.ready ++ [item] }

/-- Queues a task to be resumed. -/
def wake (t : Tasks σ) (name : String) (task : ReadTask σ) (signal : Signal) : Tasks σ :=
  { t with
    tasks := Table.put t.tasks name { task with signal := some signal }
    ready := t.ready ++ [.resume name] }

/-- Queues the relays of a landing. -/
def land (t : Tasks σ) (landing : Option (Nat × Landing)) : Tasks σ :=
  match landing with
  | none => t
  | some (flight, landing) =>
    let waiters := t.joined.filter (·.1 == flight)
    { t with
      joined := t.joined.filter (·.1 != flight)
      ready := t.ready ++ waiters.map fun entry => .relay entry.2 flight landing }

/-- Takes note of where a task stopped. -/
def park (t : Tasks σ) (name : String) (task : ReadTask σ)
    (stop : Phase × Option (Nat × Landing) × Service σ) : Tasks σ :=
  let (phase, landing, service) := stop
  let t := { t with
    service := service
    tasks := Table.put t.tasks name { task with phase := phase, signal := none } }
  (match phase with
    | .waiting flight => { t with joined := t.joined ++ [(flight, name)] }
    | _ => t).land landing

/-- Runs the computation of a task. -/
def compute (store : CacheStore σ) (t : Tasks σ) (name : String) (task : ReadTask σ)
    (flight startedAt : Nat) : Tasks σ :=
  t.park name task (t.service.compute store task.call task.work.run flight startedAt)

/-- Goes on with a task that stopped somewhere: a computation begins unless its gate is
closed. -/
def carryOn (store : CacheStore σ) (t : Tasks σ) (name : String) (task : ReadTask σ)
    (stop : Phase × Option (Nat × Landing) × Service σ) : Tasks σ :=
  match stop with
  | (.computing flight startedAt, _, service) =>
    let t := { t with service := service, computed := t.computed ++ [name] }
    let closed := task.work.gate.filter fun gate => !t.opened.contains gate
    match closed with
    | none => t.compute store name task flight startedAt
    | some gate =>
      { t.park name task (.computing flight startedAt, none, service) with
        gated := t.gated ++ [(gate, name)] }
  | stop => t.park name task stop

/-- Resumes a task. -/
def resume (store : CacheStore σ) (t : Tasks σ) (name : String) (task : ReadTask σ)
    (signal : Signal) : Tasks σ :=
  let s := t.service
  let step (step : Step) : Tasks σ := t.carryOn store name task (s.goOn store task.call step)
  match signal, task.phase with
  | .cancelled, phase => step (s.coordinator.cancel task.call phase)
  | .opened, .computing flight startedAt => t.compute store name task flight startedAt
  | .landed landing, .waiting _ => step (s.coordinator.afterLanding task.call landing)
  | _, phase =>
    t.carryOn store name task (s.proceed store task.call (Coordinator.rank phase) phase)

/-- Does one queued thing. -/
def perform (store : CacheStore σ) (t : Tasks σ) : Ready → Tasks σ
  | .resume name =>
    match Table.get? t.tasks name with
    | some task =>
      match task.signal with
      | some signal => t.resume store name { task with signal := none } signal
      | none => t
    | none => t
  | .relay name flight landing =>
    match Table.get? t.tasks name with
    | some task =>
      match task.phase, task.signal with
      | .waiting other, none =>
        if other = flight then t.wake name task (.landed landing) else t
      | _, _ => t
    | none => t
  | .due => { t with service := { t.service with host := store.settle t.service.host } }

/-- Does what is queued, in order, until `stop` holds or nothing is left; the fuel bounds the
number of things done. -/
def run (store : CacheStore σ) (stop : Tasks σ → Bool) : Nat → Tasks σ → Tasks σ
  | 0, t => t
  | fuel + 1, t =>
    if stop t then t
    else
      match t.ready with
      | [] => t
      | item :: rest => run store stop fuel ({ t with ready := rest }.perform store item)

/-- Enough fuel for everything that can come of what is queued: every landing is told to each
task at most once. -/
def fuel (t : Tasks σ) : Nat := t.ready.length + 4 * power (t.tasks.length + 2) 2

/-- Runs until nothing can go on. -/
def settle (store : CacheStore σ) (t : Tasks σ) : Tasks σ :=
  let t := t.enqueue .due
  t.run store (fun _ => false) t.fuel

/-- Queues a new task. -/
def spawn (t : Tasks σ) (name : String) (call : ReadCall) (work : Work σ) : Tasks σ :=
  t.wake name { call := call, work := work } .begin

/-- Runs a call as a task of its own up to its end, and others only while it waits. -/
def call (store : CacheStore σ) (t : Tasks σ) (name : String) (call : ReadCall)
    (work : Work σ) : Except Failure Value × Tasks σ :=
  let t := t.resume store name { call := call, work := work } .begin
  let ended (t : Tasks σ) : Bool := (t.outcome? name).isSome
  let t := if ended t then t else
    let t := t.enqueue .due
    t.run store ended t.fuel
  ((t.outcome? name).getD (.error .cancelled), { t with tasks := Table.erase t.tasks name })

/-- Opens a gate; those who wait at it are queued in the order they came. -/
def release (t : Tasks σ) (gate : String) : Tasks σ :=
  let waiting := t.gated.filter (·.1 == gate)
  let t := { t with
    opened := gate :: t.opened
    gated := t.gated.filter (·.1 != gate) }
  waiting.foldl (fun t entry =>
    match Table.get? t.tasks entry.2 with
    | some task => if task.signal.isNone then t.wake entry.2 task .opened else t
    | none => t) t

/-- Cancels a task, and tells whether it was still running. -/
def cancel (t : Tasks σ) (name : String) : Bool × Tasks σ :=
  match Table.get? t.tasks name with
  | none => (false, t)
  | some task =>
    if isFinished task.phase then (false, t)
    else if task.signal.isSome then
      (true, { t with
        tasks := Table.put t.tasks name { task with signal := some .cancelled } })
    else
      (true, { t with
        joined := t.joined.filter (·.2 != name)
        gated := t.gated.filter (·.2 != name) }.wake name task .cancelled)

/-- Cancels several tasks, and tells of each whether it was still running. -/
def cancelAll (t : Tasks σ) : List String → List Bool × Tasks σ
  | [] => ([], t)
  | name :: rest =>
    let (was, t) := t.cancel name
    let (others, t) := t.cancelAll rest
    (was :: others, t)

/-- Lets time pass: what is queued runs first. -/
def sleep (store : CacheStore σ) (seconds : Binary64) (t : Tasks σ) : Tasks σ :=
  let t := t.run store (fun _ => false) t.fuel
  let host := store.settle (store.pass seconds t.service.host)
  { t with service := { t.service with host := host } }

/-- Invalidates tags; other tasks run while it waits. -/
def invalidate (store : CacheStore σ) (tags : List String) (strict : Bool) (t : Tasks σ) :
    Except Failure Bool × Tasks σ :=
  Service.invalidateIn store (·.service) (fun s t => { t with service := s }) (sleep store)
    tags strict t

/-- The tasks that have ended, with their outcomes, and the rest of the tasks. -/
def collect (t : Tasks σ) : List (String × Except Failure Value) × Tasks σ :=
  let ended := t.tasks.filterMap fun entry =>
    (t.outcome? entry.1).map ((entry.1, ·))
  (ended, { t with tasks := t.tasks.filter fun entry => !isFinished entry.2.phase })

end Tasks

end QueryCache
