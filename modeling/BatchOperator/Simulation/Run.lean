import BatchOperator.Clockwork
import BatchOperator.Simulation.Store

/-!
# Running over a store in memory

A worker, and a pass that somebody waits for, over a store in memory and a clock that only moves
when nothing else can. Everything that can be done at a moment is done before time passes; what is
due at a moment happens before the work that it makes.
-/

set_option autoImplicit false

namespace BatchOperator.Simulation

/-- A run over a store in memory. -/
structure Run where
  world : World
  childSyncTimeout : Duration
  worker : Option Worker := none
  /-- A pass that somebody waits for. -/
  pass : Option Stage := none

namespace Run

/-- The moment at which the run is. -/
def now (r : Run) : Instant := r.world.outside.now

/-- The number of the only worker. -/
def workerNumber : Nat := 0

/-- A step of the pass that somebody waits for, if it can make one. -/
def stepPass (r : Run) : Option Run :=
  match r.pass with
  | none | some (.finished _) => none
  | some stage =>
    if stage.moment?.all fun moment => moment ≤ r.now then
      let (stage, world) := stage.step surroundings r.childSyncTimeout r.now r.world
      some { r with world, pass := some stage }
    else none

/-- A step of the worker, if it can make one. -/
def stepWorker (r : Run) : Option Run :=
  match r.worker with
  | none => none
  | some worker =>
    if worker.isReady workerNumber r.now r.world then
      let (worker, world) :=
        worker.step surroundings r.childSyncTimeout workerNumber r.now r.world
      some { r with world, worker := some worker }
    else none

/-- A step of the pass, or of the worker when the pass has to wait. -/
def step (r : Run) : Option Run := r.stepPass <|> r.stepWorker

/-- The next moment at which something is due. -/
def nextMoment (r : Run) : Option Instant :=
  WorkQueue.earliest (r.world.outside.arrivals.map (·.due) ++ r.world.queue.nextDue.toList ++
    (r.worker.bind Worker.moment?).toList ++ (r.pass.bind Stage.moment?).toList)

/-- Shows the children that arrive until now. -/
def arrive (w : World) : World :=
  let (due, later) := w.outside.arrivals.partition fun a => a.due ≤ w.outside.now
  let w := w.withStore fun s => { s with arrivals := later }
  due.foldl (fun w a => (w.putChild a.child).2) w

/-- Moves the clock to a moment, and lets happen what is due. -/
def moveTo (moment : Instant) (r : Run) : Run :=
  -- Children are seen before the work that is due is added.
  let w := arrive (r.world.withStore fun s => { s with now := moment })
  { r with world := { w with queue := w.queue.addDue moment } }

/-- The clock of a run. -/
def clock : Clockwork Run := { step, nextMoment, moveTo }

/-- Whether nobody waits for a pass any more. -/
def isPassOver (r : Run) : Bool :=
  match r.pass with
  | none | some (.finished _) => true
  | some _ => false

/-- Makes a pass over a unit of work and waits for it. -/
def sync (fuel : Nat) (key : WorkKey) (r : Run) : Except Error Unit × Run :=
  let r := clock.await isPassOver fuel fuel { r with pass := some (.ofKey r.world.caches key) }
  match r.pass with
  | some (.finished result) => (result, { r with pass := none })
  | _ => (.ok (), { r with pass := none })

/-- The children of a namespace that have not ended, in the order of their names. -/
def unfinished (w : World) (ns : String) : List Pod :=
  w.caches.children.objects.entries.filterMap fun (key, pod) =>
    if key.ns = ns ∧ !pod.phase.isTerminal then some pod else none

/-- A child in another phase. -/
def inPhase (pod : Pod) (phase : String) : Pod :=
  { pod with status := some { phase := some phase } }

/-- Everything in the queue, taken out one after the other, at most `fuel` units of work. -/
def drain : Nat → WorkQueue WorkKey → List WorkKey × WorkQueue WorkKey
  | 0, q => ([], q)
  | fuel + 1, q =>
    match q.look with
    | (.item key, q) =>
      let (keys, q) := drain fuel (q.done key)
      (key :: keys, q)
    | (_, q) => ([], q)

end Run

end BatchOperator.Simulation
