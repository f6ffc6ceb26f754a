import BatchOperator.Metrics
import BatchOperator.Queue.Delays
import BatchOperator.Reconcile.Pass
import BatchOperator.Routing

/-!
# Workers

A worker takes one unit of work after the other from the queue and makes a pass over it. The result
of a pass decides what becomes of the work: after a success its failures are forgotten, after a
failure that may pass it is added again with a delay, and after any other failure it is dropped.
`Worker.step` is one step of one worker; any number of workers can share a queue.
-/

set_option autoImplicit false

namespace BatchOperator

/-- What becomes of the work after a pass. -/
inductive PassResult where
  | success
  /-- The pass failed and is tried again. -/
  | retry
  /-- The pass failed for good. -/
  | dropped
  deriving DecidableEq, Repr

namespace PassResult

/-- What becomes of the work after a pass with this result. -/
def ofResult : Except Error Unit → PassResult
  | .ok () => .success
  | .error e => if e.isRetryable then .retry else .dropped

/-- The name of a result in metrics. -/
def label : PassResult → String
  | .success => "success"
  | .retry => "retry"
  | .dropped => "dropped"

end PassResult

/-- An operator at work: what it sees and holds, and all that is outside of it. -/
structure Operator (σ : Type) where
  /-- The API server and whatever else there is. -/
  outside : σ
  caches : Caches := {}
  queue : WorkQueue WorkKey
  metrics : Metrics := {}

namespace Operator

variable {σ : Type}

/-- Whether the cache of children has the child of a key. -/
def sees (key : ObjectKey) (o : Operator σ) : Bool := (o.caches.children.get? key).isSome

/-- Counts something. -/
def count (c : Count) (o : Operator σ) : Operator σ :=
  match c with
  | .childCreated => { o with metrics := o.metrics.countCreated 1 }
  | .batchCompleted outcome => { o with metrics := o.metrics.countCompleted outcome.label 1 }

/-- Adds units of work to the queue. -/
def enqueue (o : Operator σ) (keys : List WorkKey) : Operator σ :=
  { o with queue := keys.foldl WorkQueue.add o.queue }

/-- Adds the work that follows from changes of batches. -/
def routeBatches (o : Operator σ) (changes : List (Change JobBatch)) : Operator σ :=
  o.enqueue (changes.flatMap fun change => Routing.told (Routing.batchKeys change))

/-- Adds the work that follows from changes of children. -/
def routeChildren (o : Operator σ) (changes : List (Change Pod)) : Operator σ :=
  o.enqueue (changes.flatMap fun change => Routing.told (Routing.childKeys change))

/-- All metrics, those of the queue included. -/
def allMetrics (o : Operator σ) : Metrics :=
  { o.metrics with depth := o.queue.depth, retries := o.queue.retries }

/-- What becomes of a unit of work after a pass. -/
def conclude (o : Operator σ) (now : Instant) (key : WorkKey) (result : Except Error Unit) :
    Operator σ :=
  let verdict := PassResult.ofResult result
  -- The delay is asked for before the item is done, while it is still being processed.
  let queue := match verdict with
    | .success | .dropped => o.queue.forget key
    | .retry => o.queue.addRateLimited now key
  { o with metrics := o.metrics.countReconciled verdict.label 1, queue := queue.done key }

end Operator

/-- What a worker is doing. -/
inductive Worker where
  /-- It is about to look for work. -/
  | looking
  /-- It sleeps until there is work. -/
  | asleep
  | working (key : WorkKey) (stage : Stage)
  /-- There will be no more work. -/
  | stopped

namespace Worker

variable {σ : Type}

/-- Whether a worker with a number can make a step at `now`. -/
def isReady (number : Nat) (now : Instant) (o : Operator σ) : Worker → Bool
  | .looking => true
  | .asleep => o.queue.bell.woken.any fun (getter, _) => getter == number
  | .working _ stage => stage.moment?.all fun moment => moment ≤ now
  | .stopped => false

/-- When a worker wakes up by itself, if it does. -/
def moment? : Worker → Option Instant
  | .working _ stage => stage.moment?
  | _ => none

/-- What a worker does after a look at the queue. -/
def afterLook (o : Operator σ) : Look WorkKey × WorkQueue WorkKey → Worker × Operator σ
  | (.item key, queue) => (.working key (.ofKey o.caches key), { o with queue })
  | (.shutDown, queue) => (.stopped, { o with queue })
  | (.nothing, queue) => (.asleep, { o with queue })

/-- One step of the worker with a number. A child may take the time `timeout` to be seen. -/
def step (env : Surroundings (Operator σ)) (timeout : Duration) (number : Nat) (now : Instant)
    (o : Operator σ) : Worker → Worker × Operator σ
  | .looking => afterLook o (o.queue.get number)
  | .asleep => afterLook o (o.queue.getAgain number)
  | .working key (.finished result) => (.looking, o.conclude now key result)
  | .working key stage =>
    let (stage, o) := stage.step env timeout now o
    (.working key stage, o)
  | .stopped => (.stopped, o)

end Worker

end BatchOperator
