import BatchOperator.Worker

/-!
# Crews

Several workers that share a queue and take turns. A turn begins with a step that the worker has
been waiting for, a request that is answered or a sleep that is over, and goes on until the worker
makes its next request or sleeps. What the world does meanwhile is seen between two turns.
-/

set_option autoImplicit false

namespace BatchOperator

namespace Worker

/-- Whether the next step of a worker makes a request. -/
def isAtRequest : Worker → Bool
  | .working _ stage => stage.isRequest
  | _ => false

/-- Whether a worker has stopped. -/
def isStopped : Worker → Bool
  | .stopped => true
  | _ => false

end Worker

/-- Workers that take turns, each with its number. -/
structure Crew where
  /-- The worker whose turn it is. -/
  active : Option (Nat × Worker) := none
  /-- The other workers, the one with the longest time since its turn first. -/
  others : List (Nat × Worker)

namespace Crew

variable {σ : Type}

/-- A number of workers that are about to look for work. -/
def ofSize (size : Nat) : Crew :=
  { others := (List.range size).map fun number => (number, .looking) }

/-- All workers. -/
def members (c : Crew) : List (Nat × Worker) := c.active.toList ++ c.others

/-- Whether all workers have stopped. -/
def isStopped (c : Crew) : Bool := c.members.all fun (_, worker) => worker.isStopped

/-- The moments at which workers wake up by themselves. -/
def moments (c : Crew) : List Instant := c.members.filterMap fun (_, worker) => worker.moment?

/-- Goes on with the turn of a worker, or ends it. -/
def goOn (c : Crew) (env : Surroundings (Operator σ)) (timeout : Duration) (now : Instant)
    (o : Operator σ) : Option (Crew × Operator σ) :=
  match c.active with
  | none => none
  | some (number, worker) =>
    -- A request ends the turn: others go on while it is answered.
    if worker.isReady number now o && !worker.isAtRequest then
      let (worker, o) := worker.step env timeout number now o
      some ({ c with active := some (number, worker) }, o)
    else some ({ active := none, others := c.others ++ [(number, worker)] }, o)

/-- The first worker that can make a step, and the others. -/
def takeReady (now : Instant) (o : Operator σ) :
    List (Nat × Worker) → Option ((Nat × Worker) × List (Nat × Worker))
  | [] => none
  | (number, worker) :: rest =>
    if worker.isReady number now o then some ((number, worker), rest)
    else (takeReady now o rest).map fun (found, others) => (found, (number, worker) :: others)

/-- Begins the turn of the first worker that can make a step. -/
def begin (c : Crew) (env : Surroundings (Operator σ)) (timeout : Duration) (now : Instant)
    (o : Operator σ) : Option (Crew × Operator σ) :=
  match c.active with
  | some _ => none
  | none =>
    (takeReady now o c.others).map fun ((number, worker), others) =>
      let (worker, o) := worker.step env timeout number now o
      ({ active := some (number, worker), others }, o)

end Crew

end BatchOperator
